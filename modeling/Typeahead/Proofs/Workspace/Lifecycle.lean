import Typeahead.Proofs.Engine.Writing
import Typeahead.Proofs.Workspace.Closing

/-!
# The register and the connections

A lifecycle operation connects a document, ends its session, or ends every session. It is
complete when the sessions that it displaces have ended; in the meantime anything may happen
but another such operation (`Completes`). A `History` is any sequence of complete
operations, of other moves, and of changes in what connecting will bring.

After every history register and connections agree: `register_agrees`. A connection belongs to
the session that is registered for its document, or its session has ended. The invariant,
`Agrees`, allows for sessions that are still waited for while an operation is under way.
-/

namespace Typeahead

namespace Session

variable {session after : Session} {exchanges : List Exchange}

/-- What a session keeps whatever happens to it: its document and its host, its end, and that its
stream is shut down at the end of the outbound side. -/
structure Keeps (session after : Session) : Prop where
  document : after.document = session.document
  place : after.host = session.host
  ended : session.hasEnded = true → after.hasEnded = true
  shuts : session.outlet.Shuts → after.outlet.Shuts

/-- A session to which nothing happens keeps these. -/
theorem Keeps.refl (session : Session) : session.Keeps session :=
  ⟨rfl, rfl, id, id⟩

/-- What is kept for a while, and then for another one, is kept. -/
theorem Keeps.trans {middle : Session} (first : session.Keeps middle)
    (second : middle.Keeps after) : session.Keeps after :=
  ⟨second.document.trans first.document, second.place.trans first.place,
    second.ended ∘ first.ended, second.shuts ∘ first.shuts⟩

/-- Every turn keeps these. -/
theorem Turn.keeps (turn : session.Turn exchanges after) : session.Keeps after := by
  cases turn with
  | asked requests =>
    obtain ⟨sent, queue, news, -, same⟩ := sendAll_heard requests session
    rw [same]
    exact ⟨rfl, rfl, id, id⟩
  | inbound turn =>
    refine ⟨rfl, rfl, ?_, id⟩
    intro ended
    simp only [hasEnded, Bool.and_eq_true, decide_eq_true_eq] at ended ⊢
    exact ⟨⟨turn.finished ended.1.1, ended.1.2⟩, ended.2⟩
  | outbound turn =>
    cases turn with
    | cut => exact ⟨rfl, rfl, id, id⟩
    | worked worked =>
      refine ⟨rfl, rfl, ?_, fun shuts => (shuts.step worked).2⟩
      intro ended
      have rests := (hasEnded_rests ended).2.1
      rw [stepOutlet, worked] at rests
      cases rests
  | cancelled => exact ⟨rfl, rfl, id, id⟩
  | worked stepped =>
    have unended : session.hasEnded = true → after.hasEnded = true := by
      intro ended
      cases ((hasEnded_rests ended).2.2 _ _).symm.trans stepped
    cases stepWorker_cases stepped with
    | takes =>
      obtain ⟨_, _, -, same⟩ := beginReply_effects _ _ _
      rw [same] at unended ⊢
      exact ⟨rfl, rfl, unended, id⟩
    | _ => exact ⟨rfl, rfl, unended, id⟩

/-- So does every course. -/
theorem Course.keepsAll (course : session.Course exchanges after) : session.Keeps after := by
  induction course with
  | rest session => exact .refl session
  | turn turn _ inductionHypothesis => exact turn.keeps.trans inductionHypothesis

end Session

/-- An operation that makes or ends sessions. -/
inductive Lifecycle where
  /-- A document is connected, with a host and for a language. -/
  | activate (document : DocumentId) (host : Nat) (language : Text)
  /-- The session of a document is ended. -/
  | deactivate (document : DocumentId)
  /-- Every session is ended. -/
  | shutdown
deriving Repr, DecidableEq

namespace Lifecycle

/-- Whether an operation is one on a document. -/
def concerns (document : DocumentId) : Lifecycle → Bool
  | .activate other _ _ => other = document
  | .deactivate other => other = document
  | .shutdown => true

/-- Whether an operation counts that has succeeded or not: connecting a document changes nothing
when it fails. -/
def counts : Lifecycle → Bool → Bool
  | .activate _ _ _, succeeded => succeeded
  | _, _ => true

/-- Whether an operation ends sessions and makes none. -/
def closing : Lifecycle → Bool
  | .activate _ _ _ => false
  | .deactivate _ | .shutdown => true

/-- The latest operation on a document, in a sequence of operations that have succeeded or not. -/
def latest? (document : DocumentId) (operations : List (Lifecycle × Bool)) : Option Lifecycle :=
  ((operations.filter fun (operation, succeeded) =>
    operation.counts succeeded && operation.concerns document).getLast?).map Prod.fst

/-- The latest operation is the last one of the sequence, if that counts and is one on the
document. -/
theorem latest?_concat (document : DocumentId) (operations : List (Lifecycle × Bool))
    (operation : Lifecycle) (succeeded : Bool) :
    latest? document (operations ++ [(operation, succeeded)]) =
      if operation.counts succeeded && operation.concerns document then some operation
      else latest? document operations := by
  simp only [latest?, List.filter_append, List.filter_cons, List.filter_nil]
  split <;> simp

/-- Whether the host with which a document is connected exists. -/
def Hosted (workspace : Workspace) : Lifecycle → Prop
  | .activate _ host _ => host < workspace.hosts.length
  | _ => True

/-- How many connections an operation takes: those that are not to be had any more when the document
has been connected. -/
def taken (workspace : Workspace) : Lifecycle → Nat
  | .activate document host language =>
    workspace.lines.length - (workspace.activate document host language).1.lines.length
  | _ => 0

end Lifecycle

namespace Workspace

variable {workspace middle next : Workspace} {number : Nat} {numbers : List Nat}

/-- A move that is no part of a lifecycle operation. -/
def Move.Aside : Move → Prop
  | .activate _ _ _ => False
  | .forget _ => False
  | .cancel _ => False
  | _ => True

/-- A session is waited for until it has ended; in the meantime other moves are made. -/
def Awaited (workspace : Workspace) (number : Nat) (next : Workspace) : Prop :=
  ∃ moves, (∀ move ∈ moves, Move.Aside move) ∧ next = workspace.run moves ∧
    next.Holds number fun session => session.hasEnded = true

/-- Sessions are told to stop and waited for, one after another. -/
inductive Closes : List Nat → Workspace → Workspace → Prop where
  | done (workspace : Workspace) : Closes [] workspace workspace
  | next {workspace middle next : Workspace} {number : Nat} {rest : List Nat}
      (awaited : (workspace.cancel number).Awaited number middle)
      (closes : Closes rest middle next) : Closes (number :: rest) workspace next

/-- A lifecycle operation from beginning to end, with whether it succeeds. -/
inductive Completes (workspace : Workspace) : Lifecycle → Bool → Workspace → Prop where
  /-- A document cannot be connected. -/
  | refused {document : DocumentId} {host : Nat} {language : Text} {fault : Fault}
      {next : Workspace}
      (failed : workspace.activate document host language = (next, .error fault)) :
      Completes workspace (.activate document host language) false next
  /-- A document is connected that had no session. -/
  | connected {document : DocumentId} {host : Nat} {language : Text} {next : Workspace}
      (opened : workspace.activate document host language = (next, .ok none)) :
      Completes workspace (.activate document host language) true next
  /-- A document is connected, and the session that it had before ends. -/
  | replaced {document : DocumentId} {host : Nat} {language : Text} {previous : Nat}
      {middle next : Workspace}
      (opened : workspace.activate document host language = (middle, .ok (some previous)))
      (awaited : middle.Awaited previous next) :
      Completes workspace (.activate document host language) true next
  /-- There is no session to be ended. -/
  | absent {document : DocumentId} (unregistered : workspace.registered? document = none) :
      Completes workspace (.deactivate document) false workspace
  /-- The session of a document ends. -/
  | deactivated {document : DocumentId} {number : Nat} {next : Workspace}
      (registered : workspace.registered? document = some number)
      (closes : Closes [number] (workspace.forget document) next) :
      Completes workspace (.deactivate document) true next
  /-- Every session in the register ends, in any order. -/
  | shutDown {numbers : List Nat} {next : Workspace}
      (all : ∀ number, number ∈ numbers ↔ ∃ document, workspace.registered? document = some number)
      (closes : Closes numbers { workspace with registered := [] } next) :
      Completes workspace .shutdown true next

/-- What has happened to a workspace so far: its complete lifecycle operations, in order and with
their success, and how many connections were handed out for them. -/
inductive History : List (Lifecycle × Bool) → Nat → Workspace → Prop where
  /-- There are no documents yet. -/
  | start (settings : Settings) (directory : Text) (lines : List Line) (refusal : Fault) :
      History [] 0 (start settings directory lines refusal)
  /-- Another move is made. -/
  | move {operations : List (Lifecycle × Bool)} {handed : Nat} {workspace : Workspace} {move : Move}
      (history : History operations handed workspace) (aside : move.Aside) :
      History operations handed (workspace.perform move)
  /-- From now on connecting has other results. -/
  | supply {operations : List (Lifecycle × Bool)} {handed : Nat} {workspace : Workspace}
      (history : History operations handed workspace) (lines : List Line) (refusal : Fault) :
      History operations handed { workspace with lines, refusal }
  /-- A lifecycle operation is carried out. -/
  | complete {operations : List (Lifecycle × Bool)} {handed : Nat} {workspace next : Workspace}
      {operation : Lifecycle} {succeeded : Bool} (history : History operations handed workspace)
      (hosted : operation.Hosted workspace)
      (completes : workspace.Completes operation succeeded next) :
      History (operations ++ [(operation, succeeded)]) (handed + operation.taken workspace) next

/-- One workspace comes from another, and in the meantime neither its register nor the number of its
sessions has changed. -/
structure Drifts (workspace next : Workspace) : Prop where
  kept : KeepsRegister workspace next
  hosts : workspace.hosts.length ≤ next.hosts.length
  sessions : ∀ number session, workspace.sessions[number]? = some session →
    next.Holds number session.Keeps

/-- Nothing has changed. -/
theorem Drifts.refl (workspace : Workspace) : workspace.Drifts workspace :=
  ⟨.refl workspace, Nat.le_refl _, fun _ session present => ⟨session, present, .refl session⟩⟩

/-- What drifts may go on drifting. -/
theorem Drifts.trans (first : workspace.Drifts middle) (second : middle.Drifts next) :
    workspace.Drifts next := by
  refine ⟨first.kept.trans second.kept, Nat.le_trans first.hosts second.hosts, ?_⟩
  intro number session present
  obtain ⟨between, there, keeps⟩ := first.sessions number session present
  obtain ⟨after, last, keepsOn⟩ := second.sessions number between there
  exact ⟨after, last, keeps.trans keepsOn⟩

/-- A move that keeps the register lets a workspace drift. -/
theorem drifts_perform (workspace : Workspace) {move : Move} (other : ¬ Registers move) :
    workspace.Drifts (workspace.perform move) := by
  refine ⟨perform_keeps_register workspace move other, perform_hosts_le workspace move, ?_⟩
  intro number session present
  obtain ⟨after, there, course⟩ := leads_perform present move
  exact ⟨after, there, course.keepsAll⟩

/-- A move aside does not change the register. -/
theorem Move.Aside.keeps {move : Move} (aside : move.Aside) : ¬ Registers move := by
  intro registers
  cases move with
  | activate | forget => exact aside
  | _ => exact registers

/-- So do moves aside. -/
theorem drifts_run (workspace : Workspace) {moves : List Move}
    (aside : ∀ move ∈ moves, Move.Aside move) : workspace.Drifts (workspace.run moves) := by
  induction moves generalizing workspace with
  | nil => exact .refl workspace
  | cons move rest inductionHypothesis =>
    obtain ⟨first, later⟩ := List.forall_mem_cons.mp aside
    exact (drifts_perform workspace first.keeps).trans (inductionHypothesis _ later)

/-- Telling a session to stop does not change the register. -/
theorem drifts_cancel (workspace : Workspace) (number : Nat) :
    workspace.Drifts (workspace.cancel number) :=
  workspace.drifts_perform (id : ¬ Registers (.cancel number))

/-- The sessions of a workspace are accounted for: the register names each by its document, and one
that is not in the register has ended, or is waited for. -/
structure Accounted (waiting : List Nat) (workspace : Workspace) : Prop where
  named : ∀ document number, workspace.registered? document = some number →
    workspace.Holds number fun session => session.document = document
  ended : ∀ number session, workspace.sessions[number]? = some session →
    workspace.registered? session.document = some number ∨ session.hasEnded = true ∨
      number ∈ waiting
  hosted : workspace.Everywhere fun session => session.host < workspace.hosts.length
  shuts : workspace.Everywhere fun session => session.outlet.Shuts

/-- The sessions of a workspace that drifts stay accounted for. -/
theorem Accounted.drift (accounted : Accounted numbers workspace)
    (drifts : workspace.Drifts next) : Accounted numbers next := by
  have register (document : DocumentId) :
      next.registered? document = workspace.registered? document := by
    rw [registered?, registered?, drifts.kept.register]
  have before (number : Nat) (session : Session) (present : next.sessions[number]? = some session) :
      ∃ earlier, workspace.sessions[number]? = some earlier ∧ earlier.Keeps session := by
    have inside := (List.getElem?_eq_some_iff.mp present).1
    rw [drifts.kept.count] at inside
    have there := List.getElem?_eq_getElem inside
    obtain ⟨after, last, keeps⟩ := drifts.sessions number _ there
    obtain rfl := Option.some.inj (last.symm.trans present)
    exact ⟨_, there, keeps⟩
  constructor
  · intro document number registered
    rw [register] at registered
    obtain ⟨session, present, named⟩ := accounted.named document number registered
    obtain ⟨after, there, keeps⟩ := drifts.sessions number session present
    exact ⟨after, there, keeps.document.trans named⟩
  · intro number session present
    obtain ⟨earlier, there, keeps⟩ := before number session present
    rw [keeps.document, register]
    exact (accounted.ended number earlier there).imp id (.imp keeps.ended id)
  · intro number session present
    obtain ⟨earlier, there, keeps⟩ := before number session present
    rw [keeps.place]
    exact Nat.lt_of_lt_of_le (accounted.hosted number earlier there) drifts.hosts
  · intro number session present
    obtain ⟨earlier, there, keeps⟩ := before number session present
    exact keeps.shuts (accounted.shuts number earlier there)

/-- A session that has ended need not be waited for. -/
theorem Accounted.endOne (accounted : Accounted (number :: numbers) workspace)
    (ended : workspace.Holds number fun session => session.hasEnded = true) :
    Accounted numbers workspace := by
  refine ⟨accounted.named, ?_, accounted.hosted, accounted.shuts⟩
  intro other session present
  rcases accounted.ended other session present with registered | stopped | waiting
  · exact .inl registered
  · exact .inr (.inl stopped)
  · rcases List.mem_cons.mp waiting with rfl | later
    · obtain ⟨same, there, stopped⟩ := ended
      obtain rfl := Option.some.inj (there.symm.trans present)
      exact .inr (.inl stopped)
    · exact .inr (.inr later)

/-- While a session is waited for, the workspace drifts. -/
theorem Awaited.drifts (awaited : workspace.Awaited number next) : workspace.Drifts next := by
  obtain ⟨moves, aside, rfl, -⟩ := awaited
  exact workspace.drifts_run aside

/-- When the sessions that are waited for have ended, every session is accounted for. -/
theorem Closes.accounted (closes : Closes numbers workspace next)
    (accounted : Accounted numbers workspace) :
    Accounted [] next ∧ KeepsRegister workspace next := by
  induction closes with
  | done workspace => exact ⟨accounted, .refl workspace⟩
  | @next workspace middle next number rest awaited closes inductionHypothesis =>
    have drifts := (workspace.drifts_cancel number).trans awaited.drifts
    obtain ⟨all, kept⟩ := inductionHypothesis
      ((accounted.drift drifts).endOne awaited.choose_spec.2.2)
    exact ⟨all, drifts.kept.trans kept⟩

/-- Connecting a document fails and changes nothing but what has been asked for, and not even that
when the language is unusable; or it succeeds. -/
theorem activate_results (workspace : Workspace) (document : DocumentId) (host : Nat)
    (language : Text) :
    (∃ contacted fault,
        workspace.activate document host language =
          ({ workspace with contacted }, .error fault) ∧
        ((∃ refusal, Request.start? language = .error refusal) →
          contacted = workspace.contacted)) ∨
      ∃ line lines, Request.start? language = .ok (.start language) ∧
        workspace.lines = line :: lines := by
  by_cases usable : language = [] ∨ Char.ofNat 0 ∈ language
  · have refused : Request.start? language = .error (.unusableLanguage language) := if_pos usable
    exact .inl ⟨workspace.contacted, .refusedRequest (.unusableLanguage language),
      by simp only [activate, refused], fun _ => rfl⟩
  · have made : Request.start? language = .ok (.start language) := if_neg usable
    by_cases given : workspace.lines = []
    · have asked : workspace.activate document host language =
          ({ workspace with contacted :=
              workspace.contacted ++ [workspace.settings.address workspace.directory] },
            .error workspace.refusal) := by
        simp [activate, made, connect, given]
      refine .inl ⟨_, _, asked, ?_⟩
      rintro ⟨refusal, refused⟩
      cases made.symm.trans refused
    · obtain ⟨line, lines, there⟩ := List.exists_cons_of_ne_nil given
      exact .inr ⟨line, lines, made, there⟩

/-- The stream of a session that has just been opened is not shut down. -/
theorem opened_shuts (workspace : Workspace) (document : DocumentId) (host : Nat) (language : Text)
    (line : Line) : (workspace.opened document host language line).outlet.Shuts := by
  have unshut : line.sink.shutdowns = 0 := by
    unfold Line.sink
    split <;> rfl
  exact unshut

/-- Connecting a document takes one connection. -/
theorem taken_activate {document : DocumentId} {language : Text} {line : Line} {lines : List Line}
    (host : Nat) (usable : Request.start? language = .ok (.start language))
    (given : workspace.lines = line :: lines) :
    (Lifecycle.activate document host language).taken workspace = 1 := by
  have left : (workspace.activate document host language).1.lines = lines := by
    rw [activate_eq document host usable given]
    cases workspace.registered? document <;> rfl
  rw [Lifecycle.taken, left, given, List.length_cons, Nat.add_sub_cancel_left]

/-- A session that is there when a document has been connected is the new one, or it was there
before. -/
theorem activate_sessions {document : DocumentId} {host : Nat} {language : Text} {line : Line}
    {lines : List Line} {session : Session} (numbered : workspace.Numbered)
    (usable : Request.start? language = .ok (.start language))
    (given : workspace.lines = line :: lines)
    (present : (workspace.activate document host language).1.sessions[number]? = some session) :
    number = workspace.sessions.length ∧ session = workspace.opened document host language line ∨
      ∃ earlier, workspace.sessions[number]? = some earlier ∧ earlier.Keeps session := by
  have connected := activate_connected document host usable given
  have inside := (List.getElem?_eq_some_iff.mp present).1
  rw [connected.count] at inside
  rcases Nat.lt_or_eq_of_le (Nat.le_of_lt_succ inside) with less | rfl
  · have there := List.getElem?_eq_getElem less
    obtain ⟨after, last, course⟩ := leads_activate there document host language
    obtain rfl := Option.some.inj (last.symm.trans present)
    exact .inr ⟨_, there, course.keepsAll⟩
  · have latest := connected.added (numbered.fresh document)
    exact .inl ⟨rfl, Option.some.inj (present.symm.trans latest)⟩

/-- The register of a workspace whose sessions are accounted for names sessions that exist. -/
theorem Accounted.numbered (accounted : Accounted numbers workspace) : workspace.Numbered := by
  intro document number registered
  obtain ⟨session, present, -⟩ := accounted.named document number registered
  exact (List.getElem?_eq_some_iff.mp present).1

/-- A document that has been connected has a session of its own, and every session is accounted for
when the one that it had before is waited for. -/
theorem Accounted.activate (accounted : Accounted [] workspace) {document : DocumentId} {host : Nat}
    {language : Text} {line : Line} {lines : List Line} (hosted : host < workspace.hosts.length)
    (usable : Request.start? language = .ok (.start language))
    (given : workspace.lines = line :: lines) :
    Accounted (workspace.registered? document).toList
      (workspace.activate document host language).1 := by
  have numbered := accounted.numbered
  have connected := activate_connected document host usable given
  constructor
  · intro other number registered
    rw [connected.register] at registered
    split at registered
    · next same =>
      obtain rfl := Option.some.inj registered
      exact ⟨_, connected.added (numbered.fresh document), same.symm⟩
    · obtain ⟨session, present, named⟩ := accounted.named other number registered
      obtain ⟨after, there, course⟩ := leads_activate present document host language
      exact ⟨after, there, course.keepsAll.document.trans named⟩
  · intro number session present
    rw [connected.register]
    rcases activate_sessions numbered usable given present with
      ⟨rfl, rfl⟩ | ⟨earlier, there, keeps⟩
    · exact .inl (if_pos rfl)
    · rw [keeps.document]
      rcases accounted.ended number earlier there with registered | ended | none
      · by_cases same : earlier.document = document
        · rw [same] at registered
          exact .inr (.inr (by simp [registered]))
        · exact .inl (by rwa [if_neg same])
      · exact .inr (.inl (keeps.ended ended))
      · cases none
  · intro number session present
    rw [workspace.activate_hosts document host language]
    rcases activate_sessions numbered usable given present with
      ⟨rfl, rfl⟩ | ⟨earlier, there, keeps⟩
    · exact hosted
    · rw [keeps.place]
      exact accounted.hosted number earlier there
  · intro number session present
    rcases activate_sessions numbered usable given present with
      ⟨rfl, rfl⟩ | ⟨earlier, there, keeps⟩
    · exact workspace.opened_shuts document host language line
    · exact keeps.shuts (accounted.shuts number earlier there)

/-- What holds of register and sessions after a history. -/
structure Agrees (operations : List (Lifecycle × Bool)) (handed : Nat) (workspace : Workspace) :
    Prop where
  accounted : Accounted [] workspace
  standing : ∀ document, (workspace.registered? document).isSome ↔
    ∃ host language, Lifecycle.latest? document operations = some (.activate document host language)
  handed : handed = workspace.sessions.length

variable {operations : List (Lifecycle × Bool)} {handed : Nat} {operation : Lifecycle}
  {succeeded : Bool}

/-- Register and sessions agree still when the workspace has drifted. -/
theorem Agrees.drift (agrees : Agrees operations handed workspace)
    (drifts : workspace.Drifts next) : Agrees operations handed next := by
  refine ⟨agrees.accounted.drift drifts, ?_, agrees.handed.trans drifts.kept.count.symm⟩
  intro document
  rw [registered?, drifts.kept.register]
  exact agrees.standing document

/-- Register and sessions agree after an operation that changes the register for the documents that
it is about, and for no other one. -/
theorem Agrees.counted (agrees : Agrees operations handed workspace)
    (counts : operation.counts succeeded = true) (accounted : Accounted [] next)
    (count : next.sessions.length = workspace.sessions.length + operation.taken workspace)
    (about : ∀ document, operation.concerns document = true →
      ((next.registered? document).isSome ↔
        ∃ host language, operation = .activate document host language))
    (others : ∀ document, operation.concerns document = false →
      next.registered? document = workspace.registered? document) :
    Agrees (operations ++ [(operation, succeeded)]) (handed + operation.taken workspace) next := by
  refine ⟨accounted, ?_, ?_⟩
  · intro document
    rw [Lifecycle.latest?_concat, counts, Bool.true_and]
    cases concerned : operation.concerns document with
    | true =>
      rw [if_pos rfl, about document concerned]
      simp only [Option.some.injEq]
    | false =>
      rw [others document concerned]
      exact agrees.standing document
  · rw [agrees.handed, count]

/-- Register and sessions agree when a document has been connected and the session that it had
before has ended. -/
theorem Agrees.connect {document : DocumentId} {host : Nat} {language : Text}
    {previous : Option Nat} (agrees : Agrees operations handed workspace)
    (hosted : host < workspace.hosts.length)
    (opened : workspace.activate document host language = (middle, .ok previous))
    (drifts : middle.Drifts next)
    (ended : ∀ number ∈ previous, next.Holds number fun session => session.hasEnded = true) :
    let operation := Lifecycle.activate document host language
    Agrees (operations ++ [(operation, true)]) (handed + operation.taken workspace) next := by
  intro operation
  rcases activate_results workspace document host language with
    ⟨_, _, failed, -⟩ | ⟨line, lines, usable, given⟩
  · cases failed.symm.trans opened
  · have same := (activate_eq document host usable given).symm.trans opened
    obtain ⟨-, known⟩ := Prod.mk.inj same
    obtain rfl : workspace.registered? document = previous := Except.ok.inj known
    have accounted : Accounted (workspace.registered? document).toList
        (workspace.activate document host language).1 :=
      agrees.accounted.activate hosted usable given
    have connected := activate_connected document host usable given
    rw [opened] at accounted connected
    have register (other : DocumentId) : next.registered? other =
        if other = document then some workspace.sessions.length
        else workspace.registered? other := by
      rw [registered?, drifts.kept.register]
      exact connected.register other
    refine agrees.counted rfl ?_ ?_ ?_ ?_
    · cases earlier : workspace.registered? document with
      | none =>
        rw [earlier] at accounted
        exact accounted.drift drifts
      | some number =>
        rw [earlier] at accounted
        exact (accounted.drift drifts).endOne (ended number earlier)
    · rw [drifts.kept.count, connected.count, taken_activate host usable given]
    · intro other concerned
      obtain rfl : document = other := of_decide_eq_true concerned
      rw [register, if_pos rfl]
      exact ⟨fun _ => ⟨host, language, rfl⟩, fun _ => rfl⟩
    · intro other unconcerned
      have different : document ≠ other := of_decide_eq_false unconcerned
      rw [register, if_neg different.symm]

/-- Sessions that are taken out of the register are accounted for as long as they are waited for. -/
theorem Accounted.takeOut (accounted : Accounted [] workspace)
    (register : ∀ document number, next.registered? document = some number →
      workspace.registered? document = some number)
    (out : ∀ document number, workspace.registered? document = some number →
      next.registered? document = some number ∨ number ∈ numbers)
    (sessions : next.sessions = workspace.sessions) (hosts : next.hosts = workspace.hosts) :
    Accounted numbers next := by
  constructor
  · intro document number registered
    obtain ⟨session, present, named⟩ := accounted.named document number (register _ _ registered)
    exact ⟨session, sessions ▸ present, named⟩
  · intro number session present
    rw [sessions] at present
    rcases accounted.ended number session present with registered | ended | none
    · exact (out _ _ registered).imp id .inr
    · exact .inr (.inl ended)
    · cases none
  · intro number session present
    rw [hosts]
    exact accounted.hosted number session (sessions ▸ present)
  · intro number session present
    exact accounted.shuts number session (sessions ▸ present)

/-- Register and sessions agree when the documents that an operation is about have been taken out
of the register, and the sessions that they had have ended. -/
theorem Agrees.close {out : Workspace} (agrees : Agrees operations handed workspace)
    (closes : Closes numbers out next) (closing : operation.closing = true)
    (sessions : out.sessions = workspace.sessions) (hosts : out.hosts = workspace.hosts)
    (register : ∀ document, out.registered? document =
      if operation.concerns document then none else workspace.registered? document)
    (waited : ∀ document number, operation.concerns document = true →
      workspace.registered? document = some number → number ∈ numbers) :
    Agrees (operations ++ [(operation, succeeded)]) (handed + operation.taken workspace) next := by
  have uncounted : operation.counts succeeded = true ∧ operation.taken workspace = 0 := by
    cases operation with
    | activate document host language => cases closing
    | deactivate | shutdown => exact ⟨rfl, rfl⟩
  have waiting : Accounted numbers out := by
    refine agrees.accounted.takeOut ?_ ?_ sessions hosts
    · intro document number registered
      rw [register] at registered
      split at registered
      · cases registered
      · exact registered
    · intro document number registered
      cases concerned : operation.concerns document with
      | true => exact .inr (waited document number concerned registered)
      | false => exact .inl (by rwa [register, concerned, if_neg Bool.false_ne_true])
  obtain ⟨accounted, kept⟩ := closes.accounted waiting
  have after (document : DocumentId) : next.registered? document =
      if operation.concerns document then none else workspace.registered? document := by
    rw [registered?, kept.register]
    exact register document
  refine agrees.counted uncounted.1 accounted ?_ ?_ ?_
  · rw [kept.count, sessions, uncounted.2, Nat.add_zero]
  · intro document concerned
    rw [after, if_pos concerned]
    constructor
    · intro registered
      cases registered
    · rintro ⟨host, language, rfl⟩
      cases closing
  · intro document unconcerned
    rw [after, unconcerned, if_neg Bool.false_ne_true]

/-- Register and sessions agree after a complete operation. -/
theorem Agrees.complete (agrees : Agrees operations handed workspace)
    (hosted : operation.Hosted workspace)
    (completes : workspace.Completes operation succeeded next) :
    Agrees (operations ++ [(operation, succeeded)]) (handed + operation.taken workspace) next := by
  cases completes with
  | @refused document host language fault next failed =>
    rcases activate_results workspace document host language with
      ⟨contacted, reason, results, -⟩ | ⟨line, lines, usable, given⟩
    · obtain ⟨rfl, -⟩ := Prod.mk.inj (results.symm.trans failed)
      have untaken : (Lifecycle.activate document host language).taken workspace = 0 := by
        rw [Lifecycle.taken, failed, Nat.sub_self]
      rw [untaken]
      refine ⟨agrees.accounted.takeOut (fun _ _ => id) (fun _ _ => .inl) rfl rfl, ?_, agrees.handed⟩
      intro other
      rw [Lifecycle.latest?_concat]
      exact agrees.standing other
    · cases (activate_eq document host usable given).symm.trans failed
  | connected opened =>
    refine agrees.connect hosted opened (.refl next) ?_
    intro number none
    cases none
  | replaced opened awaited =>
    refine agrees.connect hosted opened awaited.drifts ?_
    intro number previous
    obtain rfl := Option.some.inj previous
    exact awaited.choose_spec.2.2
  | @absent document unregistered =>
    refine agrees.close (.done workspace) rfl rfl rfl ?_ ?_
    · intro other
      split
      · next concerned =>
        obtain rfl : document = other := of_decide_eq_true concerned
        exact unregistered
      · rfl
    · intro other number concerned registered
      obtain rfl : document = other := of_decide_eq_true concerned
      cases unregistered.symm.trans registered
  | @deactivated document number next registered closes =>
    refine agrees.close closes rfl rfl rfl ?_ ?_
    · intro other
      simp only [registered?_forget, Lifecycle.concerns, decide_eq_true_eq, eq_comm (a := other)]
    · intro other earlier concerned entered
      obtain rfl : document = other := of_decide_eq_true concerned
      obtain rfl := Option.some.inj (registered.symm.trans entered)
      exact List.mem_singleton_self number
  | @shutDown numbers next all closes =>
    refine agrees.close closes rfl rfl rfl (fun _ => rfl) ?_
    intro document number _ registered
    exact (all number).mpr ⟨document, registered⟩

/-- Register and sessions agree after every history. -/
theorem History.agrees (history : History operations handed workspace) :
    Agrees operations handed workspace := by
  induction history with
  | start settings directory lines refusal =>
    have nobody (number : Nat) (session : Session) :
        (Workspace.start settings directory lines refusal).sessions[number]? ≠ some session := by
      simp [Workspace.start]
    have nothing (document : DocumentId) :
        (Workspace.start settings directory lines refusal).registered? document = none := rfl
    refine ⟨⟨?_, ?_, ?_, ?_⟩, ?_, rfl⟩
    · intro document number registered
      cases (nothing document).symm.trans registered
    · exact fun number session present => absurd present (nobody number session)
    · exact fun number session present => absurd present (nobody number session)
    · exact fun number session present => absurd present (nobody number session)
    · intro document
      simp [nothing, Lifecycle.latest?]
  | move _ aside agrees => exact agrees.drift (drifts_perform _ aside.keeps)
  | supply _ lines refusal agrees =>
    exact ⟨⟨agrees.accounted.named, agrees.accounted.ended, agrees.accounted.hosted,
      agrees.accounted.shuts⟩, agrees.standing, agrees.handed⟩
  | complete _ hosted completes agrees => exact agrees.complete hosted completes

/-- The documents with a session are those in the register. -/
theorem mem_active (workspace : Workspace) (document : DocumentId) :
    document ∈ workspace.active ↔ (workspace.registered? document).isSome := by
  have unlisted : document ∉ workspace.active ↔ workspace.registered? document = none := by
    rw [active, DocumentId.sort, List.mem_mergeSort, registered?, List.lookup_eq_none_iff]
    simp only [List.mem_map, not_exists, not_and, bne_iff_ne]
    exact forall₂_congr fun entry _ => ne_comm
  rw [← not_iff_not, unlisted, Option.not_isSome_iff_eq_none]

/-- A session that ends by itself, while nothing else happens, has been waited for. -/
theorem Becomes.awaited (becomes : workspace.Becomes next)
    (ended : next.Holds number fun session => session.hasEnded = true) :
    workspace.Awaited number next := by
  obtain ⟨moves, own, rfl⟩ := becomes
  refine ⟨moves, ?_, rfl, ended⟩
  intro move member
  have ofItself := own move member
  cases move with
  | act | pass => exact trivial
  | _ => cases ofItself

/-- Closing sessions one after another ends them, if they have hosts. -/
theorem closes_foldl
    (hosted : ∀ number ∈ numbers, workspace.Holds number fun session =>
      session.host < workspace.hosts.length) :
    Closes numbers workspace (numbers.foldl close workspace) := by
  induction numbers generalizing workspace with
  | nil => exact .done workspace
  | cons number rest inductionHypothesis =>
    obtain ⟨⟨session, present, place⟩, others⟩ := List.forall_mem_cons.mp hosted
    obtain ⟨becomes, ended⟩ := close_ended present place
    have awaited := becomes.awaited ended
    have drifts := (workspace.drifts_cancel number).trans awaited.drifts
    refine .next awaited (inductionHypothesis ?_)
    intro other member
    obtain ⟨there, before, inside⟩ := others other member
    obtain ⟨after, last, keeps⟩ := drifts.sessions other there before
    have inside' := Nat.lt_of_lt_of_le inside drifts.hosts
    exact ⟨after, last, Nat.lt_of_le_of_lt (Nat.le_of_eq keeps.place) inside'⟩

/-- The session that is registered for a document has a host. -/
theorem Accounted.place (accounted : Accounted numbers workspace) {document : DocumentId}
    (registered : workspace.registered? document = some number) :
    workspace.Holds number fun session => session.host < workspace.hosts.length := by
  obtain ⟨session, present, -⟩ := accounted.named document number registered
  exact ⟨session, present, accounted.hosted number session present⟩

/-- Connecting a document and waiting for the session that it had before is a complete
operation. -/
theorem Accounted.replace_completes (accounted : Accounted [] workspace) (document : DocumentId)
    (host : Nat) (language : Text) :
    workspace.Completes (.activate document host language)
      (workspace.replace document host language).2.isOk
      (workspace.replace document host language).1 := by
  rcases activate_results workspace document host language with
    ⟨contacted, fault, failed, -⟩ | ⟨line, lines, usable, given⟩
  · simp only [replace, failed]
    exact .refused failed
  · have opened := activate_eq document host usable given
    cases registered : workspace.registered? document with
    | none =>
      simp only [registered, Option.elim_none] at opened
      simp only [replace, opened, Option.elim_none]
      exact .connected opened
    | some previous =>
      simp only [registered, Option.elim_some] at opened
      simp only [replace, opened, Option.elim_some]
      obtain ⟨session, present, place⟩ := accounted.place registered
      have told : ((workspace.placed document host language line lines).cancel
          previous).sessions[previous]? = some session.cancel := by
        have inside := (List.getElem?_eq_some_iff.mp present).1
        simp [cancel, List.getElem?_append_left inside, present]
      obtain ⟨becomes, ended⟩ := awaitEnd_ended told place rfl
      exact .replaced opened (becomes.awaited ended)

/-- Ending the session of a document is a complete operation. -/
theorem Accounted.deactivate_completes (accounted : Accounted [] workspace)
    (document : DocumentId) :
    workspace.Completes (.deactivate document) (workspace.deactivate document).2
      (workspace.deactivate document).1 := by
  unfold deactivate
  split
  · next unregistered => exact .absent unregistered
  · next number registered =>
    have place : ∀ only ∈ [number], (workspace.forget document).Holds only fun session =>
        session.host < workspace.hosts.length :=
      List.forall_mem_singleton.mpr (accounted.place registered)
    exact .deactivated registered (closes_foldl place)

/-- Ending every session is a complete operation. -/
theorem Accounted.shutdown_completes (accounted : Accounted [] workspace) :
    workspace.Completes .shutdown true workspace.shutdown := by
  have all (number : Nat) : number ∈ workspace.active.filterMap workspace.registered? ↔
      ∃ document, workspace.registered? document = some number := by
    rw [List.mem_filterMap]
    constructor
    · rintro ⟨document, -, registered⟩
      exact ⟨document, registered⟩
    · rintro ⟨document, registered⟩
      exact ⟨document, (workspace.mem_active document).mpr (by rw [registered]; rfl), registered⟩
  refine .shutDown all (closes_foldl ?_)
  intro number member
  obtain ⟨document, registered⟩ := (all number).mp member
  exact accounted.place registered

/-- Register and connections agree, after any sequence of complete lifecycle operations with any
other moves and results of connecting in between.

The documents with a session are those whose latest operation that counts was that of connecting
them. Each one has a connection of its own. A connection that was handed out is that of a session,
and belongs to the session that is registered for its document, or everybody in its session has
ended and the stream has been shut down, once. When a document cannot be connected everything is as
it was, but for the address that was contacted, and for an unusable language not even that was.

Connecting a document, ending its session and ending every session are complete operations. -/
theorem register_agrees (history : History operations handed workspace) :
    (∀ document, document ∈ workspace.active ↔ ∃ host language,
      Lifecycle.latest? document operations = some (.activate document host language)) ∧
    (∀ document number, workspace.registered? document = some number →
      (workspace.Holds number fun session => session.document = document) ∧
        ∀ other, workspace.registered? other = some number → other = document) ∧
    handed = workspace.sessions.length ∧
    (∀ (number : Nat) session, workspace.sessions[number]? = some session →
      workspace.registered? session.document = some number ∨
        session.hasEnded = true ∧ session.outlet.sink.shutdowns = 1) ∧
    (∀ document host language next fault,
      workspace.replace document host language = (next, .error fault) →
        { next with contacted := workspace.contacted } = workspace ∧
          ((∃ refusal, Request.start? language = .error refusal) → next = workspace)) ∧
    (∀ document host language, workspace.Completes (.activate document host language)
      (workspace.replace document host language).2.isOk
      (workspace.replace document host language).1) ∧
    (∀ document, workspace.Completes (.deactivate document) (workspace.deactivate document).2
      (workspace.deactivate document).1) ∧
    workspace.Completes .shutdown true workspace.shutdown := by
  have agrees := history.agrees
  have accounted := agrees.accounted
  refine ⟨?_, ?_, agrees.handed, ?_, ?_, accounted.replace_completes,
    accounted.deactivate_completes, accounted.shutdown_completes⟩
  · intro document
    rw [mem_active]
    exact agrees.standing document
  · intro document number registered
    obtain ⟨session, present, named⟩ := accounted.named document number registered
    refine ⟨⟨session, present, named⟩, ?_⟩
    intro other entered
    obtain ⟨same, there, otherwise⟩ := accounted.named other number entered
    obtain rfl := Option.some.inj (there.symm.trans present)
    exact otherwise.symm.trans named
  · intro number session present
    rcases accounted.ended number session present with registered | ended | none
    · exact .inl registered
    · refine .inr ⟨ended, ?_⟩
      have shuts : session.outlet.Shuts := accounted.shuts number session present
      simp only [Session.hasEnded, Bool.and_eq_true] at ended
      rwa [Outlet.Shuts, if_pos ended.1.2] at shuts
    · cases none
  · intro document host language next fault failed
    rcases activate_results workspace document host language with
      ⟨contacted, reason, refused, early⟩ | ⟨line, lines, usable, given⟩
    · simp only [replace, refused, Prod.mk.injEq] at failed
      obtain ⟨rfl, -⟩ := failed
      refine ⟨rfl, ?_⟩
      intro unusable
      rw [early unusable]
    · simp only [replace, activate_eq document host usable given, Prod.mk.injEq] at failed
      cases failed.2

/-- A client with two connections to be had, and with one document. -/
def twoToBeHad : Workspace :=
  (start .defaults [] [.fresh, .fresh] (.noSession ⟨['d']⟩)).perform
    (.openDocument (.ofBuffer ⟨['d']⟩ .ordinary .empty true))

/-- The document is connected. -/
def connectedOnce : Workspace :=
  (twoToBeHad.replace ⟨['d']⟩ 0 ['c']).1

/-- The document is connected again. -/
def connectedTwice : Workspace :=
  (connectedOnce.replace ⟨['d']⟩ 0 ['h']).1

/-- A document that is connected twice, and then for an unusable language in vain, belongs to its
second session, and the first one has ended. -/
theorem register_agrees_reconnected :
    let operations : List (Lifecycle × Bool) :=
      [(.activate ⟨['d']⟩ 0 ['c'], true), (.activate ⟨['d']⟩ 0 ['h'], true),
        (.activate ⟨['d']⟩ 0 [], false)]
    History operations 2 connectedTwice ∧ connectedTwice.sessions.length = 2 ∧
      ⟨['d']⟩ ∈ connectedTwice.active ∧ connectedTwice.registered? ⟨['d']⟩ = some 1 ∧
      connectedTwice.Holds 0 fun session =>
        session.hasEnded = true ∧ session.outlet.sink.shutdowns = 1 := by
  intro operations
  have opened : History [] 0 twoToBeHad := .move (.start _ _ _ _) trivial
  obtain ⟨-, -, -, -, -, first, -⟩ := register_agrees opened
  have once : History [(.activate ⟨['d']⟩ 0 ['c'], true)] 1 connectedOnce :=
    .complete opened (by decide : 0 < _) (first _ _ _)
  obtain ⟨-, -, -, -, -, second, -⟩ := register_agrees once
  have twice : History [(.activate ⟨['d']⟩ 0 ['c'], true), (.activate ⟨['d']⟩ 0 ['h'], true)] 2
      connectedTwice :=
    .complete once (by decide : 0 < _) (second _ _ _)
  obtain ⟨-, -, -, -, -, third, -⟩ := register_agrees twice
  have history : History operations 2 connectedTwice :=
    .complete twice (by decide : 0 < _) (third _ _ _)
  obtain ⟨active, -, handed, ended, -⟩ := register_agrees history
  have registered : connectedTwice.registered? ⟨['d']⟩ = some 1 := by decide
  refine ⟨history, handed.symm, (active _).mpr ⟨0, ['h'], by decide⟩, registered, ?_⟩
  obtain ⟨replaced, there, named⟩ : connectedTwice.Holds 0 fun session =>
      session.document = ⟨['d']⟩ := ⟨_, rfl, by decide⟩
  refine ⟨replaced, there, (ended 0 replaced there).resolve_left ?_⟩
  rw [named, registered]
  simp

end Workspace

end Typeahead
