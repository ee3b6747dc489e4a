import Typeahead.Proofs.Workspace.AtHand
import Typeahead.Proofs.Workspace.Replies

/-!
# Edits that the host refuses

A reply has its effect on span and history when it is taken, before the host has so much as
seen the edit that the reply asks for; and when the host refuses the edit, the worker passes
it over and goes on. So after a refused edit span and history are what they would be after the
edit, and the span begins where the document would have to be for it to make sense. They are
as they were before the reply only if the reply would have left them alone in any case:
`refused_edit_iff`.
-/

namespace Typeahead

namespace SpanHistory

/-- Putting an entry before a list and keeping as many as before changes nothing only if all entries
are the same. -/
theorem take_cons_eq_iff {start : Nat} (starts : List Nat) :
    (start :: starts).take starts.length = starts ↔
      starts = List.replicate starts.length start := by
  induction starts with
  | nil => simp
  | cons first rest inductionHypothesis =>
    rw [List.length_cons, List.take_succ_cons, List.replicate_succ, List.cons.injEq,
      List.cons.injEq]
    constructor
    · rintro ⟨rfl, same⟩
      exact ⟨rfl, inductionHypothesis.mp same⟩
    · rintro ⟨rfl, same⟩
      exact ⟨rfl, inductionHypothesis.mpr same⟩

/-- Recording a start changes nothing exactly if the history is full of this start already. -/
theorem push_eq_iff (history : SpanHistory) (start : Nat) :
    history.push start = history ↔
      history.newestFirst = List.replicate history.capacity start := by
  obtain ⟨capacity, starts, positive, bounded⟩ := history
  simp only [push, SpanHistory.mk.injEq, true_and]
  constructor
  · intro same
    have full : starts.length = capacity := by
      have length := congrArg List.length same
      rw [List.length_take, List.length_cons] at length
      omega
    subst full
    exact (take_cons_eq_iff starts).mp same
  · intro same
    have full : starts.length = capacity := by rw [same, List.length_replicate]
    subst full
    exact (take_cons_eq_iff starts).mpr same

/-- Forgetting the newest start changes nothing exactly if there is none. -/
theorem drop_eq_iff (history : SpanHistory) :
    history.drop = history ↔ history.newestFirst = [] := by
  obtain ⟨capacity, starts, positive, bounded⟩ := history
  cases starts with
  | nil => simp [drop]
  | cons start rest => simp [drop]

end SpanHistory

namespace Completion

/-- A reply that asks for an edit and leaves span and history alone all the same: it rejects a
character; it takes a step back when there is none and the span begins with the document; or it
leaves the span behind when the history is full of its start, and the next span begins there,
too. -/
def LeavesSpan (completion : Completion) (reply : Reply) (cursor : Nat) : Prop :=
  reply = .invalidChar ∨
    completion.TakesBack reply ∧ completion.spanStart = 0 ∧
      completion.history.newestFirst = [] ∨
    ¬ completion.TakesBack reply ∧
      completion.history.newestFirst =
        List.replicate completion.history.capacity completion.spanStart ∧
      (reply = .expanded [] ∨
        reply = .regexFull ∧ completion.lastRequest = some .advance ∧
          cursor + 1 = completion.spanStart)

variable {completion : Completion} {reply : Reply} {cursor : Nat}

/-- A step back leaves span and history alone exactly if there is none to take. -/
theorem revert_leaves_iff :
    ((completion.revert cursor).1.spanStart = completion.spanStart ∧
        (completion.revert cursor).1.history = completion.history) ↔
      completion.spanStart = 0 ∧ completion.history.newestFirst = [] := by
  simp only [revert, SpanHistory.pop, SpanHistory.drop_eq_iff]
  constructor
  · rintro ⟨span, empty⟩
    exact ⟨by rw [← span, SpanHistory.peek, empty]; rfl, empty⟩
  · rintro ⟨span, empty⟩
    exact ⟨by rw [span, SpanHistory.peek, empty]; rfl, empty⟩

/-- Only a rejected character, a full pattern, an expansion or a step back asks for an edit. -/
theorem asks_edit {effect : Effect} {operation : Buffer.Operation}
    (asks : effect ∈ (completion.apply reply cursor).2)
    (edits : effect.operation? = some operation) :
    reply = .invalidChar ∨ reply = .regexFull ∨ (∃ text, reply = .expanded text) ∨
      completion.TakesBack reply := by
  cases reply with
  | invalidChar => exact .inl rfl
  | regexFull => exact .inr (.inl rfl)
  | expanded text => exact .inr (.inr (.inl ⟨text, rfl⟩))
  | ok =>
    by_cases reverting : completion.lastRequest = some .revert
    · exact .inr (.inr (.inr ⟨.inl rfl, reverting⟩))
    · simp [Completion.apply, respond, reverting] at asks
  | error message =>
    obtain rfl := List.mem_singleton.mp asks
    cases edits
  | capabilities names => cases asks
  | cursorHandle handle => cases asks
  | regexStart => cases asks

/-- What a full pattern makes of span and history is what was there exactly if a character was typed
right before the span and the history is full of the span's start. -/
theorem closeRegex_leaves_iff :
    ((completion.closeRegex cursor).1.spanStart = completion.spanStart ∧
        (completion.closeRegex cursor).1.history = completion.history) ↔
      completion.history.newestFirst =
          List.replicate completion.history.capacity completion.spanStart ∧
        completion.lastRequest = some .advance ∧ cursor + 1 = completion.spanStart := by
  by_cases typed : completion.lastRequest = some .advance
  · simp only [closeRegex, typed, if_true, moveSpan, SpanHistory.push_eq_iff, true_and]
    exact and_comm
  · simp [closeRegex, typed]

/-- What an expansion makes of span and history is what was there exactly if it is skipped, or if it
brings no text and the history is full of the span's start. -/
theorem expand_leaves_iff {text : Text} :
    ((completion.expand text cursor).1.spanStart = completion.spanStart ∧
        (completion.expand text cursor).1.history = completion.history) ↔
      cursor + 1 < completion.spanStart ∨
        completion.history.newestFirst =
            List.replicate completion.history.capacity completion.spanStart ∧ text = [] := by
  unfold expand
  split
  · next past => simp [past]
  · next reaches =>
    simp only [SpanHistory.push_eq_iff, reaches, false_or, Nat.add_eq_left, List.length_eq_zero_iff]
    exact and_comm

/-- What a reply that asks for an edit makes of span and history is what was there exactly in these
cases. -/
theorem apply_leaves_iff {effect : Effect} {operation : Buffer.Operation}
    (asks : effect ∈ (completion.apply reply cursor).2)
    (edits : effect.operation? = some operation) :
    ((completion.apply reply cursor).1.spanStart = completion.spanStart ∧
        (completion.apply reply cursor).1.history = completion.history) ↔
      completion.LeavesSpan reply cursor := by
  have kind := asks_edit asks edits
  have answered := respond_answered completion reply cursor
  simp only [Completion.apply, expireWait] at asks ⊢
  generalize completion.respond reply cursor = outcome at answered asks ⊢
  cases answered with
  | takenBack takes =>
    have rejects : reply ≠ .invalidChar := by
      rintro rfl
      exact not_takesBack _ _ (by simp [Acknowledges]) takes
    rw [revert_leaves_iff]
    simp [LeavesSpan, takes, rejects]
  | restarted ok latest => cases asks
  | moved ok gathering latest => cases asks
  | closed full =>
    subst full
    rw [closeRegex_leaves_iff]
    simp [LeavesSpan, not_takesBack completion .regexFull (by simp [Acknowledges])]
  | expanded text brings latest =>
    subst brings
    have keeps : ¬ completion.TakesBack (.expanded text) := fun takes => latest takes.2
    have reaches : ¬ cursor + 1 < completion.spanStart := by
      intro past
      simp [expand, past] at asks
    rw [expand_leaves_iff]
    simp [LeavesSpan, keeps, reaches]
  | stayed next effects span history sameLatest notFull noText keeps =>
    rcases kind with rejects | full | ⟨text, brings⟩ | takes
    · exact ⟨fun _ => .inl rejects, fun _ => ⟨span, history⟩⟩
    · exact absurd full notFull
    · exact absurd brings (noText text)
    · exact absurd takes keeps

end Completion

namespace Workspace

variable {workspace : Workspace} {number : Nat} {session awaiting : Session} {host refusing : Host}
  {reply : Reply} {cursor : Nat} {operation : Buffer.Operation} {refusal : Fault}

/-- A worker takes a reply. In the run after that its host refuses an edit, and the worker takes no
further reply. Then the edit is one that the reply asks for, and no document changes through it.
At the end span and history are as they were before the reply exactly if the reply would have left
them alone had the edit been made. -/
theorem refused_edit_iff (present : workspace.sessions[number]? = some session)
    (takes : session.taking? = some reply) (hosted : workspace.hosts[session.host]? = some host)
    (told : host.cursor = .ok cursor) (meanwhile later : List Move)
    (due : ((workspace.perform (.act number .worker)).run meanwhile).EditDue number awaiting
      refusing operation)
    (refused : refusing.editFor operation = .error refusal)
    (none : Exchange.replies ((workspace.perform (.act number .worker)).exchangeLog number
      (meanwhile ++ .act number .worker :: later)) = []) :
    let held := (workspace.perform (.act number .worker)).run meanwhile
    (∃ effect ∈ (session.completion.apply reply cursor).2, effect.operation? = some operation) ∧
      (held.perform (.act number .worker)).hosts = held.hosts ∧
      ∃ after, (held.run (.act number .worker :: later)).sessions[number]? = some after ∧
        ((after.completion.spanStart = session.completion.spanStart ∧
            after.completion.history = session.completion.history) ↔
          session.completion.LeavesSpan reply cursor) := by
  intro held
  obtain ⟨-, taken, took⟩ := perform_takes present takes hosted told
  -- No reply is taken until the edit is due, so that it is still one of this reply.
  have noneMeanwhile := none
  rw [exchangeLog_append, Exchange.replies_append, List.append_eq_nil_iff] at noneMeanwhile
  have asked : ∃ effect ∈ (session.completion.apply reply cursor).2,
      effect.operation? = some operation := by
    obtain ⟨_, _, editing, -⟩ := due.stage
    obtain ⟨same, there, remains, -⟩ := remains_run took.present took.latched noneMeanwhile.1
    obtain rfl : same = awaiting := Option.some.inj (there.symm.trans due.present)
    exact remains.asked took.worker editing
  obtain ⟨after, there, remains, -⟩ := remains_run took.present took.latched none
  refine ⟨asked, due.refused refused, after, ?_, ?_⟩
  · rw [← there, run_append]
  · obtain ⟨effect, member, edits⟩ := asked
    rw [remains.span, remains.history, took.completion]
    exact Completion.apply_leaves_iff member edits

/-- A host that refuses edits, with a character typed and an answer to it about to be taken. -/
def refusingBetween (answer : Bytes) : Workspace :=
  (start .defaults [] [.fresh] (.noSession ⟨['d']⟩)).run
    (.openDocument (.ofBuffer ⟨['d']⟩ .ordinary ⟨['x', 'y'], 1, none⟩ true) ::
      .activate ⟨['d']⟩ 0 ['c'] :: answeredBy [0] ++
      [.adjustHost ⟨['d']⟩ ({ · with rejectsEdits := true }), .edit ⟨['d']⟩ (.type 'p'),
        .deliver 0 answer] ++ List.replicate 4 (.act 0 .intake))

/-- The worker has taken the answer and awaits the edit that it asks for. -/
def refusalBetween (answer : Bytes) : Workspace :=
  ((refusingBetween answer).perform (.act 0 .worker)).run [.act 0 .worker]

/-- Whatever the answer, this is reached. -/
theorem refusingBetween_reached (answer : Bytes) : (refusingBetween answer).Reached :=
  ⟨_, _, _, _, _, rfl⟩

/-- A host that refuses to take a rejected character away leaves the span where it was. -/
theorem refused_deletion_leaves_span :
    ∃ session host awaiting refusing after, (refusingBetween [5]).Reached ∧
      (refusingBetween [5]).sessions[0]? = some session ∧ session.taking? = some .invalidChar ∧
      (refusingBetween [5]).hosts[session.host]? = some host ∧ host.cursor = .ok 1 ∧
      (refusalBetween [5]).EditDue 0 awaiting refusing (.delete 1 2) ∧
      refusing.editFor (.delete 1 2) = .error Host.editRejected ∧
      ((refusalBetween [5]).run (List.replicate 2 (.act 0 .worker))).sessions[0]? = some after ∧
      after.completion.spanStart = session.completion.spanStart ∧
      after.completion.history = session.completion.history := by
  have stage : ((refusingBetween [5]).sessions[0]?.bind fun session =>
      (refusingBetween [5]).hosts[session.host]?.map fun host => (session.taking?, host)) =
      some (some .invalidChar, ⟨⟨['d']⟩, .ordinary, ⟨['x', 'p', 'y'], 2, some 1⟩, true, true,
        false, 0, []⟩) := by decide +kernel
  have awaits : ((refusalBetween [5]).sessions[0]?.bind fun session =>
      (refusalBetween [5]).hosts[session.host]?.map fun host => (session.worker, host)) =
      some (.editing (.delete 1 2) 0 [], ⟨⟨['d']⟩, .ordinary, ⟨['x', 'p', 'y'], 2, some 1⟩, true,
        true, false, 0, []⟩) := by decide +kernel
  obtain ⟨session, present, stage⟩ := Option.bind_eq_some_iff.mp stage
  obtain ⟨host, hosted, facts⟩ := Option.map_eq_some_iff.mp stage
  obtain ⟨takes, same⟩ := Prod.mk.inj facts
  have told : host.cursor = .ok 1 := by rw [same]; rfl
  obtain ⟨awaiting, due⟩ := editDue_of_stage awaits (Nat.zero_le _)
  obtain ⟨-, -, after, there, leaves⟩ := refused_edit_iff present takes hosted told
    [.act 0 .worker] [.act 0 .worker] due rfl (by decide +kernel)
  obtain ⟨span, history⟩ := leaves.mpr (.inl rfl)
  exact ⟨session, host, awaiting, _, after, refusingBetween_reached [5], present, takes, hosted,
    told, due, rfl, there, span, history⟩

/-- A host refuses to put the text of an expansion. The span begins behind that text all the same,
and past the end of the document. -/
theorem refused_expansion_moves_span :
    (refusingBetween [112, 113, 114, 0]).Reached ∧
      ((refusingBetween [112, 113, 114, 0]).sessions[0]?.map fun session =>
        (session.taking?, session.completion.spanStart,
          session.completion.history.newestFirst)) =
        some (some (.expanded ['p', 'q', 'r']), 1, []) ∧
      ((refusingBetween [112, 113, 114, 0]).hosts[0]?.map fun host => host.buffer.text) =
        some ['x', 'p', 'y'] ∧
      (∃ awaiting refusing,
        (refusalBetween [112, 113, 114, 0]).EditDue 0 awaiting refusing
          (.replace 1 2 ['p', 'q', 'r']) ∧
        refusing.editFor (.replace 1 2 ['p', 'q', 'r']) = .error Host.editRejected) ∧
      (((refusalBetween [112, 113, 114, 0]).run
          (List.replicate 2 (.act 0 .worker))).sessions[0]?.map fun session =>
        (session.worker, session.completion.spanStart,
          session.completion.history.newestFirst)) =
        some (.turning none, 4, [1]) ∧
      (((refusalBetween [112, 113, 114, 0]).run
          (List.replicate 2 (.act 0 .worker))).hosts[0]?.map fun host => host.buffer.text) =
        some ['x', 'p', 'y'] := by
  have awaits : ((refusalBetween [112, 113, 114, 0]).sessions[0]?.bind fun session =>
      (refusalBetween [112, 113, 114, 0]).hosts[session.host]?.map fun host =>
        (session.worker, host)) =
      some (.editing (.replace 1 2 ['p', 'q', 'r']) 0 [],
        ⟨⟨['d']⟩, .ordinary, ⟨['x', 'p', 'y'], 2, some 1⟩, true, true, false, 0, []⟩) := by
    decide +kernel
  obtain ⟨awaiting, due⟩ := editDue_of_stage awaits (Nat.zero_le _)
  exact ⟨refusingBetween_reached _, by decide +kernel, by decide +kernel,
    ⟨awaiting, _, due, rfl⟩, by decide +kernel, by decide +kernel⟩

end Workspace

end Typeahead
