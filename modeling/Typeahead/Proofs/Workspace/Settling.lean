import Typeahead.Proofs.Engine.Delivery
import Typeahead.Proofs.Session.Closing
import Typeahead.Proofs.Workspace.Run

/-!
# Everybody waits in the end

When nobody types and nothing arrives, the workers of all sessions come to rest:
`settle_rests`. Between two edits of a document every step makes the steps to come fewer. An edit
may be reported to another session, which then has requests to write, so it can make them
more, but it makes the edits to come fewer: those are at most one for each reply that a
session has taken, holds, or has still to read.

Settling and letting time pass is a run of steps of the workers, with time in between
(`Becomes`, `advance_becomes`), so what holds after every run holds behind them.
-/

namespace Typeahead

/-- The sum over a list in which one entry has been put in the place of another. -/
theorem foldr_add_set {α : Type} (size : α → Nat) {entries : List α} {number : Nat} {entry : α}
    (present : entries[number]? = some entry) (other : α) :
    ((entries.set number other).map size).foldr (· + ·) 0 + size entry =
      (entries.map size).foldr (· + ·) 0 + size other := by
  induction entries generalizing number with
  | nil => cases present
  | cons first rest inductionHypothesis =>
    cases number with
    | zero =>
      obtain rfl := Option.some.inj present
      simp only [List.set_cons_zero, List.map_cons, List.foldr_cons]
      omega
    | succ number =>
      have later := inductionHypothesis present
      simp only [List.set_cons_succ, List.map_cons, List.foldr_cons]
      omega

/-- The sum over a list of what is larger for each entry is larger. -/
theorem foldr_add_le {α : Type} {size bound : α → Nat} (le : ∀ entry, size entry ≤ bound entry)
    (entries : List α) :
    (entries.map size).foldr (· + ·) 0 ≤ (entries.map bound).foldr (· + ·) 0 := by
  induction entries with
  | nil => exact Nat.le_refl _
  | cons first rest inductionHypothesis => exact Nat.add_le_add (le first) inductionHypothesis

/-- How many steps an applying worker may take before it waits for good, when an answer is
outstanding or not. -/
def Worker.toCome (awaiting : Bool) : Worker → Nat
  | .turning _ => if awaiting then 4 else 2
  | .parked none => 1
  | .parked (some _) => 3
  | .applying effects => 3 * effects.length + 5
  | .editing _ _ effects => 3 * effects.length + 6
  | .finished => 0

namespace Session

variable {session after : Session} {host hostAfter : Host} {now : Nat} {change : Option Change}

/-- The edits that a session may still ask for: at most one for every reply that it holds or may
find in what has arrived. -/
def editsToCome (session : Session) : Nat :=
  session.intake.buffer.length + (session.intake.arrivals.map Intake.effort.size).foldr (· + ·) 0 +
    (if session.intake.inHand.isSome then 1 else 0) + session.intake.queue.length +
    session.effectsLeft

/-- The steps that a session may take before somebody types, something arrives, or a document is
edited. -/
def stepsToCome (session : Session) : Nat :=
  9 * session.intake.toil + 8 * session.intake.queue.length + session.outlet.queue.length +
    (if session.outlet.finished then 0 else 1) + (if session.news then 4 else 0) +
    session.worker.toCome session.isAwaitingReply

/-- A piece of work of the inbound side is one step less to come, and no edit more: it finds no more
replies than there are bytes. -/
theorem stepIntake_less (stepped : session.stepIntake = some after) :
    after.stepsToCome < session.stepsToCome ∧ after.editsToCome ≤ session.editsToCome := by
  obtain ⟨intake, worked, rfl⟩ := Option.map_eq_some_iff.mp stepped
  obtain ⟨active, work⟩ := Intake.step_work worked
  obtain ⟨less, grown⟩ := work.toil_lt active
  constructor
  · have same : ({ session with intake } : Session).isAwaitingReply = session.isAwaitingReply := rfl
    simp only [stepsToCome, same]
    omega
  · simp only [editsToCome, effectsLeft]
    cases work with
    | drops held => simp [held]
    | puts held =>
      simp only [held, List.length_append, List.length_singleton, Option.isSome_none,
        Option.isSome_some, if_true, Bool.false_eq_true, if_false]
      omega
    | stops => exact Nat.le_refl _
    | finds empty _ found | skips empty _ found =>
      have shorter := (Splitter.next_shortens session.intake.splitter session.intake.buffer).lt
        (by simp [found])
      rw [found] at shorter
      simp [empty] at shorter ⊢
      omega
    | runsOut empty found searching shorter =>
      simp only
      omega
    | reads empty arrived =>
      simp only [arrived, List.map_cons, List.foldr_cons, List.length_append, Intake.effort.size]
      omega
    | ends empty exhausted =>
      rcases exhausted with arrived | ⟨arrived, rfl, -⟩
      · simp [arrived, Intake.effort.size]
      · simp [arrived]
    | fails empty failure =>
      simp [failure, Intake.effort.size]

/-- A piece of work of the outbound side is one step less to come, and no edit more. -/
theorem stepOutlet_less (stepped : session.stepOutlet = some after) :
    after.stepsToCome < session.stepsToCome ∧ after.editsToCome ≤ session.editsToCome := by
  obtain ⟨outlet, worked, rfl⟩ := Option.map_eq_some_iff.mp stepped
  refine ⟨?_, Nat.le_refl _⟩
  have less := Outlet.step_less worked
  unfold Outlet.piecesToCome at less
  have same : ({ session with outlet } : Session).isAwaitingReply = session.isAwaitingReply := rfl
  simp only [stepsToCome, same]
  omega

/-- Taking a reply begins with one effect at most. -/
theorem beginReply_effects (session : Session) (host : Host) (reply : Reply) :
    ∃ completion effects, effects.length ≤ 1 ∧ session.beginReply host reply =
      { session with locked := true, completion, worker := .applying effects } := by
  unfold beginReply
  cases host.cursor with
  | error fault => exact ⟨_, [], Nat.zero_le _, rfl⟩
  | ok cursor => exact ⟨_, _, session.completion.apply_effects_le reply cursor, rfl⟩

/-- Between two waits a worker may take four steps. -/
theorem toCome_turning_le (awaiting : Bool) (deadline : Option Nat) :
    (Worker.turning deadline).toCome awaiting ≤ 4 := by
  cases awaiting <;> simp [Worker.toCome]

/-- A step of the applying worker is one step less to come and no edit more, and one edit less when
it has edited the document. -/
theorem stepWorker_less (stepped : session.stepWorker host now = some (after, hostAfter, change)) :
    after.stepsToCome < session.stepsToCome ∧
      after.editsToCome + change.toList.length ≤ session.editsToCome := by
  cases stepWorker_cases stepped with
  | waits stage =>
    refine ⟨?_, by simp [editsToCome, effectsLeft, stage]⟩
    simp only [stepsToCome, stage, deadlineAt]
    cases awaits : session.isAwaitingReply with
    | false => simp [Worker.toCome]
    | true => cases session.timeout <;> simp [Worker.toCome]
  | @stops deadline stage =>
    refine ⟨?_, by simp [editsToCome, effectsLeft, stage]⟩
    cases deadline <;> simp [stepsToCome, stage, Worker.toCome]
  | @takes deadline reply queue stage active first =>
    obtain ⟨completion, effects, few, same⟩ := beginReply_effects
      { session with intake := { session.intake with queue } } host reply
    rw [same]
    constructor
    · have toil : ({ session.intake with queue } : Intake).toil = session.intake.toil := rfl
      simp only [stepsToCome, stage, first, toil, List.length_cons]
      cases deadline <;> simp only [Worker.toCome] <;> omega
    · simp only [editsToCome, effectsLeft, stage, first, List.length_cons, Option.toList_none,
        List.length_nil]
      omega
  | @notices deadline stage empty active reading told =>
    refine ⟨?_, by simp [editsToCome, effectsLeft, stage]⟩
    have awaits := toCome_turning_le (session.isAwaitingReply) deadline
    have same : ({ session with news := false, worker := .turning deadline } :
        Session).isAwaitingReply = session.isAwaitingReply := rfl
    simp only [stepsToCome, stage, told, same, if_true, Bool.false_eq_true, if_false]
    cases deadline <;> simp only [Worker.toCome] at awaits ⊢ <;> omega
  | expires stage =>
    refine ⟨?_, by simp [editsToCome, effectsLeft, stage]⟩
    simp [stepsToCome, stage, Worker.toCome, isAwaitingReply, Completion.expireWait]
  | tells stage | passesOver stage =>
    simp [stepsToCome, editsToCome, effectsLeft, stage, Worker.toCome]
  | asks stage =>
    refine ⟨?_, by simp [editsToCome, effectsLeft, stage]⟩
    simp [stepsToCome, stage, Worker.toCome]
    omega
  | @edits _ _ _ _ change stage performed =>
    refine ⟨by simp [stepsToCome, stage, Worker.toCome], ?_⟩
    have one : change.toList.length ≤ 1 := by cases change <;> simp
    simp only [editsToCome, effectsLeft, stage]
    omega
  | ends stage =>
    refine ⟨?_, by simp [editsToCome, effectsLeft, stage]⟩
    have awaits := toCome_turning_le (session.isAwaitingReply) none
    have same : ({ session with locked := false, worker := .turning none } :
        Session).isAwaitingReply = session.isAwaitingReply := rfl
    simp only [stepsToCome, stage, same]
    simp only [Worker.toCome] at awaits ⊢
    omega

/-- Hearing of a change asks for no edit. -/
theorem handleChange_edits (session : Session) (change : Change) :
    (session.handleChange change).1.editsToCome = session.editsToCome := by
  obtain ⟨_, _, _, _, same⟩ := sendAll_kept (session.hearing change) session
  rw [handleChange_eq, same]
  rfl

/-- The effort of an inbound side is more than all that it may have to do. -/
theorem toil_le_effort (intake : Intake) :
    intake.toil ≤ intake.effort ∧
      intake.buffer.length + (intake.arrivals.map Intake.effort.size).foldr (· + ·) 0 +
        (if intake.inHand.isSome then 1 else 0) ≤ intake.effort := by
  have held : (if intake.inHand.isSome then 1 else 0) ≤ 1 := by split <;> omega
  have last : intake.toil ≤
      2 * (intake.buffer.length + (intake.arrivals.map Intake.effort.size).foldr (· + ·) 0) +
        2 * intake.arrivals.length + 4 := by
    rw [Intake.toil]
    cases intake.finished with
    | true =>
      rw [if_pos rfl]
      omega
    | false =>
      rw [if_neg Bool.false_ne_true]
      cases intake.ended <;> cases intake.searching <;> simp only <;> omega
  rw [Intake.effort]
  omega

/-- The effort of a session is a bound on the steps that it may take. -/
theorem stepsToCome_le (session : Session) :
    session.stepsToCome ≤ 9 * session.intake.effort + 8 * session.intake.queue.length +
      session.outlet.queue.length + 3 * session.effectsLeft + 12 := by
  have reading := (toil_le_effort session.intake).1
  have writing : (if session.outlet.finished then 0 else 1) ≤ 1 := by split <;> omega
  have noticing : (if session.news then 4 else 0) ≤ 4 := by split <;> omega
  have working : session.worker.toCome session.isAwaitingReply ≤ 3 * session.effectsLeft + 6 := by
    unfold Worker.toCome effectsLeft
    cases session.worker with
    | turning =>
      simp only
      split <;> omega
    | parked deadline => cases deadline <;> simp
    | applying | editing | finished =>
      simp only
      omega
  simp only [stepsToCome]
  omega

/-- Its edits are bounded likewise. -/
theorem editsToCome_le (session : Session) :
    session.editsToCome ≤
      session.intake.effort + session.intake.queue.length + session.effectsLeft := by
  have reading := (toil_le_effort session.intake).2
  simp only [editsToCome]
  omega

end Session

namespace Workspace

variable {workspace next : Workspace} {number : Nat} {actor : Actor}

/-- The steps that may be taken before somebody types, something arrives, or a document is
edited. -/
def stepsToCome (workspace : Workspace) : Nat :=
  (workspace.sessions.map Session.stepsToCome).foldr (· + ·) 0

/-- The edits that may be made before somebody types or something arrives. -/
def editsToCome (workspace : Workspace) : Nat :=
  (workspace.sessions.map Session.editsToCome).foldr (· + ·) 0

/-- A report of a change asks for no edit. -/
theorem report_edits (workspace : Workspace) (host : Host) (change : Option Change) :
    (workspace.report host change).editsToCome = workspace.editsToCome := by
  cases change with
  | none => rfl
  | some change =>
    simp only [report, documentChanged, tellSession]
    split
    · split
      · rfl
      · split
        · rfl
        · next session present =>
          have told := foldr_add_set Session.editsToCome present (session.handleChange change).1
          rw [Session.handleChange_edits] at told
          exact Nat.add_right_cancel told
    · rfl

/-- A step changes sessions, and the host of the session that takes it. -/
theorem act_sessions (acted : workspace.act number actor = some next) :
    ∃ sessions hosts, next = { workspace with sessions, hosts } := by
  obtain ⟨session, -, step⟩ := act_acted acted
  cases step with
  | intake | outlet => exact ⟨_, _, rfl⟩
  | @worker host hostAfter after change hosted stepped =>
    exact ⟨_, _, (report_only _ hostAfter change).others⟩

/-- Every step leaves fewer edits to come, or no more edits and fewer steps. -/
theorem act_less (acted : workspace.act number actor = some next) :
    0 < workspace.stepsToCome ∧ next.editsToCome ≤ workspace.editsToCome ∧
      (next.editsToCome < workspace.editsToCome ∨ next.stepsToCome < workspace.stepsToCome) := by
  obtain ⟨session, present, step⟩ := act_acted acted
  have steps := foldr_add_set Session.stepsToCome present
  have edits := foldr_add_set Session.editsToCome present
  cases step with
  | @intake after stepped =>
    obtain ⟨fewer, noMore⟩ := Session.stepIntake_less stepped
    have steps := steps after
    have edits := edits after
    simp only [stepsToCome, editsToCome, setSession]
    omega
  | @outlet after stepped =>
    obtain ⟨fewer, noMore⟩ := Session.stepOutlet_less stepped
    have steps := steps after
    have edits := edits after
    simp only [stepsToCome, editsToCome, setSession]
    omega
  | @worker host hostAfter after change hosted stepped =>
    obtain ⟨fewer, noMore⟩ := Session.stepWorker_less stepped
    have steps := steps after
    have edits := edits after
    rw [report_edits]
    cases change with
    | none =>
      simp only [report, stepsToCome, editsToCome, setSession, setHost, Option.toList_none,
        List.length_nil] at noMore ⊢
      omega
    | some change =>
      simp only [stepsToCome, editsToCome, setSession, setHost, Option.toList_some,
        List.length_singleton] at noMore ⊢
      omega

/-- A step of whoever is first able to take one is a step of one of the actors. -/
theorem step_acts (stepped : workspace.step = some next) :
    ∃ number actor, workspace.act number actor = some next := by
  obtain ⟨number, -, acted⟩ := List.exists_of_findSome?_eq_some stepped
  cases intake : workspace.act number .intake with
  | some after => exact ⟨number, .intake, by simpa [intake] using acted⟩
  | none =>
    cases outlet : workspace.act number .outlet with
    | some after => exact ⟨number, .outlet, by simpa [intake, outlet] using acted⟩
    | none => exact ⟨number, .worker, by simpa [intake, outlet] using acted⟩

/-- When nobody is able to take a step, every actor waits. -/
theorem act_of_rests (rests : workspace.step = none) (number : Nat) (actor : Actor) :
    workspace.act number actor = none := by
  cases present : workspace.sessions[number]? with
  | none => simp [act, present]
  | some session =>
    have inside := (List.getElem?_eq_some_iff.mp present).1
    have waits := List.findSome?_eq_none_iff.mp rests number (List.mem_range.mpr inside)
    simp only [Option.or_eq_none_iff] at waits
    obtain ⟨intake, outlet, worker⟩ := waits
    cases actor <;> assumption

/-- A move that workers and the clock make by themselves. -/
def Move.OfItself : Move → Prop
  | .act _ _ => True
  | .pass _ => True
  | _ => False

/-- One workspace comes from another by itself, while nobody types and nothing arrives. -/
def Becomes (workspace next : Workspace) : Prop :=
  ∃ moves, (∀ move ∈ moves, Move.OfItself move) ∧ next = workspace.run moves

/-- Nothing has to happen. -/
theorem Becomes.refl (workspace : Workspace) : workspace.Becomes workspace :=
  ⟨[], nofun, rfl⟩

/-- What happens by itself may go on. -/
theorem Becomes.trans {middle : Workspace} (first : workspace.Becomes middle)
    (second : middle.Becomes next) : workspace.Becomes next := by
  obtain ⟨moves, own, rfl⟩ := first
  obtain ⟨more, ownToo, rfl⟩ := second
  refine ⟨moves ++ more, ?_, (run_append workspace moves more).symm⟩
  intro move member
  exact (List.mem_append.mp member).elim (own move) (ownToo move)

/-- A step of an actor is made by itself. -/
theorem becomes_act (acted : workspace.act number actor = some next) : workspace.Becomes next :=
  ⟨[.act number actor], by simp [Move.OfItself], by simp [run, perform, acted]⟩

/-- Time passes by itself. -/
theorem becomes_later (workspace : Workspace) {clock : Nat} (later : workspace.clock ≤ clock) :
    workspace.Becomes { workspace with clock } :=
  ⟨[.pass (clock - workspace.clock)], by simp [Move.OfItself],
    by simp [run, perform, Nat.add_sub_cancel' later]⟩

/-- However many steps are taken, no edits are added to those to come, and no time passes. -/
theorem settleWithin_becomes (count : Nat) (workspace : Workspace) :
    workspace.Becomes (settleWithin count workspace) ∧
      (settleWithin count workspace).clock = workspace.clock ∧
      (settleWithin count workspace).editsToCome ≤ workspace.editsToCome := by
  induction count generalizing workspace with
  | zero => exact ⟨.refl workspace, rfl, Nat.le_refl _⟩
  | succ count inductionHypothesis =>
    cases stepped : workspace.step with
    | none =>
      simp only [settleWithin, stepped]
      exact ⟨.refl workspace, trivial, Nat.le_refl _⟩
    | some next =>
      obtain ⟨number, actor, acted⟩ := step_acts stepped
      obtain ⟨becomes, clock, noMore⟩ := inductionHypothesis next
      simp only [settleWithin, stepped]
      have still : next.clock = workspace.clock := by
        obtain ⟨_, _, rfl⟩ := act_sessions acted
        rfl
      exact ⟨(becomes_act acted).trans becomes, clock.trans still,
        Nat.le_trans noMore (act_less acted).2.1⟩

/-- With enough steps everybody waits in the end, or a document has been edited. -/
theorem settleWithin_rests {count : Nat} (enough : workspace.stepsToCome ≤ count) :
    (settleWithin count workspace).step = none ∨
      (settleWithin count workspace).editsToCome < workspace.editsToCome := by
  induction count generalizing workspace with
  | zero =>
    refine .inl (Option.eq_none_iff_forall_ne_some.mpr ?_)
    intro next stepped
    obtain ⟨number, actor, acted⟩ := step_acts stepped
    exact absurd (act_less acted).1 (Nat.not_lt.mpr enough)
  | succ count inductionHypothesis =>
    cases stepped : workspace.step with
    | none =>
      simp only [settleWithin, stepped]
      exact .inl trivial
    | some next =>
      obtain ⟨number, actor, acted⟩ := step_acts stepped
      obtain ⟨-, noMore, edited | fewer⟩ := act_less acted
      · simp only [settleWithin, stepped]
        exact .inr (Nat.lt_of_le_of_lt (settleWithin_becomes count next).2.2 edited)
      · simp only [settleWithin, stepped]
        refine (inductionHypothesis (by omega)).imp id ?_
        intro less
        exact Nat.lt_of_lt_of_le less noMore

/-- The effort is a bound on the steps to come. -/
theorem stepsToCome_le_effort (workspace : Workspace) :
    workspace.stepsToCome ≤ workspace.effort :=
  foldr_add_le Session.stepsToCome_le workspace.sessions

/-- Through enough edits everybody waits in the end, and no time has passed. -/
theorem settleThrough_rests {count : Nat} (enough : workspace.editsToCome ≤ count) :
    workspace.Becomes (settleThrough count workspace) ∧
      (settleThrough count workspace).clock = workspace.clock ∧
      (settleThrough count workspace).step = none := by
  induction count generalizing workspace with
  | zero =>
    obtain ⟨becomes, clock, -⟩ := settleWithin_becomes workspace.effort workspace
    refine ⟨becomes, clock, ?_⟩
    refine (settleWithin_rests workspace.stepsToCome_le_effort).resolve_right ?_
    intro edited
    omega
  | succ count inductionHypothesis =>
    obtain ⟨becomes, clock, -⟩ := settleWithin_becomes workspace.effort workspace
    simp only [settleThrough]
    split
    · next rests => exact ⟨becomes, clock, Option.isNone_iff_eq_none.mp rests⟩
    · next goesOn =>
      have edited := (settleWithin_rests workspace.stepsToCome_le_effort).resolve_left
        fun rests => goesOn (by simp [rests])
      obtain ⟨later, clockLater, rests⟩ := inductionHypothesis
        (Nat.le_of_lt_succ (Nat.lt_of_lt_of_le edited enough))
      exact ⟨becomes.trans later, clockLater.trans clock, rests⟩

/-- Everybody waits in the end. -/
theorem settle_rests (workspace : Workspace) :
    workspace.Becomes workspace.settle ∧ workspace.settle.clock = workspace.clock ∧
      workspace.settle.step = none :=
  settleThrough_rests (foldr_add_le Session.editsToCome_le workspace.sessions)

/-- Letting time pass up to a moment happens by itself, and it is that moment then. -/
theorem advanceWithin_becomes (count : Nat) {target : Nat} (ahead : workspace.clock ≤ target) :
    workspace.Becomes (advanceWithin count workspace target) ∧
      (advanceWithin count workspace target).clock = target := by
  induction count generalizing workspace with
  | zero => exact ⟨workspace.becomes_later ahead, rfl⟩
  | succ count inductionHypothesis =>
    simp only [advanceWithin]
    split
    · exact ⟨workspace.becomes_later ahead, rfl⟩
    · next due timer =>
      split
      · exact ⟨workspace.becomes_later ahead, rfl⟩
      · next reached =>
        obtain ⟨settles, clock, -⟩ :=
          settle_rests { workspace with clock := max workspace.clock due }
        have inTime : max workspace.clock due ≤ target :=
          Nat.max_le.mpr ⟨ahead, Nat.le_of_not_lt reached⟩
        obtain ⟨becomes, last⟩ := inductionHypothesis (Nat.le_trans (Nat.le_of_eq clock) inTime)
        have later := workspace.becomes_later (Nat.le_max_left workspace.clock due)
        exact ⟨(later.trans settles).trans becomes, last⟩

/-- Letting time pass happens by itself. -/
theorem advance_becomes (workspace : Workspace) (time : Nat) :
    workspace.Becomes (workspace.advance time) ∧
      (workspace.advance time).clock = workspace.clock + time :=
  advanceWithin_becomes (time + 1) (Nat.le_add_right _ _)

end Workspace

end Typeahead
