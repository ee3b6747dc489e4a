import Typeahead.Engine.Outlet

/-!
# Writing requests to a stream that may fail

A stream takes as many bytes at a time as it likes, and it may fail at any byte and recover later.
Of the bytes offered to it at once it takes a beginning, which is all of them unless a write fails
(`Sink.Fails`). How long that beginning is depends on when the stream fails next, and on nothing
else (`Sink.writeAll_eq`): not on the sizes of the single writes, and not on what was written
before.

A `Transmission` is the outbound side at work in the midst of what others do: they queue requests,
close the queue, cancel the work, and the stream changes its behaviour between two requests. The
requests that the outlet takes are logged with the stream as it then was (`offers`). What is on the
stream are their pieces in queue order, and the outlet shuts the stream down once, at the end.
-/

namespace Typeahead

namespace Sink

/-- The beginning of some bytes that a stream takes. -/
def takes (sink : Sink) (bytes : Bytes) : Bytes :=
  match sink.budget with
  | none => bytes
  | some budget => bytes.take budget

/-- Writing these bytes fails: some of them are left when a write takes nothing. -/
inductive Fails : Sink → Bytes → Prop where
  /-- The next write fails. -/
  | now {sink : Sink} {bytes : Bytes} (left : bytes ≠ [])
      (refused : sink.accepts? bytes.length = none) : Fails sink bytes
  /-- The next write takes some bytes, and writing the others fails. -/
  | later {sink : Sink} {bytes : Bytes} {size : Nat} (left : bytes ≠ [])
      (accepted : sink.accepts? bytes.length = some size)
      (fails : Fails (sink.took (bytes.take size)) (bytes.drop size)) : Fails sink bytes

variable {sink : Sink} {bytes : Bytes} {offer size : Nat}

/-- A write fails when the stream takes nothing more. -/
theorem accepts?_eq_none_iff : sink.accepts? offer = none ↔ sink.budget = some 0 := by
  unfold accepts?
  cases sink.budget with
  | none => simp
  | some budget => simp

/-- A write takes at least one byte, and no more than it is offered and the stream takes. -/
theorem accepts?_bounds (accepted : sink.accepts? offer = some size) (positive : 0 < offer) :
    0 < size ∧ size ≤ offer ∧ ∀ budget ∈ sink.budget, size ≤ budget := by
  unfold accepts? at accepted
  cases known : sink.budget with
  | none =>
    simp only [known, Option.some.injEq] at accepted
    subst accepted
    refine ⟨?_, ?_, nofun⟩ <;> split <;> omega
  | some budget =>
    simp only [known] at accepted
    split at accepted
    · cases accepted
    · cases accepted
      refine ⟨?_, ?_, ?_⟩
      · split <;> omega
      · split <;> omega
      · rintro _ ⟨rfl⟩
        exact Nat.min_le_right _ _

/-- What is taken by one write and by those after it. -/
theorem takes_took (inside : size ≤ bytes.length) (granted : ∀ budget ∈ sink.budget, size ≤ budget) :
    bytes.take size ++ (sink.took (bytes.take size)).takes (bytes.drop size) = sink.takes bytes := by
  simp only [takes, took, List.length_take, Nat.min_eq_left inside]
  cases known : sink.budget with
  | none => exact List.take_append_drop _ _
  | some budget =>
    have more := granted budget known
    simp only [Option.map_some]
    rw [← List.take_add, Nat.add_sub_cancel' more]

/-- Of nothing a stream takes nothing. -/
@[simp] theorem takes_nil (sink : Sink) : sink.takes [] = [] := by
  unfold takes
  cases sink.budget <;> simp

/-- Writing goes on until every byte is taken or the stream fails, and then the stream has taken
what it takes. Nothing else about it has changed but the number of writes. -/
theorem writeUpTo_eq (count : Nat) (sink : Sink) (bytes : Bytes) (enough : bytes.length ≤ count) :
    ∃ writes, sink.writeUpTo count bytes = { sink with
      writes
      budget := sink.budget.map (· - bytes.length)
      written := sink.written ++ sink.takes bytes } := by
  induction count generalizing sink bytes with
  | zero =>
    have nothing : bytes = [] := List.eq_nil_of_length_eq_zero (Nat.le_zero.mp enough)
    exact ⟨sink.writes, by simp [writeUpTo, nothing]⟩
  | succ count inductionHypothesis =>
    by_cases nothing : bytes = []
    · exact ⟨sink.writes, by simp [writeUpTo, nothing]⟩
    · simp only [writeUpTo, nothing, if_false]
      have positive : 0 < bytes.length := List.length_pos_iff.mpr nothing
      cases accepted : sink.accepts? bytes.length with
      | none =>
        have spent := accepts?_eq_none_iff.mp accepted
        exact ⟨sink.writes + 1, by simp [takes, spent]⟩
      | some size =>
        obtain ⟨some, inside, granted⟩ := accepts?_bounds accepted positive
        obtain ⟨writes, same⟩ := inductionHypothesis (sink.took (bytes.take size))
          (bytes.drop size) (by rw [List.length_drop]; omega)
        have spent (budget : Nat) : budget - (bytes.take size).length - (bytes.drop size).length =
            budget - bytes.length := by
          rw [Nat.sub_sub, ← List.length_append, List.take_append_drop]
        refine ⟨writes, ?_⟩
        simp only [same, ← takes_took inside granted]
        simp only [took, Option.map_map, Function.comp_def, spent, List.append_assoc]

/-- A stream takes what it takes of the bytes of a request. -/
theorem writeAll_eq (sink : Sink) (bytes : Bytes) :
    ∃ writes, sink.writeAll bytes = { sink with
      writes
      budget := sink.budget.map (· - bytes.length)
      written := sink.written ++ sink.takes bytes } :=
  writeUpTo_eq bytes.length sink bytes (Nat.le_refl _)

/-- Writing fails when the stream is to take fewer bytes than are offered. -/
theorem fails_iff : sink.Fails bytes ↔ ∃ budget, sink.budget = some budget ∧ budget < bytes.length := by
  constructor
  · intro fails
    induction fails with
    | now left refused => exact ⟨0, accepts?_eq_none_iff.mp refused, List.length_pos_iff.mpr left⟩
    | @later sink bytes size left accepted _ inductionHypothesis =>
      obtain ⟨_, inside, granted⟩ := accepts?_bounds accepted (List.length_pos_iff.mpr left)
      obtain ⟨rest, remains, short⟩ := inductionHypothesis
      obtain ⟨budget, known, rfl⟩ := Option.map_eq_some_iff.mp remains
      have more := granted budget known
      refine ⟨budget, known, ?_⟩
      simp only [List.length_take, List.length_drop] at short
      omega
  · rintro ⟨budget, known, short⟩
    induction size : bytes.length using Nat.strongRecOn generalizing sink bytes budget with
    | ind size inductionHypothesis =>
      have left : bytes ≠ [] := List.length_pos_iff.mp (by omega)
      cases accepted : sink.accepts? bytes.length with
      | none => exact .now left accepted
      | some taken =>
        obtain ⟨some, inside, granted⟩ := accepts?_bounds accepted (List.length_pos_iff.mpr left)
        have more := granted budget known
        refine .later left accepted (inductionHypothesis (bytes.drop taken).length ?_
          (budget - (bytes.take taken).length) ?_ ?_ rfl)
        · rw [List.length_drop]
          omega
        · simp [took, known]
        · simp only [List.length_take, List.length_drop]
          omega

/-- A stream takes the whole of some bytes exactly if writing them does not fail. -/
theorem takes_eq_iff : sink.takes bytes = bytes ↔ ¬ sink.Fails bytes := by
  rw [fails_iff]
  unfold takes
  cases sink.budget with
  | none => simp
  | some budget =>
    simp only [Option.some.injEq, exists_eq_left', Nat.not_lt]
    constructor
    · intro whole
      rw [← whole, List.length_take]
      exact Nat.min_le_left _ _
    · exact List.take_of_length_le

/-- What a stream takes is a beginning. -/
theorem takes_prefix (sink : Sink) (bytes : Bytes) : sink.takes bytes <+: bytes := by
  unfold takes
  cases sink.budget with
  | none => exact List.prefix_refl _
  | some budget => exact List.take_prefix _ _

end Sink

namespace Outlet

variable {cancelled : Bool} {outlet next : Outlet}

/-- What a piece of work of the outbound side is. -/
inductive Works (cancelled : Bool) (outlet : Outlet) : Outlet → Prop where
  /-- It shuts the stream down and stops, when it was told to or when no more requests will come
  and none are left. -/
  | ends (active : outlet.finished = false)
      (due : cancelled = true ∨ outlet.queue = [] ∧ outlet.closed = true) :
      Works cancelled outlet outlet.finish
  /-- It writes the next request. -/
  | writes {request : Request} {rest : List Request} (active : outlet.finished = false)
      (going : cancelled = false) (queue : outlet.queue = request :: rest) :
      Works cancelled outlet { outlet.write request with queue := rest }

/-- Every piece of work is one of these. -/
theorem works_of_step (worked : outlet.step cancelled = some next) :
    outlet.Works cancelled next := by
  unfold step at worked
  split at worked
  · cases worked
  · next active =>
    have active := eq_false_of_ne_true active
    split at worked
    · next told =>
      cases worked
      exact .ends active (.inl told)
    · next going =>
      split at worked
      · next queue =>
        cases worked
        exact .writes active (eq_false_of_ne_true going) queue
      · next queue =>
        split at worked
        · next closed =>
          cases worked
          exact .ends active (.inr ⟨queue, closed⟩)
        · cases worked

/-- There is nothing to do after the end, and while the outbound side waits for requests. -/
theorem step_eq_none_iff : outlet.step cancelled = none ↔
    outlet.finished = true ∨ cancelled = false ∧ outlet.queue = [] ∧ outlet.closed = false := by
  unfold step
  cases outlet.finished with
  | true => simp
  | false =>
    cases cancelled with
    | true => simp
    | false => cases outlet.queue <;> simp

/-- Writing a request leaves everything as it is but the buffer and the stream, which has taken what
it takes of the request. The buffer had no part in that. -/
theorem write_eq (outlet : Outlet) (request : Request) :
    ∃ writes, outlet.write request = { outlet with
      buffer := request.encode
      sink := { outlet.sink with
        writes
        budget := outlet.sink.budget.map (· - request.encode.length)
        written := outlet.sink.written ++ outlet.sink.takes request.encode } } := by
  obtain ⟨writes, same⟩ := outlet.sink.writeAll_eq request.encode
  have emptied : request.encodeInto (outlet.buffer.take 0) = request.encode := rfl
  exact ⟨writes, by simp only [write, emptied, same]⟩

/-- Only the end of the outbound side shuts the stream down, and only once. -/
def Shuts (outlet : Outlet) : Prop :=
  outlet.sink.shutdowns = if outlet.finished then 1 else 0

/-- The end shuts the stream down, which it was not before. -/
theorem Shuts.finish (shuts : outlet.Shuts) (active : outlet.finished = false) :
    outlet.finish.Shuts := by
  simpa [Shuts, Outlet.finish, Sink.shutDown, active] using shuts

/-- Writing does not shut the stream down. -/
theorem Shuts.write (shuts : outlet.Shuts) (request : Request) (rest : List Request) :
    ({ outlet.write request with queue := rest } : Outlet).Shuts := by
  obtain ⟨writes, same⟩ := outlet.write_eq request
  rw [same]
  exact shuts

/-- A piece of work shuts the stream down if it is the last one. -/
theorem Shuts.step (shuts : outlet.Shuts) (worked : outlet.step cancelled = some next) :
    outlet.finished = false ∧ next.Shuts := by
  cases works_of_step worked with
  | ends active => exact ⟨active, shuts.finish active⟩
  | writes active => exact ⟨active, shuts.write _ _⟩

/-- How many pieces of work there can be yet: one for each request and one for the end. -/
def piecesToCome (outlet : Outlet) : Nat :=
  outlet.queue.length + if outlet.finished then 0 else 1

/-- A piece of work is one less to come. -/
theorem step_less (worked : outlet.step cancelled = some next) :
    next.piecesToCome < outlet.piecesToCome := by
  cases works_of_step worked with
  | ends active => simp [piecesToCome, finish, active]
  | writes active going queue => simp [piecesToCome, write, queue]

end Outlet

/-- A request that is taken to be written, and the stream as it is then. -/
structure Offer where
  sink : Sink
  request : Request

/-- What the stream takes of the request. -/
def Offer.piece (offer : Offer) : Bytes :=
  offer.sink.takes offer.request.encode

/-- The outbound side among those that it works for. -/
structure Transmission where
  outlet : Outlet
  /-- Whether the outbound side was told to stop. -/
  cancelled : Bool

namespace Transmission

/-- What can happen next. -/
inductive Move where
  /-- Somebody sends a request. -/
  | send (request : Request)
  /-- Nobody will send any more. -/
  | close
  /-- The outbound side is told to stop. -/
  | cancel
  /-- From now on the stream behaves like this: it takes as many bytes at a time, it fails after
  that many bytes, if at all, and shutting it down fails or does not. -/
  | behave (grant : Nat → Nat) (budget : Option Nat) (shutdownFails : Bool)
  /-- The outbound side does a piece of work, if there is one. -/
  | work

/-- At the beginning there is nothing to write and nothing has been written. -/
def start : Transmission :=
  ⟨.start .unlimited, false⟩

/-- What is after a move. -/
def perform (transmission : Transmission) : Move → Transmission
  | .send request =>
    { transmission with outlet := (transmission.outlet.send? request).getD transmission.outlet }
  | .close => { transmission with outlet := { transmission.outlet with closed := true } }
  | .cancel => { transmission with cancelled := true }
  | .behave grant budget shutdownFails =>
    { transmission with outlet := { transmission.outlet with
        sink := { transmission.outlet.sink with grant, budget, shutdownFails } } }
  | .work =>
    { transmission with
      outlet := (transmission.outlet.step transmission.cancelled).getD transmission.outlet }

/-- What is after several moves. -/
def run (transmission : Transmission) (moves : List Move) : Transmission :=
  moves.foldl perform transmission

/-- The request that is taken in a move, if one is. -/
def offer? (transmission : Transmission) : Move → Option Offer
  | .work =>
    if transmission.outlet.finished ∨ transmission.cancelled then none
    else transmission.outlet.queue.head?.map fun request => ⟨transmission.outlet.sink, request⟩
  | _ => none

/-- The requests that are taken in several moves, in order. -/
def offers : Transmission → List Move → List Offer
  | _, [] => []
  | transmission, move :: rest =>
    (transmission.offer? move).toList ++ (transmission.perform move).offers rest

/-- The request that comes into the queue in a move, if one does. -/
def queued? (transmission : Transmission) : Move → Option Request
  | .send request => (transmission.outlet.send? request).map fun _ => request
  | _ => none

/-- The requests that come into the queue in several moves, in order. -/
def queued : Transmission → List Move → List Request
  | _, [] => []
  | transmission, move :: rest =>
    (transmission.queued? move).toList ++ (transmission.perform move).queued rest

/-- The outbound side has nothing to do for now. -/
def AtRest (transmission : Transmission) : Prop :=
  transmission.outlet.step transmission.cancelled = none

/-- The end comes when the outbound side is told to stop, or when all requests are taken and no more
will come. -/
def EndsInTime (transmission : Transmission) : Prop :=
  transmission.outlet.finished = true → transmission.cancelled = true ∨
    transmission.outlet.queue = [] ∧ transmission.outlet.closed = true

variable {transmission : Transmission}

/-- What comes of the outbound side doing a piece of work: the request that it takes, and what is
afterwards. -/
inductive Work (transmission : Transmission) : Option Offer → Transmission → Prop where
  /-- There is none. -/
  | rests (rest : transmission.AtRest) : Work transmission none transmission
  /-- It comes to its end. -/
  | ends (active : transmission.outlet.finished = false) (due : transmission.cancelled = true ∨
        transmission.outlet.queue = [] ∧ transmission.outlet.closed = true) :
      Work transmission none { transmission with outlet := transmission.outlet.finish }
  /-- It takes a request and writes it. -/
  | writes {request : Request} {rest : List Request} (active : transmission.outlet.finished = false)
      (going : transmission.cancelled = false)
      (queue : transmission.outlet.queue = request :: rest) :
      Work transmission (some ⟨transmission.outlet.sink, request⟩)
        { transmission with outlet := { transmission.outlet.write request with queue := rest } }

/-- Every piece of work is one of these. -/
theorem work_cases (transmission : Transmission) :
    transmission.Work (transmission.offer? .work) (transmission.perform .work) := by
  cases worked : transmission.outlet.step transmission.cancelled with
  | none =>
    have nothing : transmission.offer? .work = none := by
      rcases Outlet.step_eq_none_iff.mp worked with finished | ⟨_, empty, _⟩
      · simp [offer?, finished]
      · simp [offer?, empty]
    rw [nothing, perform, worked]
    exact .rests worked
  | some next =>
    have performed : transmission.perform .work = { transmission with outlet := next } := by
      rw [perform, worked]
      rfl
    rw [performed]
    cases Outlet.works_of_step worked with
    | ends active due =>
      have nothing : transmission.offer? .work = none := by
        rcases due with told | ⟨empty, _⟩
        · simp [offer?, told]
        · simp [offer?, empty]
      rw [nothing]
      exact .ends active due
    | @writes request rest active going queue =>
      have taken : transmission.offer? .work = some ⟨transmission.outlet.sink, request⟩ := by
        simp [offer?, active, going, queue]
      rw [taken]
      exact .writes active going queue

/-- A request that is sent comes into the queue, or is refused and changes nothing. -/
theorem send_cases (transmission : Transmission) (request : Request) :
    (transmission.queued? (.send request) = none ∧
      transmission.perform (.send request) = transmission) ∨
    (transmission.queued? (.send request) = some request ∧
      transmission.outlet.finished = false ∧ transmission.outlet.closed = false ∧
      transmission.perform (.send request) = { transmission with
        outlet := { transmission.outlet with queue := transmission.outlet.queue ++ [request] } }) := by
  by_cases deaf : transmission.outlet.closed = true ∨ transmission.outlet.finished = true
  · exact .inl (by simp [queued?, perform, Outlet.send?, deaf])
  · refine .inr ?_
    have hears := not_or.mp deaf
    simp only [Bool.not_eq_true] at hears
    simp [queued?, perform, Outlet.send?, hears]

/-- Each move puts on the stream what the stream takes of the request that is taken. -/
theorem perform_written (transmission : Transmission) (move : Move) :
    (transmission.perform move).outlet.sink.written = transmission.outlet.sink.written ++
      (transmission.offer? move).toList.flatMap Offer.piece := by
  cases move with
  | close | cancel | behave => exact (List.append_nil _).symm
  | send request =>
    rcases transmission.send_cases request with ⟨_, same⟩ | ⟨_, _, _, same⟩ <;>
      simp [same, offer?]
  | work =>
    have work := transmission.work_cases
    generalize transmission.offer? .work = offer, transmission.perform .work = next at work ⊢
    cases work with
    | rests | ends => exact (List.append_nil _).symm
    | @writes request rest =>
      obtain ⟨writes, same⟩ := transmission.outlet.write_eq request
      simp [same, Offer.piece]

/-- Requests are taken from the queue at its head, and they come to its end. -/
theorem perform_queue (transmission : Transmission) (move : Move) :
    (transmission.offer? move).toList.map Offer.request ++ (transmission.perform move).outlet.queue =
      transmission.outlet.queue ++ (transmission.queued? move).toList := by
  cases move with
  | close | cancel | behave => exact (List.append_nil _).symm
  | send request =>
    rcases transmission.send_cases request with ⟨none, same⟩ | ⟨taken, _, _, same⟩
    · simp [offer?, none, same]
    · simp [offer?, taken, same]
  | work =>
    have work := transmission.work_cases
    have none : transmission.queued? .work = none := rfl
    rw [none]
    generalize transmission.offer? .work = offer, transmission.perform .work = next at work ⊢
    cases work with
    | rests | ends => exact (List.append_nil _).symm
    | writes active going queue => simp [queue]

/-- The stream is shut down only at the end, once, and in time. -/
theorem perform_ends (shuts : transmission.outlet.Shuts) (inTime : transmission.EndsInTime)
    (move : Move) :
    (transmission.perform move).outlet.Shuts ∧ (transmission.perform move).EndsInTime := by
  cases move with
  | behave => exact ⟨shuts, inTime⟩
  | close => exact ⟨shuts, fun finished => (inTime finished).imp_right fun due => ⟨due.1, rfl⟩⟩
  | cancel => exact ⟨shuts, fun _ => .inl rfl⟩
  | send request =>
    rcases transmission.send_cases request with ⟨_, same⟩ | ⟨_, active, _, same⟩
    · rw [same]
      exact ⟨shuts, inTime⟩
    · rw [same]
      exact ⟨shuts, fun finished => absurd (active.symm.trans finished) Bool.false_ne_true⟩
  | work =>
    have work := transmission.work_cases
    generalize transmission.offer? .work = offer, transmission.perform .work = next at work
    cases work with
    | rests => exact ⟨shuts, inTime⟩
    | ends active due => exact ⟨shuts.finish active, fun _ => due⟩
    | writes active =>
      refine ⟨shuts.write _ _, fun finished => ?_⟩
      exact absurd (active.symm.trans finished) Bool.false_ne_true

/-- What is on the stream after several moves are the pieces of the requests taken. -/
theorem run_written (transmission : Transmission) (moves : List Move) :
    (transmission.run moves).outlet.sink.written = transmission.outlet.sink.written ++
      (transmission.offers moves).flatMap Offer.piece := by
  induction moves generalizing transmission with
  | nil => exact (List.append_nil _).symm
  | cons move rest inductionHypothesis =>
    calc ((transmission.perform move).run rest).outlet.sink.written
        = (transmission.perform move).outlet.sink.written ++
            ((transmission.perform move).offers rest).flatMap Offer.piece :=
          inductionHypothesis _
      _ = transmission.outlet.sink.written ++
            (transmission.offers (move :: rest)).flatMap Offer.piece := by
          rw [perform_written, List.append_assoc, ← List.flatMap_append]
          rfl

/-- The requests taken, and those that are in the queue after several moves, are those that were in
the queue and those that came into it, in order. -/
theorem run_queue (transmission : Transmission) (moves : List Move) :
    (transmission.offers moves).map Offer.request ++ (transmission.run moves).outlet.queue =
      transmission.outlet.queue ++ transmission.queued moves := by
  induction moves generalizing transmission with
  | nil => exact (List.append_nil _).symm
  | cons move rest inductionHypothesis =>
    calc (transmission.offers (move :: rest)).map Offer.request ++
          ((transmission.perform move).run rest).outlet.queue
        = (transmission.offer? move).toList.map Offer.request ++
            ((transmission.perform move).outlet.queue ++
              (transmission.perform move).queued rest) := by
          rw [← inductionHypothesis, offers, List.map_append, List.append_assoc]
      _ = transmission.outlet.queue ++ transmission.queued (move :: rest) := by
          rw [← List.append_assoc, perform_queue, List.append_assoc]
          rfl

/-- The stream is shut down only at the end, once, and in time, through any moves. -/
theorem run_ends (moves : List Move) (shuts : transmission.outlet.Shuts)
    (inTime : transmission.EndsInTime) :
    (transmission.run moves).outlet.Shuts ∧ (transmission.run moves).EndsInTime := by
  induction moves generalizing transmission with
  | nil => exact ⟨shuts, inTime⟩
  | cons move rest inductionHypothesis =>
    obtain ⟨shutsAfter, inTimeAfter⟩ := perform_ends shuts inTime move
    exact inductionHypothesis shutsAfter inTimeAfter

/-- The requests taken in some moves and in further ones. -/
theorem offers_append (transmission : Transmission) (first later : List Move) :
    transmission.offers (first ++ later) =
      transmission.offers first ++ (transmission.run first).offers later := by
  induction first generalizing transmission with
  | nil => rfl
  | cons move rest inductionHypothesis =>
    simp only [List.cons_append, offers, inductionHypothesis, List.append_assoc]
    rfl

/-- An outbound side that was told to stop takes no request, and goes on being told. -/
theorem offers_of_cancelled (moves : List Move) (told : transmission.cancelled = true) :
    transmission.offers moves = [] := by
  induction moves generalizing transmission with
  | nil => rfl
  | cons move rest inductionHypothesis =>
    have nothing : transmission.offer? move = none := by
      cases move <;> simp [offer?, told]
    have still : (transmission.perform move).cancelled = true := by
      cases move with
      | cancel => rfl
      | _ => exact told
    rw [offers, nothing, inductionHypothesis still]
    rfl

/-- At rest, further attempts to work change nothing. -/
theorem AtRest.run_work (rest : transmission.AtRest) (count : Nat) :
    transmission.run (List.replicate count .work) = transmission := by
  have same : transmission.perform .work = transmission := by
    rw [AtRest] at rest
    rw [perform, rest]
    rfl
  induction count with
  | zero => rfl
  | succ count inductionHypothesis =>
    rw [List.replicate_succ, run, List.foldl_cons, same]
    exact inductionHypothesis

/-- With a piece for each request and one for the end, work comes to a rest. -/
theorem run_work_rests (count : Nat) (enough : transmission.outlet.piecesToCome ≤ count) :
    (transmission.run (List.replicate count .work)).AtRest := by
  induction count generalizing transmission with
  | zero =>
    have finished : transmission.outlet.finished = true := by
      cases known : transmission.outlet.finished with
      | true => rfl
      | false => simp [Outlet.piecesToCome, known] at enough
    exact Outlet.step_eq_none_iff.mpr (.inl finished)
  | succ count inductionHypothesis =>
    cases worked : transmission.outlet.step transmission.cancelled with
    | none =>
      rw [AtRest.run_work worked]
      exact worked
    | some next =>
      have performed : transmission.perform .work = { transmission with outlet := next } := by
        rw [perform, worked]
        rfl
      have less := Outlet.step_less worked
      rw [List.replicate_succ, run, List.foldl_cons, performed]
      exact inductionHypothesis (Nat.le_of_lt_succ (Nat.lt_of_lt_of_le less enough))

/-- A failed write costs the rest of its request, and nothing else. Whatever is sent, closed and
cancelled, and however the stream behaves: the bytes on the stream are one piece for each request
taken, in the order in which the requests came into the queue. A piece is a beginning of the bytes
of its request, and all of them exactly if writing them does not fail; every stream that fails as
soon takes the same piece, whatever has been written to it, or failed to be, before.

After a cancellation no request is taken. Without one, all requests that came into the queue are
taken before the end. The stream is shut down once at the end and not before, whether or not that
fails. With a piece of work for each request in the queue and one more the outbound side comes to a
rest, and there it has ended exactly if it was told to stop or the queue is closed. -/
theorem failures_stay_apart (moves : List Move) :
    let reached := start.run moves
    let offers := start.offers moves
    reached.outlet.sink.written = offers.flatMap Offer.piece ∧
      (∀ offer ∈ offers,
        offer.piece <+: offer.request.encode ∧
          (offer.piece = offer.request.encode ↔ ¬ offer.sink.Fails offer.request.encode) ∧
          ∀ sink : Sink, sink.budget = offer.sink.budget →
            (sink.writeAll offer.request.encode).written = sink.written ++ offer.piece) ∧
      offers.map Offer.request ++ reached.outlet.queue = start.queued moves ∧
      (∀ earlier later, moves = earlier ++ .cancel :: later → offers = start.offers earlier) ∧
      (reached.outlet.finished = true → reached.cancelled = true ∨
        reached.outlet.closed = true ∧ offers.map Offer.request = start.queued moves) ∧
      reached.outlet.sink.shutdowns = (if reached.outlet.finished then 1 else 0) ∧
      (reached.AtRest → (reached.outlet.finished = true ↔
          reached.cancelled = true ∨ reached.outlet.closed = true)) ∧
      (reached.AtRest → reached.cancelled = true ∨ offers.map Offer.request = start.queued moves) ∧
      (reached.run (List.replicate (reached.outlet.queue.length + 1) .work)).AtRest := by
  intro reached offers
  have order : offers.map Offer.request ++ reached.outlet.queue = start.queued moves :=
    run_queue start moves
  have emptied (empty : reached.outlet.queue = []) :
      offers.map Offer.request = start.queued moves := by
    rw [← order, empty, List.append_nil]
  obtain ⟨shuts, inTime⟩ : reached.outlet.Shuts ∧ reached.EndsInTime := run_ends moves rfl nofun
  refine ⟨run_written start moves, ?_, order, ?_, ?_, shuts, ?_, ?_, ?_⟩
  · intro offer _
    refine ⟨offer.sink.takes_prefix _, Sink.takes_eq_iff, ?_⟩
    intro sink alike
    obtain ⟨writes, same⟩ := sink.writeAll_eq offer.request.encode
    rw [same, Offer.piece, Sink.takes, Sink.takes, alike]
  · rintro earlier later rfl
    have told : ((start.run earlier).perform .cancel).cancelled = true := rfl
    calc start.offers (earlier ++ .cancel :: later)
        = start.offers earlier ++ ((start.run earlier).perform .cancel).offers later :=
          offers_append start earlier (.cancel :: later)
      _ = start.offers earlier := by rw [offers_of_cancelled later told, List.append_nil]
  · intro finished
    exact (inTime finished).imp_right fun due => ⟨due.2, emptied due.1⟩
  · intro rest
    rcases Outlet.step_eq_none_iff.mp rest with finished | ⟨going, empty, hears⟩
    · exact ⟨fun _ => (inTime finished).imp_right And.right, fun _ => finished⟩
    · constructor
      · exact fun finished => (inTime finished).imp_right And.right
      · rintro (told | closed)
        · exact absurd (going.symm.trans told) Bool.false_ne_true
        · exact absurd (hears.symm.trans closed) Bool.false_ne_true
  · intro rest
    rcases Outlet.step_eq_none_iff.mp rest with finished | ⟨_, empty, _⟩
    · exact (inTime finished).imp_right fun due => emptied due.1
    · exact .inr (emptied empty)
  · refine run_work_rests _ ?_
    unfold Outlet.piecesToCome
    split <;> omega

/-- The stream fails in the middle of one request and recovers for the next one, two bytes at a
time; the shutdown fails as well. -/
example :
    let moves : List Move := [.behave (fun _ => 2) (some 1) true, .send (.setCursor 258), .work,
      .behave (fun _ => 2) none true, .send (.advance 'a'), .close, .work, .work]
    (start.run moves).outlet.sink.written = [6, 97, 0] ∧
      (start.run moves).outlet.sink.shutdowns = 1 := by decide

end Transmission

end Typeahead
