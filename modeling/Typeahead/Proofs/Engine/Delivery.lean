import Typeahead.Proofs.Engine.Reading

/-!
# Delivery under backpressure

A `Reception` is an inbound side with what it has read so far and the replies that have been
taken from its queue. Its moves come in any order: reads become due, replies are taken, a
piece of work is done, the inbound side is told to stop, or nobody takes replies any more.

`framesOf` are the frames of what has been read, by a splitter that drains each piece before
it takes the next one. Along every run, the replies taken, those in the queue and the one in
hand begin the list of the replies that these frames hold, and they are all of it once the
inbound side rests without a reply in hand (`conveys_replies`). The invariant, `Accounts`,
tells apart an inbound side at work, one that has come to the end of its stream, and one that
was broken off.

Work ends: every piece of it makes the `toil` of an inbound side less.
-/

namespace Typeahead

namespace Arrival

/-- Whether an arrival is a piece of the stream, and neither its end nor a failure. -/
def isPiece : Arrival → Bool
  | .bytes content => !content.isEmpty
  | .failure => false

/-- The pieces of a stream before its end or a failure. -/
def pieces (arrivals : List Arrival) : List Bytes :=
  (arrivals.takeWhile isPiece).map content

/-- Whether a stream ends or fails with these arrivals. -/
def stops (arrivals : List Arrival) : Bool :=
  !arrivals.all isPiece

/-- Behind pieces alone, a stream goes on. -/
theorem pieces_append_of_goesOn {arrivals : List Arrival} (goesOn : stops arrivals = false)
    (more : List Arrival) : pieces (arrivals ++ more) = pieces arrivals ++ pieces more := by
  have whole : ∀ arrival ∈ arrivals, isPiece arrival = true := by
    simpa [stops] using goesOn
  have taken : (arrivals ++ []).takeWhile isPiece = arrivals ++ [].takeWhile isPiece :=
    List.takeWhile_append_of_pos whole
  rw [List.append_nil, List.takeWhile_nil, List.append_nil] at taken
  rw [pieces, pieces, List.takeWhile_append_of_pos whole, taken, List.map_append, pieces]

/-- Behind the end of a stream or a failure, nothing belongs to it. -/
theorem pieces_append_of_stops {arrivals : List Arrival} (stopped : stops arrivals = true)
    (more : List Arrival) : pieces (arrivals ++ more) = pieces arrivals := by
  induction arrivals with
  | nil => cases stopped
  | cons arrival rest inductionHypothesis =>
    cases piece : isPiece arrival with
    | false => simp [pieces, piece]
    | true =>
      have behind : stops rest = true := by simpa [stops, piece] using stopped
      have same := inductionHypothesis behind
      simp only [pieces] at same
      simp [pieces, piece, same]

/-- A stream stops once one of its parts does. -/
theorem stops_append (first later : List Arrival) :
    stops (first ++ later) = (stops first || stops later) := by
  simp [stops, Bool.not_and]

end Arrival

/-- The frames of a stream that arrives so, when every piece is drained before the next one is read,
and what is left once more when the end of the stream is read. -/
def Splitter.framesOf (limit : Nat) (arrivals : List Arrival) : List Bytes :=
  let (frames, splitter, rest) := readPieces (Arrival.pieces arrivals) (ofLimit limit) []
  if (arrivals.dropWhile Arrival.isPiece).head? = some (.bytes []) then
    frames ++ (drain nextAtEnd splitter rest).1
  else frames

/-- The end of the stream completes no frame. -/
theorem Splitter.framesOf_eq (limit : Nat) (arrivals : List Arrival) :
    framesOf limit arrivals = (readPieces (Arrival.pieces arrivals) (ofLimit limit) []).1 := by
  have exhausted := readPieces_exhausted (Arrival.pieces arrivals) (exhausted_start limit)
  simp only [framesOf, drainAtEnd_of_exhausted exhausted, List.append_nil, ite_self]

namespace Intake

variable {intake next : Intake} {cancelled abandoned : Bool}

/-- What the next piece of work reads, if it reads. -/
def reading? (cancelled : Bool) (intake : Intake) : Option Arrival :=
  if intake.finished ∨ intake.inHand.isSome ∨ cancelled ∨ intake.searching then none
  else
    match intake.arrivals with
    | arrival :: _ => some arrival
    | [] => if intake.closed then some (.bytes []) else none

/-- With a reply in hand an inbound side reads nothing. -/
theorem reading?_of_held {reply : Reply} (held : intake.inHand = some reply) :
    intake.reading? cancelled = none := by
  simp [reading?, held]

/-- While there may be a frame to be found, an inbound side reads nothing. -/
theorem reading?_of_searching (searching : intake.searching = true) :
    intake.reading? cancelled = none := by
  simp [reading?, searching]

/-- An inbound side that has been told to stop reads nothing. -/
theorem reading?_of_told (told : cancelled = true) : intake.reading? cancelled = none := by
  simp [reading?, told]

/-- An inbound side reads only with empty hands, when it has searched all that it has and has not
been told to stop. -/
theorem reading?_of_idle (active : intake.finished = false) (empty : intake.inHand = none)
    (searched : intake.searching = false) (untold : cancelled = false) :
    intake.reading? cancelled =
      match intake.arrivals with
      | arrival :: _ => some arrival
      | [] => if intake.closed then some (.bytes []) else none := by
  simp [reading?, active, empty, searched, untold]

/-- What the engine writes comes behind all that waits. -/
theorem receiveBytes_contents (active : ¬ intake.finished = true) (content : Bytes) :
    ∃ later, intake.receiveBytes content = { intake with arrivals := later } ∧
      Arrival.contents later = Arrival.contents intake.arrivals ++ content := by
  unfold receiveBytes
  split
  · next nothing =>
    obtain rfl := nothing.resolve_left active
    exact ⟨intake.arrivals, rfl, (List.append_nil _).symm⟩
  · split
    · next waiting last =>
      obtain ⟨earlier, arrivals⟩ := List.getLast?_eq_some_iff.mp last
      refine ⟨_, rfl, ?_⟩
      simp [arrivals, Arrival.contents, Arrival.content]
    · rw [receive, if_neg active]
      refine ⟨_, rfl, ?_⟩
      simp [Arrival.contents, Arrival.content]

/-- How much may have to be done before something arrives: at most a look and an offer for every
byte, and a read with one look in vain for every arrival. -/
def toil (intake : Intake) : Nat :=
  2 * (intake.buffer.length + (intake.arrivals.map effort.size).foldr (· + ·) 0) +
    2 * intake.arrivals.length +
    (if intake.inHand.isSome then 1 else 0) +
    if intake.finished then 0
    else
      match intake.ended, intake.searching with
      | true, true => 1
      | _, false => 2
      | false, true => 3

/-- Every piece of work is one less to do, and puts at most one reply into the queue. -/
theorem Work.toil_lt (work : intake.Work cancelled abandoned next)
    (active : intake.finished = false) :
    next.toil < intake.toil ∧ next.queue.length ≤ intake.queue.length + 1 := by
  cases work with
  | drops held left =>
    refine ⟨?_, Nat.le_succ _⟩
    simp [toil, held]
    omega
  | puts held kept room =>
    simp [toil, held]
  | stops empty told =>
    refine ⟨?_, Nat.le_succ _⟩
    simp only [toil, active]
    cases intake.ended <;> cases intake.searching <;> simp
  | finds empty searching found decoded =>
    have shorter := (Splitter.next_shortens intake.splitter intake.buffer).lt (by simp [found])
    rw [found] at shorter
    refine ⟨?_, Nat.le_succ _⟩
    simp only at shorter
    simp [toil, empty, active]
    omega
  | skips empty searching found undecodable =>
    have shorter := (Splitter.next_shortens intake.splitter intake.buffer).lt (by simp [found])
    rw [found] at shorter
    refine ⟨?_, Nat.le_succ _⟩
    simp only at shorter
    simp [toil, active]
    omega
  | runsOut empty found searching shorter =>
    refine ⟨?_, Nat.le_succ _⟩
    cases ended : intake.ended <;> simp [toil, active, searching, ended] <;> omega
  | reads empty arrived piece searched untold =>
    refine ⟨?_, Nat.le_succ _⟩
    cases ended : intake.ended <;>
      simp [toil, active, searched, ended, arrived, effort.size] <;> omega
  | ends empty exhausted searched untold =>
    refine ⟨?_, Nat.le_succ _⟩
    rcases exhausted with arrived | ⟨arrived, rfl, closed⟩
    · simp only [toil, active, searched, arrived, effort.size, List.map_cons, List.foldr_cons,
        List.length_cons, Bool.false_eq_true, if_false]
      omega
    · simp [toil, active, searched, arrived]
  | fails empty failure searched untold =>
    refine ⟨?_, Nat.le_succ _⟩
    simp only [toil, active, searched, failure, effort.size, List.map_cons, List.foldr_cons,
      List.length_cons, Bool.false_eq_true, if_true, if_false]
    omega

end Intake

/-- An inbound side with what it has read and the replies that have been taken from it. -/
structure Reception where
  intake : Intake
  /-- What has been read from the stream, in order. -/
  read : List Arrival
  /-- The replies taken from the queue, in order. -/
  taken : List Reply
  /-- Whether the inbound side has been told to stop. -/
  cancelled : Bool
  /-- Whether nobody takes from the queue any more. -/
  abandoned : Bool

namespace Reception

/-- What may happen next. -/
inductive Move where
  /-- Reads become due. -/
  | arrive (arrivals : List Arrival)
  /-- The engine writes on a connection that does not keep the bounds of what was written. -/
  | write (content : Bytes)
  /-- The stream ends behind what has arrived. -/
  | close
  /-- Replies are taken from the queue, as far as there are so many. -/
  | take (count : Nat)
  /-- The inbound side is told to stop. -/
  | cancel
  /-- Nobody takes replies any more. -/
  | abandon
  /-- A piece of work is done, unless there is none. -/
  | work

/-- Before anything has arrived. -/
def start (limit capacity : Nat) : Reception :=
  ⟨.start limit capacity, [], [], false, false⟩

/-- The next piece of work. -/
def work (reception : Reception) : Option Reception :=
  (reception.intake.step reception.cancelled reception.abandoned).map fun intake =>
    { reception with
      intake
      read := reception.read ++ (reception.intake.reading? reception.cancelled).toList }

/-- The reception after a move. -/
def perform (reception : Reception) : Move → Reception
  | .arrive arrivals => { reception with intake := reception.intake.receive arrivals }
  | .write content => { reception with intake := reception.intake.receiveBytes content }
  | .close => { reception with intake := reception.intake.close }
  | .take count =>
    if reception.abandoned then reception
    else
      let (replies, intake) := reception.intake.take count
      { reception with intake, taken := reception.taken ++ replies }
  | .cancel => { reception with cancelled := true }
  | .abandon => { reception with abandoned := true }
  | .work => reception.work.getD reception

/-- The reception after a run. -/
def run : Reception → List Move → Reception
  | reception, [] => reception
  | reception, move :: rest => run (reception.perform move) rest

/-- The replies that the frames of all that has been read hold. -/
def replies (limit : Nat) (reception : Reception) : List Reply :=
  Reply.ofFrames (Splitter.framesOf limit reception.read)

/-- What has been read, and what there is still to read. -/
def onward (reception : Reception) : List Arrival :=
  reception.read ++ reception.intake.arrivals ++
    if reception.intake.closed then [.bytes []] else []

/-- The account of an inbound side at work: it holds or has given the replies of the frames found,
and draining what it has in its buffer finds the others. When it does not search there is nothing
to find, and likewise once it has read the end of the stream. -/
structure Working (limit : Nat) (reception : Reception) : Prop where
  active : reception.intake.finished = false
  finding : ∃ found rest behind,
    Splitter.readPieces (Arrival.pieces reception.read) (.ofLimit limit) [] =
        (found ++ rest, behind) ∧
      Splitter.drain Splitter.next reception.intake.splitter reception.intake.buffer =
        (rest, behind) ∧
      reception.taken ++ reception.intake.queue ++ reception.intake.inHand.toList =
        Reply.ofFrames found
  searched : reception.intake.searching = false →
    reception.intake.splitter.Exhausted reception.intake.buffer
  unfinished : Arrival.stops reception.read = reception.intake.ended
  ending : reception.intake.ended = true → reception.intake.inHand = none ∧
    reception.intake.searching = true ∧
    reception.intake.splitter.Exhausted reception.intake.buffer

/-- The account of the replies that an inbound side has passed on. -/
inductive Accounts (limit : Nat) (reception : Reception) : Prop where
  /-- It is at work. -/
  | working (working : reception.Working limit)
  /-- It has come to the end of the stream, or to a failure, and every reply has been put out. -/
  | complete (finished : reception.intake.finished = true)
      (empty : reception.intake.inHand = none) (stopped : Arrival.stops reception.read = true)
      (whole : reception.taken ++ reception.intake.queue = reception.replies limit)
  /-- It was broken off, and some of the replies may be missing at the end. -/
  | broken (finished : reception.intake.finished = true)
      (empty : reception.intake.inHand = none)
      (goesOn : Arrival.stops reception.read = false)
      (because : reception.cancelled = true ∨ reception.abandoned = true)
      (begun : reception.taken ++ reception.intake.queue <+: reception.replies limit)

variable {limit : Nat} {reception next : Reception} {intake : Intake}

namespace Working

/-- At work, the replies passed on are the first ones. -/
theorem begun (working : reception.Working limit) :
    reception.taken ++ reception.intake.queue ++ reception.intake.inHand.toList <+:
      reception.replies limit := by
  obtain ⟨found, rest, behind, split, -, holds⟩ := working.finding
  rw [holds, replies, Splitter.framesOf_eq, split, Reply.ofFrames_append]
  exact List.prefix_append _ _

/-- Where there is nothing to find in the buffer, the frames found are those of all that was
read. -/
theorem found_all (working : reception.Working limit)
    (exhausted : reception.intake.splitter.Exhausted reception.intake.buffer) :
    ∃ frames, Splitter.readPieces (Arrival.pieces reception.read) (.ofLimit limit) [] =
        (frames, reception.intake.splitter, reception.intake.buffer) ∧
      reception.taken ++ reception.intake.queue ++ reception.intake.inHand.toList =
        Reply.ofFrames frames := by
  obtain ⟨found, rest, behind, split, drains, holds⟩ := working.finding
  rw [Splitter.drain_of_nothing exhausted] at drains
  cases drains
  rw [List.append_nil] at split
  exact ⟨found, split, holds⟩

/-- Where there is nothing to find in the buffer, the replies passed on are all of them. -/
theorem given_all (working : reception.Working limit)
    (exhausted : reception.intake.splitter.Exhausted reception.intake.buffer)
    (empty : reception.intake.inHand = none) :
    reception.taken ++ reception.intake.queue = reception.replies limit := by
  obtain ⟨frames, split, holds⟩ := working.found_all exhausted
  rw [empty, Option.toList_none, List.append_nil] at holds
  rw [replies, Splitter.framesOf_eq, split, holds]

/-- With a reply in hand, the end of the stream has not been read. -/
theorem unended_of_held (working : reception.Working limit) {reply : Reply}
    (held : reception.intake.inHand = some reply) : reception.intake.ended = false := by
  refine eq_false_of_ne_true ?_
  intro ended
  exact Option.some_ne_none reply (held.symm.trans (working.ending ended).1)

/-- When a frame is found, the end of the stream has not been read. -/
theorem unended_of_found (working : reception.Working limit) {frame rest : Bytes}
    {splitter : Splitter} (looked : reception.intake.splitter.next reception.intake.buffer =
      ⟨some frame, splitter, rest⟩) : reception.intake.ended = false := by
  refine eq_false_of_ne_true ?_
  intro ended
  have nothing := (working.ending ended).2.2
  rw [Splitter.Exhausted, looked] at nothing
  exact Option.some_ne_none frame (congrArg Splitter.Cut.frame nothing)

/-- Before a read, the end of the stream has not been read. -/
theorem unended_of_searched (working : reception.Working limit)
    (searched : reception.intake.searching = false) : reception.intake.ended = false := by
  refine eq_false_of_ne_true ?_
  intro ended
  exact Bool.false_ne_true (searched.symm.trans (working.ending ended).2.1)

/-- The reply in hand is put into the queue. -/
theorem put (working : reception.Working limit) {reply : Reply}
    (held : reception.intake.inHand = some reply) :
    { reception with
      intake := { reception.intake with
        inHand := none
        queue := reception.intake.queue ++ [reply] } }.Working limit := by
  obtain ⟨found, rest, behind, split, drains, holds⟩ := working.finding
  constructor
  · exact working.active
  · refine ⟨found, rest, behind, split, drains, ?_⟩
    simpa [held] using holds
  · exact working.searched
  · exact working.unfinished
  · intro ended
    exact absurd ((working.unended_of_held held).symm.trans ended) Bool.false_ne_true

/-- A frame is found, and the reply that it holds, if any, is in hand. -/
theorem find (working : reception.Working limit) {frame rest : Bytes} {splitter : Splitter}
    {inHand : Option Reply} (empty : reception.intake.inHand = none)
    (searching : reception.intake.searching = true)
    (looked : reception.intake.splitter.next reception.intake.buffer =
      ⟨some frame, splitter, rest⟩)
    (decoded : (Reply.decode frame).toOption = inHand) :
    { reception with
      intake := { reception.intake with splitter, buffer := rest, inHand } }.Working limit := by
  obtain ⟨found, frames, behind, split, drains, holds⟩ := working.finding
  rw [Splitter.drain_of_found Splitter.next_shortens looked] at drains
  obtain ⟨rfl, same⟩ := Prod.mk.inj drains
  constructor
  · exact working.active
  · refine ⟨found ++ [frame], _, behind, by simpa using split, Prod.ext rfl same, ?_⟩
    have reads : Reply.ofFrames [frame] = inHand.toList := by
      cases inHand <;> simp [Reply.ofFrames, decoded]
    rw [Reply.ofFrames_append, reads, ← holds, empty, Option.toList_none, List.append_nil]
  · intro searched
    exact absurd (searching.symm.trans searched) Bool.noConfusion
  · exact working.unfinished
  · intro ended
    exact absurd ((working.unended_of_found looked).symm.trans ended) Bool.false_ne_true

/-- No frame is found, and there is nothing to find from here on. -/
theorem runOut (working : reception.Working limit) {rest : Bytes} {splitter : Splitter}
    (unended : reception.intake.ended = false)
    (looked : reception.intake.splitter.next reception.intake.buffer = ⟨none, splitter, rest⟩) :
    { reception with
      intake := { reception.intake with
        splitter
        buffer := rest
        searching := false
        finished := reception.intake.ended } }.Working limit := by
  have nothing := Splitter.next_exhausted (congrArg Splitter.Cut.frame looked)
  rw [looked] at nothing
  obtain ⟨found, frames, behind, split, drains, holds⟩ := working.finding
  rw [Splitter.drain_of_nothing looked] at drains
  constructor
  · exact unended
  · exact ⟨found, frames, behind, split,
      (Splitter.drain_of_nothing nothing).trans drains, holds⟩
  · intro _
    exact nothing
  · exact working.unfinished
  · intro ended
    exact absurd (unended.symm.trans ended) Bool.false_ne_true

/-- A piece of the stream is read. -/
theorem readOn (working : reception.Working limit) {content : Bytes} {arrivals : List Arrival}
    (piece : content ≠ []) (searched : reception.intake.searching = false) :
    { reception with
      intake := { reception.intake with
        buffer := reception.intake.buffer ++ content
        arrivals
        searching := true }
      read := reception.read ++ [Arrival.bytes content] }.Working limit := by
  have unended := working.unended_of_searched searched
  have goesOn := working.unfinished.trans unended
  obtain ⟨frames, split, holds⟩ := working.found_all (working.searched searched)
  have brings : Arrival.isPiece (.bytes content) = true := by
    simpa [Arrival.isPiece] using piece
  have pieces : Arrival.pieces (reception.read ++ [Arrival.bytes content]) =
      Arrival.pieces reception.read ++ [content] := by
    rw [Arrival.pieces_append_of_goesOn goesOn]
    simp [Arrival.pieces, brings, Arrival.content]
  constructor
  · exact working.active
  · refine ⟨frames, _, _, ?_, rfl, holds⟩
    rw [pieces]
    exact Splitter.readPieces_concat split rfl
  · intro searched
    cases searched
  · rw [Arrival.stops_append, goesOn, unended]
    simp [Arrival.stops, brings]
  · intro ended
    exact absurd (unended.symm.trans ended) Bool.false_ne_true

/-- What is no piece of the stream ends it, and adds nothing to what it holds. -/
theorem read_last (working : reception.Working limit) {last : Arrival}
    (searched : reception.intake.searching = false) (stop : last.isPiece = false) :
    Arrival.stops (reception.read ++ [last]) = true ∧
      Arrival.pieces (reception.read ++ [last]) = Arrival.pieces reception.read := by
  have goesOn := working.unfinished.trans (working.unended_of_searched searched)
  rw [Arrival.stops_append, Arrival.pieces_append_of_goesOn goesOn]
  simp [Arrival.stops, Arrival.pieces, stop]

/-- The end of the stream is read. -/
theorem readEnd (working : reception.Working limit) {arrivals : List Arrival}
    (empty : reception.intake.inHand = none) (searched : reception.intake.searching = false) :
    { reception with
      intake := { reception.intake with arrivals, ended := true, searching := true }
      read := reception.read ++ [Arrival.bytes []] }.Working limit := by
  have nothing := working.searched searched
  obtain ⟨stopped, pieces⟩ := working.read_last searched (rfl : Arrival.isPiece (.bytes []) = false)
  obtain ⟨found, frames, behind, split, drains, holds⟩ := working.finding
  constructor
  · exact working.active
  · exact ⟨found, frames, behind, by rwa [pieces], drains, holds⟩
  · intro searched
    cases searched
  · exact stopped
  · intro _
    exact ⟨empty, rfl, nothing⟩

end Working

namespace Accounts

/-- Nothing has been read at first, and nothing passed on. -/
theorem start (limit capacity : Nat) : (Reception.start limit capacity).Accounts limit := by
  refine .working ⟨rfl, ?_, nofun, rfl, nofun⟩
  exact ⟨[], [], _, rfl, rfl, rfl⟩

/-- The replies passed on are the first ones, and all of them where the stream has stopped. -/
theorem given (accounts : reception.Accounts limit) :
    reception.taken ++ reception.intake.queue ++ reception.intake.inHand.toList <+:
        reception.replies limit ∧
      (Arrival.stops reception.read = true → reception.intake.inHand = none ∧
        reception.taken ++ reception.intake.queue = reception.replies limit) := by
  cases accounts with
  | working working =>
    refine ⟨working.begun, ?_⟩
    intro stopped
    obtain ⟨empty, -, exhausted⟩ := working.ending (working.unfinished.symm.trans stopped)
    exact ⟨empty, working.given_all exhausted empty⟩
  | complete finished empty stopped whole =>
    rw [empty, Option.toList_none, List.append_nil, whole]
    exact ⟨List.prefix_refl _, fun _ => ⟨rfl, rfl⟩⟩
  | broken finished empty goesOn because begun =>
    rw [empty, Option.toList_none, List.append_nil]
    exact ⟨begun, fun stopped => absurd (goesOn.symm.trans stopped) Bool.false_ne_true⟩

/-- What arrives makes no difference before it is read. -/
theorem await (accounts : reception.Accounts limit) (arrivals : List Arrival) (closed : Bool) :
    { reception with intake := { reception.intake with arrivals, closed } }.Accounts limit := by
  cases accounts with
  | working working =>
    exact .working ⟨working.active, working.finding, working.searched, working.unfinished,
      working.ending⟩
  | complete finished empty stopped whole => exact .complete finished empty stopped whole
  | broken finished empty goesOn because begun =>
    exact .broken finished empty goesOn because begun

/-- A reply that leaves the queue has been taken. -/
theorem take (accounts : reception.Accounts limit) (count : Nat) :
    { reception with
      intake := (reception.intake.take count).2
      taken := reception.taken ++ (reception.intake.take count).1 }.Accounts limit := by
  have moved : reception.taken ++ reception.intake.queue.take count ++
      reception.intake.queue.drop count = reception.taken ++ reception.intake.queue := by
    rw [List.append_assoc, List.take_append_drop]
  cases accounts with
  | working working =>
    have finding := working.finding
    rw [← moved] at finding
    exact .working ⟨working.active, finding, working.searched, working.unfinished, working.ending⟩
  | complete finished empty stopped whole =>
    rw [← moved] at whole
    exact .complete finished empty stopped whole
  | broken finished empty goesOn because begun =>
    rw [← moved] at begun
    exact .broken finished empty goesOn because begun

/-- Being told to stop, or being left alone, takes back nothing. -/
theorem tell (accounts : reception.Accounts limit) (cancelled abandoned : Bool) :
    { reception with
      cancelled := reception.cancelled || cancelled
      abandoned := reception.abandoned || abandoned }.Accounts limit := by
  cases accounts with
  | working working =>
    exact .working ⟨working.active, working.finding, working.searched, working.unfinished,
      working.ending⟩
  | complete finished empty stopped whole => exact .complete finished empty stopped whole
  | broken finished empty goesOn because begun =>
    refine .broken finished empty goesOn ?_ begun
    simp only [Bool.or_eq_true]
    exact because.imp .inl .inl

/-- At work, every piece of work keeps the account. -/
theorem work_of_working (working : reception.Working limit)
    (work : reception.intake.Work reception.cancelled reception.abandoned intake) :
    { reception with
      intake
      read := reception.read ++ (reception.intake.reading? reception.cancelled).toList }.Accounts
        limit := by
  have begun := (List.prefix_append _ _).trans working.begun
  cases work with
  | drops held abandoned =>
    rw [Intake.reading?_of_held held, Option.toList_none, List.append_nil]
    exact .broken rfl rfl (working.unfinished.trans (working.unended_of_held held))
      (.inr abandoned) begun
  | puts held =>
    rw [Intake.reading?_of_held held, Option.toList_none, List.append_nil]
    exact .working (working.put held)
  | stops empty told =>
    rw [Intake.reading?_of_told told, Option.toList_none, List.append_nil]
    cases stopped : Arrival.stops reception.read with
    | true =>
      have exhausted := (working.ending (working.unfinished.symm.trans stopped)).2.2
      exact .complete rfl empty stopped (working.given_all exhausted empty)
    | false => exact .broken rfl empty stopped (.inl told) begun
  | finds empty searching looked decoded =>
    rw [Intake.reading?_of_searching searching, Option.toList_none, List.append_nil]
    refine .working (working.find empty searching looked ?_)
    rw [decoded, Except.toOption]
  | skips empty searching looked undecodable =>
    rw [Intake.reading?_of_searching searching, Option.toList_none, List.append_nil]
    refine .working (working.find empty searching looked ?_)
    rw [undecodable, empty, Except.toOption]
  | runsOut empty looked searching =>
    rw [Intake.reading?_of_searching searching, Option.toList_none, List.append_nil]
    rcases Bool.eq_false_or_eq_true reception.intake.ended with ended | unended
    · have exhausted := (working.ending ended).2.2
      exact .complete ended empty (working.unfinished.trans ended)
        (working.given_all exhausted empty)
    · exact .working (working.runOut unended (looked unended))
  | @reads content _ empty arrived piece searched untold =>
    have next : reception.intake.reading? reception.cancelled = some (.bytes content) := by
      rw [Intake.reading?_of_idle working.active empty searched untold, arrived]
    rw [next]
    exact .working (working.readOn piece searched)
  | ends empty exhausted searched untold =>
    have last : reception.intake.reading? reception.cancelled = some (.bytes []) := by
      rw [Intake.reading?_of_idle working.active empty searched untold]
      rcases exhausted with arrived | ⟨arrived, -, closed⟩
      · rw [arrived]
      · rw [arrived, if_pos closed]
    rw [last]
    exact .working (working.readEnd empty searched)
  | fails empty failure searched untold =>
    have last : reception.intake.reading? reception.cancelled = some .failure := by
      rw [Intake.reading?_of_idle working.active empty searched untold, failure]
    obtain ⟨stopped, pieces⟩ := working.read_last searched (rfl : Arrival.isPiece .failure = false)
    have whole := working.given_all (working.searched searched) empty
    rw [last]
    refine .complete rfl empty stopped ?_
    rw [replies, Splitter.framesOf_eq] at whole ⊢
    simpa only [Option.toList_some, pieces] using whole

/-- Every piece of work keeps the account. -/
theorem work (accounts : reception.Accounts limit) (worked : reception.work = some next) :
    next.Accounts limit := by
  obtain ⟨intake, stepped, rfl⟩ := Option.map_eq_some_iff.mp worked
  obtain ⟨active, work⟩ := Intake.step_work stepped
  cases accounts with
  | working working => exact work_of_working working work
  | complete finished | broken finished =>
    exact absurd (active.symm.trans finished) Bool.false_ne_true

/-- Every move keeps the account. -/
theorem perform (accounts : reception.Accounts limit) (move : Move) :
    (reception.perform move).Accounts limit := by
  cases move with
  | arrive arrivals =>
    obtain ⟨later, same⟩ := reception.intake.receive_arrivals arrivals
    rw [Reception.perform, same]
    exact accounts.await later reception.intake.closed
  | write content =>
    obtain ⟨later, same⟩ := reception.intake.receiveBytes_arrivals content
    rw [Reception.perform, same]
    exact accounts.await later reception.intake.closed
  | close => exact accounts.await reception.intake.arrivals true
  | take count =>
    rw [Reception.perform]
    split
    · exact accounts
    · exact accounts.take count
  | cancel => simpa [Reception.perform] using accounts.tell true false
  | abandon => simpa [Reception.perform] using accounts.tell false true
  | work =>
    cases worked : reception.work with
    | none => simpa [Reception.perform, worked] using accounts
    | some next => simpa [Reception.perform, worked] using accounts.work worked

/-- So does every run. -/
theorem run (accounts : reception.Accounts limit) (moves : List Move) :
    (reception.run moves).Accounts limit := by
  induction moves generalizing reception with
  | nil => exact accounts
  | cons move rest inductionHypothesis => exact inductionHypothesis (accounts.perform move)

end Accounts

/-- The queue never holds more replies than its capacity. -/
structure Bounded (capacity : Nat) (reception : Reception) : Prop where
  same : reception.intake.capacity = capacity
  le : reception.intake.queue.length ≤ capacity

variable {capacity : Nat}

/-- The queue is empty at first. -/
theorem bounded_start (limit capacity : Nat) : (start limit capacity).Bounded capacity :=
  ⟨rfl, Nat.zero_le _⟩

/-- Every move keeps the queue within its bound. -/
theorem Bounded.perform (bounded : reception.Bounded capacity) (move : Move) :
    (reception.perform move).Bounded capacity := by
  cases move with
  | arrive arrivals =>
    obtain ⟨later, same⟩ := reception.intake.receive_arrivals arrivals
    rw [Reception.perform, same]
    exact ⟨bounded.same, bounded.le⟩
  | write content =>
    obtain ⟨later, same⟩ := reception.intake.receiveBytes_arrivals content
    rw [Reception.perform, same]
    exact ⟨bounded.same, bounded.le⟩
  | close | cancel | abandon => exact ⟨bounded.same, bounded.le⟩
  | take count =>
    rw [Reception.perform]
    split
    · exact bounded
    · refine ⟨bounded.same, Nat.le_trans ?_ bounded.le⟩
      simp [Intake.take]
  | work =>
    cases worked : reception.work with
    | none => simpa [Reception.perform, worked] using bounded
    | some next =>
      obtain ⟨intake, stepped, rfl⟩ := Option.map_eq_some_iff.mp worked
      rw [Reception.perform, worked, Option.getD_some]
      obtain ⟨same, le⟩ := bounded
      cases (Intake.step_work stepped).2 with
      | puts held kept room =>
        refine ⟨same, ?_⟩
        simp only [List.length_append, List.length_singleton]
        omega
      | _ => exact ⟨same, le⟩

/-- The queue keeps within its bound along every run. -/
theorem Bounded.run (bounded : reception.Bounded capacity) (moves : List Move) :
    (reception.run moves).Bounded capacity := by
  induction moves generalizing reception with
  | nil => exact bounded
  | cons move rest inductionHypothesis => exact inductionHypothesis (bounded.perform move)

/-- An inbound side rests when it has finished, when its queue is full and it has a reply in hand,
or when it has searched and read all that there is. -/
theorem rests (untold : reception.cancelled = false) (kept : reception.abandoned = false)
    (rest : reception.work = none) :
    reception.intake.finished = true ∨
      (reception.intake.inHand.isSome ∧
        reception.intake.capacity ≤ reception.intake.queue.length) ∨
      (reception.intake.inHand = none ∧ reception.intake.searching = false ∧
        reception.intake.arrivals = [] ∧ reception.intake.closed = false) := by
  have still : reception.intake.step false false = none := by
    simpa [Reception.work, untold, kept] using rest
  rw [Intake.step] at still
  cases finished : reception.intake.finished with
  | true => exact .inl rfl
  | false =>
    simp only [finished, Bool.false_eq_true, if_false] at still
    cases held : reception.intake.inHand with
    | some reply =>
      simp only [held, Intake.offer, Bool.false_eq_true, if_false] at still
      refine .inr (.inl ⟨rfl, ?_⟩)
      split at still
      · cases still
      · next full => exact Nat.le_of_not_lt full
    | none =>
      simp only [held] at still
      cases searching : reception.intake.searching with
      | true => simp [searching] at still
      | false =>
        simp only [searching, Bool.false_eq_true, if_false, Intake.read] at still
        refine .inr (.inr ⟨rfl, rfl, ?_⟩)
        cases arrived : reception.intake.arrivals with
        | nil => simpa [arrived] using still
        | cons arrival later =>
          rw [arrived] at still
          split at still <;> simp_all

/-- At rest, an inbound side without a reply in hand has passed on every reply of what it has read,
and one with a reply in hand waits for a place in the queue. -/
theorem Accounts.at_rest (accounts : reception.Accounts limit)
    (bounded : reception.Bounded capacity) (untold : reception.cancelled = false)
    (kept : reception.abandoned = false)
    (rest : reception.work = none) :
    (reception.intake.inHand = none ∧
        reception.taken ++ reception.intake.queue = reception.replies limit) ∨
      (reception.intake.inHand.isSome ∧ reception.intake.queue.length = capacity) := by
  cases accounts with
  | working working =>
    rcases rests untold kept rest with finished | ⟨held, full⟩ | ⟨empty, searched, -, -⟩
    · exact absurd (working.active.symm.trans finished) Bool.false_ne_true
    · rw [bounded.same] at full
      exact .inr ⟨held, Nat.le_antisymm bounded.le full⟩
    · exact .inl ⟨empty, working.given_all (working.searched searched) empty⟩
  | complete _ empty _ whole => exact .inl ⟨empty, whole⟩
  | broken _ _ _ because => simp [untold, kept] at because

/-- A run in which something is done at every move: a piece of work, or a reply is taken. -/
inductive Busy : Reception → List Move → Prop where
  | done (reception : Reception) : Busy reception []
  | work {reception next : Reception} {rest : List Move} (worked : reception.work = some next)
      (later : Busy next rest) : Busy reception (.work :: rest)
  | take {reception : Reception} {count : Nat} {rest : List Move} (some : 0 < count)
      (waits : reception.intake.queue ≠ [])
      (later : Busy (reception.perform (.take count)) rest) : Busy reception (.take count :: rest)

/-- How much may be done before something arrives: what the inbound side has to do, with a place in
the queue for each reply, and what is to be taken from the queue. -/
def toil (reception : Reception) : Nat :=
  2 * reception.intake.toil + reception.intake.queue.length

/-- A piece of work makes it less. -/
theorem toil_work (worked : reception.work = some next) : next.toil < reception.toil := by
  obtain ⟨intake, stepped, rfl⟩ := Option.map_eq_some_iff.mp worked
  obtain ⟨active, work⟩ := Intake.step_work stepped
  obtain ⟨less, grown⟩ := work.toil_lt active
  simp only [toil]
  omega

/-- Taking a reply makes it less. -/
theorem toil_take (kept : reception.abandoned = false) {count : Nat} (some : 0 < count)
    (waits : reception.intake.queue ≠ []) :
    (reception.perform (.take count)).toil < reception.toil := by
  have waiting := List.length_pos_iff.mpr waits
  have left : (reception.perform (.take count)).intake =
      { reception.intake with queue := reception.intake.queue.drop count } := by
    simp [perform, kept, Intake.take]
  simp only [toil, left, Intake.toil, List.length_drop]
  omega

/-- While nobody has told it to stop, a piece of work changes nothing in what is read up to the end
of the stream or a failure. -/
theorem onward_work (untold : reception.cancelled = false) (kept : reception.abandoned = false)
    (worked : reception.work = some next) :
    Arrival.stops next.onward = Arrival.stops reception.onward ∧
      Arrival.pieces next.onward = Arrival.pieces reception.onward := by
  obtain ⟨intake, stepped, rfl⟩ := Option.map_eq_some_iff.mp worked
  obtain ⟨active, work⟩ := Intake.step_work stepped
  cases work with
  | drops held abandoned => exact absurd (kept.symm.trans abandoned) Bool.false_ne_true
  | stops empty told => exact absurd (untold.symm.trans told) Bool.false_ne_true
  | puts held => simp [onward, Intake.reading?_of_held held]
  | finds _ searching | skips _ searching | runsOut _ _ searching =>
    simp [onward, Intake.reading?_of_searching searching]
  | reads empty arrived _ searched | fails empty arrived searched =>
    simp [onward, Intake.reading?_of_idle active empty searched untold, arrived]
  | ends empty exhausted searched =>
    rcases exhausted with arrived | ⟨arrived, rfl, closed⟩
    · simp [onward, Intake.reading?_of_idle active empty searched untold, arrived]
    · have stopped : Arrival.stops (reception.read ++ [.bytes []]) = true := by
        simp [Arrival.stops, Arrival.isPiece]
      have before : reception.onward = reception.read ++ [.bytes []] := by
        simp [onward, arrived, closed]
      have last : reception.intake.reading? reception.cancelled = some (.bytes []) := by
        rw [Intake.reading?_of_idle active empty searched untold, arrived, if_pos closed]
      rw [before]
      simp only [onward, last, Option.toList_some, closed, if_true, List.append_nil]
      exact ⟨by rw [Arrival.stops_append, stopped, Bool.true_or],
        Arrival.pieces_append_of_stops stopped _⟩

/-- A busy run from an inbound side that nobody tells to stop: the account is kept, the run is not
longer than there was something to do, and it reads on in the same stream. -/
theorem Busy.onward (accounts : reception.Accounts limit) (untold : reception.cancelled = false)
    (kept : reception.abandoned = false) {moves : List Move} (busy : reception.Busy moves) :
    let later := reception.run moves
    later.Accounts limit ∧ later.cancelled = false ∧ later.abandoned = false ∧
      moves.length + later.toil ≤ reception.toil ∧
      Arrival.stops later.onward = Arrival.stops reception.onward ∧
      Arrival.pieces later.onward = Arrival.pieces reception.onward := by
  intro later
  induction busy with
  | done reception => exact ⟨accounts, untold, kept, Nat.le_of_eq (Nat.zero_add _), rfl, rfl⟩
  | @work reception next rest worked busy inductionHypothesis =>
    have moved : reception.perform .work = next := by simp [perform, worked]
    have flags : next.cancelled = false ∧ next.abandoned = false := by
      obtain ⟨intake, -, rfl⟩ := Option.map_eq_some_iff.mp worked
      exact ⟨untold, kept⟩
    obtain ⟨stops, pieces⟩ := onward_work untold kept worked
    have less := toil_work worked
    obtain ⟨accounts, untold, kept, short, stopsLater, piecesLater⟩ :=
      inductionHypothesis (accounts.work worked) flags.1 flags.2
    simp only [later, run, moved, List.length_cons]
    exact ⟨accounts, untold, kept, by omega, stopsLater.trans stops, piecesLater.trans pieces⟩
  | @take reception count rest some waits busy inductionHypothesis =>
    have less := toil_take kept some waits
    have same : reception.perform (.take count) = { reception with
        intake := (reception.intake.take count).2
        taken := reception.taken ++ (reception.intake.take count).1 } := by
      simp [perform, kept]
    obtain ⟨accounts, untold, kept, short, stopsLater, piecesLater⟩ :=
      inductionHypothesis (accounts.perform _) (by rwa [same]) (by rwa [same])
    have stays : (reception.perform (.take count)).onward = reception.onward := by
      rw [same]
      rfl
    rw [stays] at stopsLater piecesLater
    simp only [later, run, List.length_cons]
    exact ⟨accounts, untold, kept, by omega, stopsLater, piecesLater⟩

/-- Where the stream ends or fails in what there is to read, an inbound side that rests with an
empty queue has finished, and every reply of the stream has been taken. -/
theorem Accounts.delivered (accounts : reception.Accounts limit) (room : 0 < capacity)
    (bounded : reception.Bounded capacity) (untold : reception.cancelled = false)
    (kept : reception.abandoned = false) (stops : Arrival.stops reception.onward = true)
    (rest : reception.work = none) (taken : reception.intake.queue = []) :
    reception.intake.finished = true ∧
      reception.taken = Reply.ofFrames (Splitter.framesOf limit reception.onward) := by
  cases accounts with
  | working working =>
    rcases rests untold kept rest with finished | ⟨held, full⟩ | ⟨empty, searched, arrived, closed⟩
    · exact absurd (working.active.symm.trans finished) Bool.false_ne_true
    · rw [bounded.same, taken, List.length_nil] at full
      exact absurd room (Nat.not_lt.mpr full)
    · -- Everything has been read, and it was no end of a stream.
      have goesOn := working.unfinished.trans (working.unended_of_searched searched)
      have whole : reception.onward = reception.read := by simp [Reception.onward, arrived, closed]
      rw [whole, goesOn] at stops
      cases stops
  | complete finished empty stopped whole =>
    refine ⟨finished, ?_⟩
    rw [taken, List.append_nil] at whole
    rw [whole, replies, Splitter.framesOf_eq, Splitter.framesOf_eq, Reception.onward,
      List.append_assoc, Arrival.pieces_append_of_stops stopped]
  | broken _ _ _ because => simp [untold, kept] at because

/-- The bytes that a run lets arrive. -/
def brought (moves : List Move) : Bytes :=
  moves.flatMap fun
    | .arrive arrivals => Arrival.contents arrivals
    | .write content => content
    | _ => []

/-- What has been read is the beginning of what has arrived, and before the inbound side finishes
the rest waits to be read. -/
structure Reads (bytes : Bytes) (reception : Reception) : Prop where
  begun : Arrival.contents reception.read <+: bytes
  whole : reception.intake.finished = false →
    Arrival.contents (reception.read ++ reception.intake.arrivals) = bytes

variable {bytes : Bytes}

/-- At first nothing has arrived. -/
theorem reads_start (limit capacity : Nat) : (start limit capacity).Reads [] :=
  ⟨List.nil_prefix, fun _ => rfl⟩

/-- What arrives behind the end of the work is not read. -/
theorem Reads.after (reads : reception.Reads bytes) (finished : reception.intake.finished = true)
    (more : Bytes) : reception.Reads (bytes ++ more) where
  begun := reads.begun.trans (List.prefix_append _ _)
  whole active := absurd (active.symm.trans finished) Bool.false_ne_true

/-- What arrives before waits behind the rest. -/
theorem Reads.arrive (reads : reception.Reads bytes) {arrivals : List Arrival} {more : Bytes}
    (joins : Arrival.contents arrivals = Arrival.contents reception.intake.arrivals ++ more) :
    { reception with intake := { reception.intake with arrivals } }.Reads (bytes ++ more) where
  begun := reads.begun.trans (List.prefix_append _ _)
  whole active := by
    have whole := reads.whole active
    rw [Arrival.contents_append] at whole ⊢
    rw [joins, ← List.append_assoc, whole]

/-- A piece of work reads the first of what waits, or nothing. -/
theorem Reads.work (reads : reception.Reads bytes) (worked : reception.work = some next) :
    next.Reads bytes := by
  obtain ⟨intake, stepped, rfl⟩ := Option.map_eq_some_iff.mp worked
  obtain ⟨active, work⟩ := Intake.step_work stepped
  have whole := reads.whole active
  suffices same : Arrival.contents (reception.read ++
      (reception.intake.reading? reception.cancelled).toList ++ intake.arrivals) = bytes by
    refine ⟨?_, fun _ => same⟩
    rw [Arrival.contents_append] at same
    exact ⟨_, same⟩
  cases work with
  | drops held | puts held => simpa [Intake.reading?_of_held held] using whole
  | stops _ told => simpa [Intake.reading?_of_told told] using whole
  | finds _ searching | skips _ searching | runsOut _ _ searching =>
    simpa [Intake.reading?_of_searching searching] using whole
  | reads empty arrived _ searched untold | fails empty arrived searched untold =>
    simpa [Intake.reading?_of_idle active empty searched untold, arrived] using whole
  | ends empty exhausted searched untold =>
    rcases exhausted with arrived | ⟨arrived, rfl, closed⟩
    · simpa [Intake.reading?_of_idle active empty searched untold, arrived] using whole
    · have nothing : Arrival.contents [.bytes []] = [] := rfl
      rw [arrived, List.append_nil] at whole
      simp [Intake.reading?_of_idle active empty searched untold, arrived, closed,
        Arrival.contents_append, whole, nothing]

/-- After a move, what has been read is of what had arrived before and what the move brings. -/
theorem Reads.perform (reads : reception.Reads bytes) (move : Move) :
    (reception.perform move).Reads (bytes ++ brought [move]) := by
  have still : (reception.perform move).Reads bytes →
      (reception.perform move).Reads (bytes ++ []) := by
    rw [List.append_nil]
    exact id
  cases move with
  | arrive arrivals =>
    have brings : brought [.arrive arrivals] = Arrival.contents arrivals := by simp [brought]
    rw [brings, Reception.perform, Intake.receive]
    split
    · next finished => exact reads.after finished _
    · exact reads.arrive (Arrival.contents_append _ _)
  | write content =>
    have brings : brought [.write content] = content := by simp [brought]
    rw [brings, Reception.perform]
    by_cases finished : reception.intake.finished = true
    · rw [Intake.receiveBytes, if_pos (.inl finished)]
      exact reads.after finished content
    · obtain ⟨later, same, joins⟩ := Intake.receiveBytes_contents finished content
      rw [same]
      exact reads.arrive joins
  | close | cancel | abandon => exact still ⟨reads.begun, reads.whole⟩
  | take count =>
    refine still ?_
    rw [Reception.perform]
    split
    · exact reads
    · exact ⟨reads.begun, reads.whole⟩
  | work =>
    refine still ?_
    cases worked : reception.work with
    | none => simpa [Reception.perform, worked] using reads
    | some next => simpa [Reception.perform, worked] using reads.work worked

/-- Along every run, what is read is what has arrived. -/
theorem Reads.run (reads : reception.Reads bytes) (moves : List Move) :
    (reception.run moves).Reads (bytes ++ brought moves) := by
  induction moves generalizing reception bytes with
  | nil => simpa [Reception.run, brought] using reads
  | cons move rest inductionHypothesis =>
    have later := inductionHypothesis (reads.perform move)
    have joins : brought (move :: rest) = brought [move] ++ brought rest := by simp [brought]
    rwa [List.append_assoc, ← joins] at later

/-- Replies are neither lost nor repeated nor put out of order, however the stream arrives, whatever
room the queue has, and whenever replies are taken from it.

After every run, what has been read is the beginning of what has arrived, and the replies taken,
those in the queue and the one in hand are the first ones of the replies that were read. At rest,
unless the inbound side has been told to stop or replies are no longer taken, they are all of them,
or the queue is full and one more reply waits in hand. Once the end of the stream or a failure has
been read they are all of them without one in hand. And where there is an end or a failure to be
read, the work and the taking of replies come to an end, and then the inbound side has finished
and all the replies before the end have been taken. -/
theorem conveys_replies (limit capacity : Nat) (room : 0 < capacity) (moves : List Move) :
    let reception := (start limit capacity).run moves
    let replies := reception.replies limit
    Arrival.contents reception.read <+: brought moves ∧
      reception.taken ++ reception.intake.queue ++ reception.intake.inHand.toList <+: replies ∧
      reception.intake.queue.length ≤ capacity ∧
      (Arrival.stops reception.read = true →
        reception.intake.inHand = none ∧ reception.taken ++ reception.intake.queue = replies) ∧
      (reception.cancelled = false → reception.abandoned = false →
        (reception.work = none →
          reception.intake.inHand = none ∧ reception.taken ++ reception.intake.queue = replies ∨
          reception.intake.inHand.isSome ∧ reception.intake.queue.length = capacity) ∧
        (Arrival.stops reception.onward = true → ∀ further, reception.Busy further →
          let later := reception.run further
          further.length ≤ reception.toil ∧
            (later.work = none → later.intake.queue = [] → later.intake.finished = true ∧
              later.taken = Reply.ofFrames (Splitter.framesOf limit reception.onward)))) := by
  intro reception replies
  have accounts : reception.Accounts limit := (Accounts.start limit capacity).run moves
  have bounded : reception.Bounded capacity := (bounded_start limit capacity).run moves
  have reads : reception.Reads (brought moves) := (reads_start limit capacity).run moves
  refine ⟨reads.begun, accounts.given.1, bounded.le, accounts.given.2, fun untold kept => ⟨?_, ?_⟩⟩
  · intro rest
    exact accounts.at_rest bounded untold kept rest
  · intro stops further busy later
    obtain ⟨accounts, untold, kept, short, stopsLater, pieces⟩ := busy.onward accounts untold kept
    refine ⟨Nat.le_trans (Nat.le_add_right _ _) short, ?_⟩
    intro rest taken
    obtain ⟨finished, whole⟩ := accounts.delivered room (bounded.run further) untold kept
      (stopsLater.trans stops) rest taken
    refine ⟨finished, whole.trans ?_⟩
    rw [Splitter.framesOf_eq, Splitter.framesOf_eq, pieces]

/-- Two replies and the beginning of a third arrive before a failure, at a queue with room for
one. -/
def heldUp : List Move :=
  .arrive [.bytes [0, 97], .bytes [0, 4], .failure] :: List.replicate 7 .work

/-- The replies are taken, and between them the inbound side comes to the failure. -/
def takenUp : List Move :=
  [.take 1, .work, .work, .work, .take 1]

/-- With one reply in the queue and one in hand, nothing is read. Once the queue has room the
failure is read, and both replies have been given by then. -/
theorem conveys_replies_before_failure :
    let reception := (start 8 1).run heldUp
    let later := reception.run takenUp
    0 < 1 ∧ reception.cancelled = false ∧ reception.abandoned = false ∧ reception.work = none ∧
      Arrival.stops reception.onward = true ∧ reception.Busy takenUp ∧ later.work = none ∧
      reception.intake.inHand.isSome ∧ reception.intake.queue.length = 1 ∧
      later.intake.finished = true ∧ later.taken = [.ok, .expanded ['a']] := by
  intro reception later
  have rest : reception.work = none := by decide
  have stops : Arrival.stops reception.onward = true := by decide
  have busy : reception.Busy takenUp :=
    .take (by decide) (by decide) (.work rfl (.work rfl (.work rfl
      (.take (by decide) (by decide) (.done _)))))
  have last : later.work = none := by decide
  obtain ⟨-, -, -, -, onward⟩ := conveys_replies 8 1 Nat.one_pos heldUp
  obtain ⟨resting, delivering⟩ := onward rfl rfl
  obtain ⟨held, full⟩ : reception.intake.inHand.isSome ∧ reception.intake.queue.length = 1 :=
    (resting rest).resolve_left (by decide)
  obtain ⟨finished, taken⟩ := (delivering stops takenUp busy).2 last (by decide)
  refine ⟨Nat.one_pos, rfl, rfl, rest, stops, busy, last, held, full, finished, taken.trans ?_⟩
  decide

end Reception

end Typeahead
