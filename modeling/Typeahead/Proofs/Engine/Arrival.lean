import Typeahead.Proofs.Engine.Splitting

/-!
# Streams that arrive in pieces

The reader of a stream appends what arrives to a buffer and looks for frames whenever
it likes. `run` is such a history of `Turn`s, and `receive` ends it by looking until no
frame is complete. The frames taken are those of the whole stream, `Framing.ofStream`,
except that a frame that outgrew the limit before its terminator came may be missing;
`Thinned` says so frame by frame. What stays in the buffer is the undecided end of the
stream, unless that has outgrown the limit too.

The invariant `Tracks` relates splitter and buffer to all bytes that have arrived. It
names the frames that have been passed, taken or not, and the bytes already dropped of
a frame being given up; the stream then splits into the former and whatever follows
from the latter, and this for every continuation of the stream.
-/

namespace Typeahead

/-- A complete text or tagged frame with more than `limit` bytes before its terminator. -/
def Oversized (limit : Nat) (frame : Bytes) : Prop :=
  ∃ started, Unfinished started ∧ frame = started ++ [terminator] ∧ limit + 1 < frame.length

/-- The first list is the second one without some of its oversized frames. -/
inductive Thinned (limit : Nat) : List Bytes → List Bytes → Prop where
  | nil : Thinned limit [] []
  | kept (frame : Bytes) {taken frames : List Bytes} :
      Thinned limit taken frames → Thinned limit (frame :: taken) (frame :: frames)
  | missing (frame : Bytes) {taken frames : List Bytes} (oversized : Oversized limit frame) :
      Thinned limit taken frames → Thinned limit taken (frame :: frames)

namespace Thinned

variable {limit : Nat}

/-- Leaving out frames keeps the order of the others. -/
theorem sublist {taken frames : List Bytes} (thinned : Thinned limit taken frames) :
    taken.Sublist frames := by
  induction thinned with
  | nil => exact .slnil
  | kept frame _ inductionHypothesis => exact inductionHypothesis.cons_cons frame
  | missing frame _ _ inductionHypothesis => exact inductionHypothesis.cons frame

/-- Without an oversized frame there is nothing to leave out. -/
theorem eq_of_none_oversized {taken frames : List Bytes} (thinned : Thinned limit taken frames)
    (none : ∀ frame ∈ frames, ¬ Oversized limit frame) : taken = frames := by
  induction thinned with
  | nil => rfl
  | kept frame _ inductionHypothesis =>
    rw [inductionHypothesis fun later member => none later (List.mem_cons_of_mem _ member)]
  | missing frame oversized _ _ => exact absurd oversized (none frame List.mem_cons_self)

/-- Thinning one list after another thins both. -/
theorem append {taken frames moreTaken moreFrames : List Bytes}
    (thinned : Thinned limit taken frames) (more : Thinned limit moreTaken moreFrames) :
    Thinned limit (taken ++ moreTaken) (frames ++ moreFrames) := by
  induction thinned with
  | nil => exact more
  | kept frame _ inductionHypothesis => exact .kept frame inductionHypothesis
  | missing frame oversized _ inductionHypothesis => exact .missing frame oversized inductionHypothesis

end Thinned

namespace Splitter

/-- What the reader of a stream does next. -/
inductive Turn where
  /-- The next piece of the stream joins the buffer. -/
  | arrive (piece : Bytes)
  /-- The splitter looks at the buffer once. -/
  | look
deriving Repr, DecidableEq

/-- The bytes that arrive, whatever is done between them. -/
def Turn.arrived : List Turn → Bytes
  | [] => []
  | .arrive piece :: rest => piece ++ arrived rest
  | .look :: rest => arrived rest

/-- The frames taken in these turns, and the splitter and the buffer after them. -/
def run : List Turn → Splitter → Bytes → List Bytes × Splitter × Bytes
  | [], splitter, buffer => ([], splitter, buffer)
  | .arrive piece :: rest, splitter, buffer => run rest splitter (buffer ++ piece)
  | .look :: rest, splitter, buffer =>
    let cut := splitter.next buffer
    let (frames, splitter, buffer) := run rest cut.splitter cut.rest
    (cut.frame.toList ++ frames, splitter, buffer)

/-- The frames taken in these turns from the start of a stream, with looks at the end until
nothing is complete, and what stays in the buffer. -/
def receive (limit : Nat) (turns : List Turn) : List Bytes × Bytes :=
  let (early, splitter, buffer) := run turns (ofLimit limit) []
  let (late, _, rest) := drain next splitter buffer
  (early ++ late, rest)

/-- Splitter and buffer fit the bytes `fed` so far and the frames `taken` from them. `passed`
are the frames behind which the splitter stands; `lost` are the bytes dropped of a frame
that is being given up. -/
structure Tracks (limit : Nat) (fed : Bytes) (taken : List Bytes) (splitter : Splitter)
    (buffer : Bytes) (passed : List Bytes) (lost : Bytes) : Prop where
  sameLimit : splitter.limit = limit
  coherent : splitter.Coherent buffer
  thinned : Thinned limit taken passed
  whole : splitter.discarding = false → lost = []
  inside : splitter.discarding = true → Unfinished lost ∧ limit < lost.length
  split : ∀ more, Framing.ofStream (fed ++ more) =
    (Framing.ofStream (lost ++ buffer ++ more)).prepend passed

/-- Nothing in the buffer is complete, and what has outgrown the limit is gone. -/
structure Settled (limit : Nat) (lost rest : Bytes) : Prop where
  undecided : Framing.ofStream (lost ++ rest) = ⟨[], lost ++ rest⟩
  dropped : Unfinished (lost ++ rest) ∧ limit < (lost ++ rest).length → rest = []
  kept : ¬ (Unfinished (lost ++ rest) ∧ limit < (lost ++ rest).length) → lost = []

variable {limit : Nat} {fed : Bytes} {taken passed : List Bytes} {splitter : Splitter}
  {buffer lost : Bytes}

/-- At the start of a stream nothing has been passed. -/
theorem Tracks.start (limit : Nat) : Tracks limit [] [] (ofLimit limit) [] [] [] where
  sameLimit := rfl
  coherent := .of_unsearched _ _ rfl
  thinned := .nil
  whole _ := rfl
  inside discarding := absurd discarding (by simp [ofLimit])
  split _ := rfl

/-- A piece that arrives continues the stream and the buffer alike. -/
theorem Tracks.arrive (tracks : Tracks limit fed taken splitter buffer passed lost) (piece : Bytes) :
    Tracks limit (fed ++ piece) taken splitter (buffer ++ piece) passed lost where
  sameLimit := tracks.sameLimit
  coherent := tracks.coherent.append piece
  thinned := tracks.thinned
  whole := tracks.whole
  inside := tracks.inside
  split more := by
    simpa only [List.append_assoc] using tracks.split (piece ++ more)

/-- The outcome of a look: the frame found is taken, nothing is left undecided without need,
and a frame found makes the buffer shorter. -/
def Looked (limit : Nat) (fed : Bytes) (taken : List Bytes) (buffer : Bytes) (cut : Cut) : Prop :=
  ∃ passed lost,
    Tracks limit fed (taken ++ cut.frame.toList) cut.splitter cut.rest passed lost ∧
      (cut.frame = none → Settled limit lost cut.rest) ∧
      (cut.frame ≠ none → cut.rest.length < buffer.length)

/-- A look outside a frame being given up, case by case of what it found. -/
theorem Tracks.look_whole (tracks : Tracks limit fed taken splitter buffer passed lost)
    (active : splitter.discarding = false) :
    Looked limit fed taken buffer (splitter.cutFrame buffer) := by
  have noLoss : lost = [] := tracks.whole active
  subst noLoss
  have found : splitter.Found buffer (splitter.cutFrame buffer) :=
    cutFrame_found splitter buffer active tracks.coherent
  generalize splitter.cutFrame buffer = cut at found ⊢
  cases found with
  | frame frame rest shorter split =>
    refine ⟨passed ++ [frame], [], ⟨tracks.sameLimit, .of_unsearched _ _ rfl,
      tracks.thinned.append (.kept frame .nil), fun _ => rfl, ?_, ?_⟩, by simp, fun _ => shorter⟩
    · intro discarding
      exact absurd (active.symm.trans discarding) (by decide)
    · intro more
      rw [tracks.split more, List.nil_append, split more, Framing.prepend_prepend]
      rfl
  | waiting scanned rest split undecided kept coherent =>
    refine ⟨passed, [], ⟨tracks.sameLimit, coherent, ?_, fun _ => rfl, ?_, ?_⟩, ?_, by simp⟩
    · simpa using tracks.thinned
    · intro discarding
      exact absurd (active.symm.trans discarding) (by decide)
    · intro more
      rw [tracks.split more, List.nil_append, split more]
      rfl
    · intro _
      rw [tracks.sameLimit] at kept
      exact ⟨undecided, fun both => absurd both kept, fun _ => rfl⟩
  | givenUp lost unfinished overlong split =>
    rw [tracks.sameLimit] at overlong
    refine ⟨passed, lost, ⟨tracks.sameLimit, .of_unsearched _ _ rfl, ?_, ?_, ?_, ?_⟩, ?_, by simp⟩
    · simpa using tracks.thinned
    · intro active
      exact absurd active (by simp)
    · exact fun _ => ⟨unfinished, overlong⟩
    · intro more
      rw [tracks.split more, List.nil_append, split more, List.append_nil]
    · intro _
      refine ⟨?_, fun _ => rfl, fun kept => absurd ?_ kept⟩
      · rw [List.append_nil]
        exact Framing.ofStream_unfinished lost unfinished
      · rw [List.append_nil]
        exact ⟨unfinished, overlong⟩

/-- The terminator of a frame being given up ends it: the whole frame has been passed, and it
is oversized, since the bytes lost before were more than the limit already. -/
theorem Tracks.resume {before rest : Bytes}
    (tracks : Tracks limit fed taken splitter (before ++ terminator :: rest) passed lost)
    (discarding : splitter.discarding = true) (clear : terminator ∉ before) :
    Tracks limit fed taken { splitter with discarding := false } rest
      (passed ++ [lost ++ before ++ [terminator]]) [] := by
  obtain ⟨unfinished, overlong⟩ := tracks.inside discarding
  have started : Unfinished (lost ++ before) := unfinished.append before clear
  have oversized : Oversized limit (lost ++ before ++ [terminator]) := by
    refine ⟨lost ++ before, started, rfl, ?_⟩
    simp only [List.length_append, List.length_singleton]
    omega
  have unsearched := tracks.coherent.unsearched_of_discarding discarding
  refine ⟨tracks.sameLimit, .of_unsearched _ _ unsearched, ?_, fun _ => rfl, ?_, ?_⟩
  · simpa using tracks.thinned.append (.missing _ oversized .nil)
  · intro impossible
    exact absurd impossible Bool.false_ne_true
  · intro more
    rw [tracks.split more]
    simp only [← List.append_assoc]
    rw [List.append_assoc _ _ more, List.cons_append, Framing.ofStream_finished _ _ started,
      Framing.prepend_prepend, List.append_assoc]
    rfl

/-- Every look keeps the invariant. While a frame is being given up, the look first goes behind
its terminator, if there is one, and is then like any other. -/
theorem Tracks.look (tracks : Tracks limit fed taken splitter buffer passed lost) :
    Looked limit fed taken buffer (splitter.next buffer) := by
  cases discarding : splitter.discarding with
  | false =>
    rw [next_active buffer discarding]
    exact tracks.look_whole discarding
  | true =>
    by_cases present : terminator ∈ buffer
    · obtain ⟨before, rest, rfl, clear⟩ := List.eq_append_cons_of_mem present
      obtain ⟨passed, lost, after, settled, shorter⟩ :=
        (tracks.resume discarding clear).look_whole rfl
      rw [next_behind rest discarding clear, next_active rest rfl]
      refine ⟨passed, lost, after, settled, fun found => ?_⟩
      have := shorter found
      simp only [List.length_append, List.length_cons]
      omega
    · obtain ⟨unfinished, overlong⟩ := tracks.inside discarding
      have further : Unfinished (lost ++ buffer) := unfinished.append buffer present
      have longer : limit < (lost ++ buffer).length := by
        rw [List.length_append]
        omega
      rw [next_inside discarding present]
      refine ⟨passed, lost ++ buffer, ⟨tracks.sameLimit,
        .of_unsearched _ _ (tracks.coherent.unsearched_of_discarding discarding),
        ?_, ?_, ?_, ?_⟩, ?_, by simp⟩
      · simpa using tracks.thinned
      · intro active
        exact absurd (active.symm.trans discarding) (by decide)
      · exact fun _ => ⟨further, longer⟩
      · intro more
        rw [tracks.split more, List.append_nil]
      · intro _
        rw [← List.append_nil (lost ++ buffer)] at further longer
        exact ⟨by simpa using Framing.ofStream_unfinished _ further, fun _ => rfl,
          fun kept => absurd ⟨further, longer⟩ kept⟩

/-- With enough looks the buffer is settled, since each frame found makes it shorter. -/
theorem Tracks.take (most : Nat)
    (tracks : Tracks limit fed taken splitter buffer passed lost) (enough : buffer.length < most) :
    ∃ passed lost, let (frames, after, rest) := Splitter.take next most splitter buffer
      Tracks limit fed (taken ++ frames) after rest passed lost ∧ Settled limit lost rest := by
  induction most generalizing taken splitter buffer passed lost with
  | zero => exact absurd enough (Nat.not_lt_zero _)
  | succ most inductionHypothesis =>
    obtain ⟨passedOn, lostOn, after, settled, shorter⟩ := tracks.look
    cases found : (splitter.next buffer).frame with
    | none =>
      simp only [Splitter.take, found]
      rw [found] at after
      exact ⟨passedOn, lostOn, after, settled found⟩
    | some frame =>
      have smaller := shorter (by simp [found])
      obtain ⟨passedAll, lostAll, last, done⟩ := inductionHypothesis after (by omega)
      simp only [Splitter.take, found]
      refine ⟨passedAll, lostAll, ?_, done⟩
      simpa [found] using last

/-- Looking until nothing is complete settles the buffer. -/
theorem Tracks.drain (tracks : Tracks limit fed taken splitter buffer passed lost) :
    ∃ passed lost, let (frames, after, rest) := Splitter.drain next splitter buffer
      Tracks limit fed (taken ++ frames) after rest passed lost ∧ Settled limit lost rest :=
  tracks.take (buffer.length + 1) (Nat.lt_succ_self _)

/-- Every history of arrivals and looks keeps the invariant. -/
theorem Tracks.run (turns : List Turn)
    (tracks : Tracks limit fed taken splitter buffer passed lost) :
    ∃ passed lost, let (frames, after, rest) := Splitter.run turns splitter buffer
      Tracks limit (fed ++ Turn.arrived turns) (taken ++ frames) after rest passed lost := by
  induction turns generalizing fed taken splitter buffer passed lost with
  | nil => exact ⟨passed, lost, by simpa [Turn.arrived, Splitter.run] using tracks⟩
  | cons turn rest inductionHypothesis =>
    cases turn with
    | arrive piece =>
      simpa [Turn.arrived, Splitter.run] using inductionHypothesis (tracks.arrive piece)
    | look =>
      obtain ⟨passedOn, lostOn, after, _⟩ := tracks.look
      simpa [Turn.arrived, Splitter.run] using inductionHypothesis after

/-- However a stream arrives and whenever the splitter looks, the frames taken are those of the
whole stream without some of its oversized frames, in order; without an oversized frame they are
all of them. What stays in the buffer is the undecided end of the stream, unless that is a text
or tagged frame longer than the limit, of which nothing stays.

The history keeps `Tracks`, and the looks at the end settle the buffer. There the stream ends, so
the frames passed are all of its frames, and the bytes lost and left are its undecided end. -/
theorem receive_splits_stream (limit : Nat) (turns : List Turn) :
    let whole := Framing.ofStream (Turn.arrived turns)
    let (taken, rest) := receive limit turns
    taken.Sublist whole.frames ∧
      Thinned limit taken whole.frames ∧
      ((∀ frame ∈ whole.frames, ¬ Oversized limit frame) → taken = whole.frames) ∧
      (Unfinished whole.tail ∧ limit < whole.tail.length → rest = []) ∧
      (¬ (Unfinished whole.tail ∧ limit < whole.tail.length) → rest = whole.tail) := by
  obtain ⟨passed, lost, running⟩ := (Tracks.start limit).run turns
  obtain ⟨passed, lost, tracks, settled⟩ := running.drain
  have ended : Framing.ofStream (Turn.arrived turns) =
      ⟨passed, lost ++ (receive limit turns).2⟩ := by
    have atEnd := tracks.split []
    rw [List.append_nil, List.append_nil, settled.undecided, Framing.prepend,
      List.append_nil] at atEnd
    exact atEnd
  have thinned : Thinned limit (receive limit turns).1 passed := tracks.thinned
  simp only [ended]
  refine ⟨thinned.sublist, thinned, thinned.eq_of_none_oversized, settled.dropped, fun kept => ?_⟩
  rw [settled.kept kept]
  rfl

/-- A text that outgrows the limit is given up, and the frame behind it is found. -/
example : receive 1 [.arrive [65, 66], .look, .arrive [67, 0, 5]] = ([[5]], []) := by decide

end Splitter

end Typeahead
