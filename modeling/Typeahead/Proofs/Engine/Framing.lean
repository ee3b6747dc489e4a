import Typeahead.Engine.Splitter

/-!
# The frames of a whole stream

`Framing.ofStream` reads the frame table off a byte string that lies there as a
whole: it gives the complete frames in order and the undecided bytes behind them. It
keeps no state and knows no limit, so it says what a splitter has to find, however
the bytes reach it.

A text or tagged frame before its terminator is `Unfinished`. The equations from
`ofStream_noise` to `ofStream_unfinished` follow the rows of the table, each for a
frame at the head of any stream; later proofs use them and never the definition.
-/

namespace Typeahead

/-- Whether a frame with this lead runs through a terminator. -/
def Lead.runsOn : Lead → Bool
  | .tagged => true
  | .text => true
  | _ => false

/-- No frame that runs on begins with noise. -/
theorem Lead.not_noise_of_runsOn {lead : Lead} (runsOn : lead.runsOn = true) : lead ≠ .noise := by
  rintro rfl
  cases runsOn

/-- The beginning of a text or tagged frame whose terminator has not come. -/
def Unfinished (bytes : Bytes) : Prop :=
  ∃ lead body, bytes = lead :: body ∧ (Lead.ofByte lead).runsOn = true ∧ terminator ∉ body

/-- What a stream holds: its complete frames, and bytes that may still become one. -/
structure Framing where
  frames : List Bytes
  tail : Bytes
deriving Repr, DecidableEq

namespace Framing

/-- The same stream with these frames before it. -/
def prepend (frames : List Bytes) (framing : Framing) : Framing :=
  { framing with frames := frames ++ framing.frames }

/-- The bytes through the first terminator. -/
def throughTerminator (bytes : Bytes) : Bytes :=
  bytes.takeWhile (· ≠ terminator) ++ [terminator]

/-- The bytes behind the first terminator. -/
def afterTerminator (bytes : Bytes) : Bytes :=
  (bytes.dropWhile (· ≠ terminator)).tail

/-- Looking for a terminator gives no bytes back. -/
theorem afterTerminator_length (bytes : Bytes) : (afterTerminator bytes).length ≤ bytes.length :=
  ((List.tail_suffix _).trans (List.dropWhile_suffix _)).length_le

/-- Read the frame table off a whole stream. -/
def ofStream : Bytes → Framing
  | [] => ⟨[], []⟩
  | lead :: body =>
    match Lead.ofByte lead with
    | .noise => ofStream body
    | .single => (ofStream body).prepend [[lead]]
    | .pair =>
      match body with
      | [] => ⟨[], [lead]⟩
      | second :: rest => (ofStream rest).prepend [[lead, second]]
    | .tagged | .text =>
      if terminator ∈ body then
        (ofStream (afterTerminator body)).prepend [lead :: throughTerminator body]
      else ⟨[], lead :: body⟩
termination_by stream => stream.length
decreasing_by
  all_goals simp only [List.length_cons]
  all_goals try omega
  all_goals exact Nat.lt_succ_of_le (afterTerminator_length body)

@[simp] theorem prepend_nil (framing : Framing) : framing.prepend [] = framing := rfl

@[simp] theorem prepend_prepend (first second : List Bytes) (framing : Framing) :
    (framing.prepend second).prepend first = framing.prepend (first ++ second) := by
  simp [prepend]

/-- Noise in front of a stream is no part of any frame. -/
theorem ofStream_noise (noise stream : Bytes)
    (dropped : ∀ byte ∈ noise, Lead.ofByte byte = .noise) :
    ofStream (noise ++ stream) = ofStream stream := by
  induction noise with
  | nil => rfl
  | cons byte rest inductionHypothesis =>
    rw [List.cons_append, ofStream.eq_def]
    simp only [dropped byte List.mem_cons_self]
    exact inductionHypothesis fun later member => dropped later (List.mem_cons_of_mem _ member)

/-- A byte that is a whole frame. -/
theorem ofStream_single (lead : UInt8) (stream : Bytes) (single : Lead.ofByte lead = .single) :
    ofStream (lead :: stream) = (ofStream stream).prepend [[lead]] := by
  rw [ofStream.eq_def]
  simp only [single]

/-- A frame of two bytes, whatever the second one is. -/
theorem ofStream_pair (lead second : UInt8) (stream : Bytes) (pair : Lead.ofByte lead = .pair) :
    ofStream (lead :: second :: stream) = (ofStream stream).prepend [[lead, second]] := by
  rw [ofStream.eq_def]
  simp only [pair]

/-- A frame of two bytes waits for the second one. -/
theorem ofStream_half_pair (lead : UInt8) (pair : Lead.ofByte lead = .pair) :
    ofStream [lead] = ⟨[], [lead]⟩ := by
  rw [ofStream.eq_def]
  simp only [pair]

/-- A text or tagged frame goes through the first terminator behind its lead. -/
theorem ofStream_finished (started stream : Bytes) (unfinished : Unfinished started) :
    ofStream (started ++ terminator :: stream) =
      (ofStream stream).prepend [started ++ [terminator]] := by
  obtain ⟨lead, body, rfl, runsOn, absent⟩ := unfinished
  have clear : ∀ byte ∈ body, decide (byte ≠ terminator) = true := by
    intro byte member
    simpa using fun same : byte = terminator => absent (same ▸ member)
  have through : throughTerminator (body ++ terminator :: stream) = body ++ [terminator] := by
    rw [throughTerminator, List.takeWhile_append_of_pos clear]
    simp
  have after : afterTerminator (body ++ terminator :: stream) = stream := by
    rw [afterTerminator, List.dropWhile_append_of_pos clear]
    simp
  have present : terminator ∈ body ++ terminator :: stream := by simp
  rw [List.cons_append, ofStream.eq_def]
  cases row : Lead.ofByte lead <;> simp only [row, Lead.runsOn, Bool.false_eq_true] at runsOn <;>
    simp only [row, if_pos present, through, after, List.cons_append]

/-- Without a terminator a text or tagged frame stays undecided. -/
theorem ofStream_unfinished (started : Bytes) (unfinished : Unfinished started) :
    ofStream started = ⟨[], started⟩ := by
  obtain ⟨lead, body, rfl, runsOn, absent⟩ := unfinished
  rw [ofStream.eq_def]
  cases row : Lead.ofByte lead <;> simp only [row, Lead.runsOn, Bool.false_eq_true] at runsOn <;>
    simp only [row, if_neg absent]

end Framing

/-- An unfinished frame holds no terminator at all, since no lead that runs on is one. -/
theorem Unfinished.terminator_absent {bytes : Bytes} (unfinished : Unfinished bytes) :
    terminator ∉ bytes := by
  obtain ⟨lead, body, rfl, runsOn, absent⟩ := unfinished
  intro member
  rcases List.mem_cons.mp member with same | later
  · rw [← same] at runsOn
    exact absurd runsOn (by decide)
  · exact absent later

/-- More bytes without a terminator leave a frame unfinished. -/
theorem Unfinished.append {bytes : Bytes} (unfinished : Unfinished bytes) (more : Bytes)
    (clear : terminator ∉ more) : Unfinished (bytes ++ more) := by
  obtain ⟨lead, body, rfl, runsOn, absent⟩ := unfinished
  exact ⟨lead, body ++ more, rfl, runsOn, by simp [absent, clear]⟩

end Typeahead
