import Typeahead.Proofs.Engine.Wire

/-!
# Looking again

A look leaves a part of the buffer, and a smaller one when it finds a frame
(`next_shortens`). A look that finds nothing can be repeated without effect (`next_exhausted`).
So draining a buffer is finding its frames one at a time, until a look finds nothing, and
where all pieces of a stream have been read and drained, its end completes no frame
(`drainAtEnd_of_exhausted`).

Unlike the theorems on what is found, these hold of every splitter and every buffer, whether
or not they fit each other.
-/

namespace Typeahead

namespace Splitter

variable {splitter : Splitter} {buffer : Bytes}

/-- What a look leaves in the buffer was there before, and it is less when a frame was found. -/
structure Shortens (buffer : Bytes) (cut : Cut) : Prop where
  le : cut.rest.length ≤ buffer.length
  lt : cut.frame.isSome → cut.rest.length < buffer.length

/-- A buffer of which a part was passed over first is shortened as that part is. -/
theorem Shortens.within {part : Bytes} {cut : Cut} (shortens : Shortens part cut)
    (inside : part.length ≤ buffer.length) : Shortens buffer cut where
  le := Nat.le_trans shortens.le inside
  lt found := Nat.lt_of_lt_of_le (shortens.lt found) inside

/-- Where no frame is found, nothing has to be taken away. -/
theorem shortens_of_nothing {splitter : Splitter} {rest : Bytes}
    (le : rest.length ≤ buffer.length) : Shortens buffer ⟨none, splitter, rest⟩ := by
  refine ⟨le, ?_⟩
  intro found
  cases found

/-- A search for a terminator leaves what stands behind the frame, the whole buffer, or nothing. -/
theorem cutTerminated_shortens (splitter : Splitter) (bodyStart : Nat) (buffer : Bytes) :
    Shortens buffer (splitter.cutTerminated bodyStart buffer) := by
  unfold cutTerminated
  cases position : (buffer.drop (max splitter.scanned bodyStart)).idxOf? terminator with
  | some offset =>
    simp only [position]
    have inside : offset < (buffer.drop (max splitter.scanned bodyStart)).length :=
      (List.idxOf?_eq_some_iff.mp position).1
    rw [List.length_drop] at inside
    constructor
    · simp
    · intro _
      rw [List.length_drop]
      omega
  | none =>
    simp only [position]
    split
    · exact shortens_of_nothing (Nat.zero_le _)
    · exact shortens_of_nothing (Nat.le_refl _)

/-- Every row of the frame table leaves a part of what stands behind the noise. -/
theorem cutFrame_shortens (splitter : Splitter) (buffer : Bytes) :
    Shortens buffer (splitter.cutFrame buffer) := by
  have kept : (buffer.dropWhile fun byte => Lead.ofByte byte = .noise).length ≤ buffer.length :=
    (List.dropWhile_suffix _).length_le
  unfold cutFrame
  cases head : buffer.dropWhile fun byte => Lead.ofByte byte = .noise with
  | nil => exact shortens_of_nothing (Nat.zero_le _)
  | cons lead body =>
    rw [head] at kept
    refine Shortens.within ?_ kept
    simp only
    cases row : Lead.ofByte lead with
    | single => exact ⟨Nat.le_succ _, fun _ => Nat.lt_succ_self _⟩
    | pair =>
      cases body with
      | nil => exact shortens_of_nothing (Nat.le_refl _)
      | cons second rest =>
        exact ⟨Nat.le_succ_of_le (Nat.le_succ _), fun _ => Nat.lt_succ_of_lt (Nat.lt_succ_self _)⟩
    | tagged => exact cutTerminated_shortens splitter 1 _
    | text | noise => exact cutTerminated_shortens splitter 0 _

/-- Every look leaves a part of the buffer. -/
theorem next_shortens (splitter : Splitter) (buffer : Bytes) :
    Shortens buffer (splitter.next buffer) := by
  unfold next
  split
  · split
    · refine (cutFrame_shortens _ _).within ?_
      rw [List.length_drop]
      exact Nat.sub_le _ _
    · exact shortens_of_nothing (Nat.zero_le _)
  · exact cutFrame_shortens splitter buffer

/-- So does a look at the end of the stream. -/
theorem nextAtEnd_shortens (splitter : Splitter) (buffer : Bytes) :
    Shortens buffer (splitter.nextAtEnd buffer) := by
  unfold nextAtEnd
  simp only
  split
  · exact shortens_of_nothing (Nat.zero_le _)
  · exact next_shortens splitter buffer

/-- At the end of the stream, a frame is found only where it would be found before. -/
theorem nextAtEnd_found {frame : Bytes} (found : (splitter.nextAtEnd buffer).frame = some frame) :
    splitter.nextAtEnd buffer = splitter.next buffer := by
  unfold nextAtEnd at found ⊢
  simp only at found ⊢
  split at found
  · cases found
  · next whole => rw [if_neg whole]

/-- There is nothing to find in a buffer: a look gives no frame and changes nothing. -/
def Exhausted (splitter : Splitter) (buffer : Bytes) : Prop :=
  splitter.next buffer = ⟨none, splitter, buffer⟩

/-- While a frame is being given up, an empty buffer holds nothing to find. -/
theorem exhausted_discarding (discarding : splitter.discarding = true) : splitter.Exhausted [] := by
  simp [Exhausted, next, discarding]

/-- Nothing is to be found before the first byte. -/
theorem exhausted_start (limit : Nat) : (ofLimit limit).Exhausted [] :=
  rfl

/-- A buffer that has been searched to its end for a terminator, and that fits the limit, stays. -/
theorem cutTerminated_searched (bodyStart : Nat) (searched : splitter.scanned = buffer.length)
    (fits : ¬ splitter.limit < buffer.length) :
    splitter.cutTerminated bodyStart buffer = ⟨none, splitter, buffer⟩ := by
  have beyond : buffer.drop (max buffer.length bodyStart) = [] :=
    List.drop_eq_nil_of_le (Nat.le_max_left _ _)
  simp only [cutTerminated, searched, beyond, List.idxOf?_nil, if_neg fits]
  rw [← searched]

/-- A search for a terminator that finds none comes to rest: it has either searched the whole
buffer or given it up. -/
theorem cutTerminated_exhausted {bodyStart : Nat} (active : splitter.discarding = false)
    (row : ∀ other : Splitter, other.cutFrame buffer = other.cutTerminated bodyStart buffer)
    (nothing : (splitter.cutTerminated bodyStart buffer).frame = none) :
    (splitter.cutTerminated bodyStart buffer).splitter.Exhausted
      (splitter.cutTerminated bodyStart buffer).rest := by
  unfold cutTerminated at nothing ⊢
  cases position : (buffer.drop (max splitter.scanned bodyStart)).idxOf? terminator with
  | some offset => simp [position] at nothing
  | none =>
    simp only [position]
    split
    · exact exhausted_discarding rfl
    · next fits =>
      rw [Exhausted, next, if_neg (by simp [active]), row]
      exact cutTerminated_searched bodyStart rfl fits

/-- A look outside a frame being given up comes to rest when it finds nothing. -/
theorem cutFrame_exhausted (active : splitter.discarding = false)
    (nothing : (splitter.cutFrame buffer).frame = none) :
    (splitter.cutFrame buffer).splitter.Exhausted (splitter.cutFrame buffer).rest := by
  cases head : buffer.dropWhile fun byte => Lead.ofByte byte = .noise with
  | nil => simp [Exhausted, cutFrame, head, next, active]
  | cons lead body =>
    -- Behind the noise every look sees the same row of the table.
    have trimmed :
        ((lead :: body).dropWhile fun byte => Lead.ofByte byte = .noise) = lead :: body :=
      List.dropWhile_cons_of_neg (by simpa using head_dropNoise head)
    have same : ∀ other : Splitter, other.cutFrame buffer = other.cutFrame (lead :: body) := by
      intro other
      simp only [cutFrame, head, trimmed]
    rw [same] at nothing ⊢
    cases row : Lead.ofByte lead with
    | noise => exact absurd row (head_dropNoise head)
    | single => simp [cutFrame, trimmed, row] at nothing
    | pair =>
      cases body with
      | nil => simp [Exhausted, cutFrame, trimmed, row, next, active]
      | cons second rest => simp [cutFrame, trimmed, row] at nothing
    | tagged =>
      have cuts (other : Splitter) :
          other.cutFrame (lead :: body) = other.cutTerminated 1 (lead :: body) := by
        simp only [cutFrame, trimmed, row]
      rw [cuts] at nothing ⊢
      exact cutTerminated_exhausted active cuts nothing
    | text =>
      have cuts (other : Splitter) :
          other.cutFrame (lead :: body) = other.cutTerminated 0 (lead :: body) := by
        simp only [cutFrame, trimmed, row]
      rw [cuts] at nothing ⊢
      exact cutTerminated_exhausted active cuts nothing

/-- When a look finds nothing, neither does the next one. -/
theorem next_exhausted (nothing : (splitter.next buffer).frame = none) :
    (splitter.next buffer).splitter.Exhausted (splitter.next buffer).rest := by
  cases discarding : splitter.discarding with
  | false =>
    simp only [next, discarding] at nothing ⊢
    exact cutFrame_exhausted discarding nothing
  | true =>
    cases position : buffer.idxOf? terminator with
    | none =>
      simp only [next, discarding, position]
      exact exhausted_discarding discarding
    | some offset =>
      simp only [next, discarding, position] at nothing ⊢
      exact cutFrame_exhausted rfl nothing

section Drain

variable {look : Splitter → Bytes → Cut}
  (shortens : ∀ splitter buffer, Shortens buffer (look splitter buffer))

include shortens

/-- With more looks than bytes it does not matter how many more. -/
theorem take_enough {most more : Nat} (enough : buffer.length < most)
    (further : buffer.length < more) :
    take look most splitter buffer = take look more splitter buffer := by
  induction most generalizing more splitter buffer with
  | zero => exact absurd enough (Nat.not_lt_zero _)
  | succ most inductionHypothesis =>
    obtain ⟨more, rfl⟩ := Nat.exists_eq_add_one_of_ne_zero (Nat.ne_zero_of_lt further)
    cases found : (look splitter buffer).frame with
    | none => simp only [take, found]
    | some frame =>
      have shorter := (shortens splitter buffer).lt (by simp [found])
      have same : take look most (look splitter buffer).splitter (look splitter buffer).rest =
          take look more (look splitter buffer).splitter (look splitter buffer).rest :=
        inductionHypothesis (by omega) (by omega)
      simp only [take, found, same]

/-- Draining takes the frame that a look finds, and then drains what is left. -/
theorem drain_of_found {frame rest : Bytes} {after : Splitter}
    (found : look splitter buffer = ⟨some frame, after, rest⟩) :
    drain look splitter buffer =
      (frame :: (drain look after rest).1, (drain look after rest).2) := by
  have shorter := (shortens splitter buffer).lt (by simp [found])
  rw [found] at shorter
  have same : take look buffer.length after rest = drain look after rest :=
    take_enough shortens shorter (Nat.lt_succ_self _)
  simp only [drain, take, found] at same ⊢
  rw [same]

end Drain

/-- Draining ends where a look finds nothing. -/
theorem drain_of_nothing {look : Splitter → Bytes → Cut} {rest : Bytes} {after : Splitter}
    (nothing : look splitter buffer = ⟨none, after, rest⟩) :
    drain look splitter buffer = ([], after, rest) := by
  simp only [drain, take, nothing]

/-- At the end of a stream nothing more is found than was to be found before. -/
theorem drainAtEnd_of_exhausted (exhausted : splitter.Exhausted buffer) :
    (drain nextAtEnd splitter buffer).1 = [] := by
  have nothing : (splitter.nextAtEnd buffer).frame = none := by
    unfold Exhausted at exhausted
    simp only [nextAtEnd, exhausted]
    split <;> rfl
  simp only [drain, take, nothing]

/-- Draining leaves nothing to find. -/
theorem drain_exhausted (splitter : Splitter) (buffer : Bytes) :
    (drain next splitter buffer).2.1.Exhausted (drain next splitter buffer).2.2 := by
  induction size : buffer.length using Nat.strongRecOn generalizing splitter buffer with
  | ind size inductionHypothesis =>
    cases looked : splitter.next buffer with
    | mk frame after rest =>
      cases frame with
      | none =>
        rw [drain_of_nothing looked]
        have still := next_exhausted (congrArg Cut.frame looked)
        rwa [looked] at still
      | some frame =>
        have shorter := (next_shortens splitter buffer).lt (by simp [looked])
        rw [looked, size] at shorter
        rw [drain_of_found next_shortens looked]
        exact inductionHypothesis _ shorter after rest rfl

/-- Reading piece by piece leaves nothing to find, if there was nothing at the beginning. -/
theorem readPieces_exhausted (pieces : List Bytes) (exhausted : splitter.Exhausted buffer) :
    (readPieces pieces splitter buffer).2.1.Exhausted
      (readPieces pieces splitter buffer).2.2 := by
  induction pieces generalizing splitter buffer with
  | nil => exact exhausted
  | cons piece rest inductionHypothesis =>
    exact inductionHypothesis (drain_exhausted splitter (buffer ++ piece))

/-- One more piece is drained behind the others. -/
theorem readPieces_concat {pieces : List Bytes} {piece rest left : Bytes}
    {frames more : List Bytes} {after last : Splitter}
    (read : readPieces pieces splitter buffer = (frames, after, rest))
    (drained : drain next after (rest ++ piece) = (more, last, left)) :
    readPieces (pieces ++ [piece]) splitter buffer = (frames ++ more, last, left) := by
  induction pieces generalizing splitter buffer frames with
  | nil =>
    cases read
    simp [readPieces, drained]
  | cons first later inductionHypothesis =>
    simp only [List.cons_append, readPieces] at read ⊢
    cases behind : readPieces later (drain next splitter (buffer ++ first)).2.1
        (drain next splitter (buffer ++ first)).2.2 with
    | mk found ends =>
      rw [behind] at read
      cases read
      simp only [inductionHypothesis behind, List.append_assoc]

end Splitter

end Typeahead
