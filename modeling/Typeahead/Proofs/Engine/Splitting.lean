import Typeahead.Proofs.Engine.Framing

/-!
# One look at the buffer

What a single look of a splitter finds is stated against `Framing.ofStream`, for every
continuation of the stream: `Found` lists the ways in which it can end, and
`cutFrame_found` says that there is no other way. The search for a terminator starts
where the last one stopped, so the statement needs that the bytes passed over hold
none; `Coherent` is that invariant of the splitter and its buffer.
-/

namespace Typeahead.Splitter

/-- The bytes that will not be searched again lie in the buffer and begin a text or
tagged frame without its terminator, and no frame is being given up meanwhile. -/
structure Coherent (splitter : Splitter) (buffer : Bytes) : Prop where
  within : splitter.scanned ≤ buffer.length
  pending : 0 < splitter.scanned →
    splitter.discarding = false ∧ Unfinished (buffer.take splitter.scanned)

/-- With nothing searched so far there is nothing to be wrong about. -/
theorem Coherent.of_unsearched (splitter : Splitter) (buffer : Bytes)
    (unsearched : splitter.scanned = 0) : splitter.Coherent buffer :=
  ⟨by omega, by omega⟩

/-- Nothing is searched for while a frame is being given up. -/
theorem Coherent.unsearched_of_discarding {splitter : Splitter} {buffer : Bytes}
    (coherent : splitter.Coherent buffer) (discarding : splitter.discarding = true) :
    splitter.scanned = 0 := by
  apply Nat.eq_zero_of_not_pos
  intro searched
  exact Bool.false_ne_true ((coherent.pending searched).1.symm.trans discarding)

/-- Bytes that arrive behind those searched do not matter to the search. -/
theorem Coherent.append {splitter : Splitter} {buffer : Bytes}
    (coherent : splitter.Coherent buffer) (piece : Bytes) :
    splitter.Coherent (buffer ++ piece) := by
  constructor
  · rw [List.length_append]
    exact Nat.le_add_right_of_le coherent.within
  · intro searched
    rw [List.take_append_of_le_length coherent.within]
    exact coherent.pending searched

/-- The search has not gone past the first terminator. -/
theorem Coherent.before_terminator {splitter : Splitter} {started rest : Bytes}
    (coherent : splitter.Coherent (started ++ terminator :: rest)) :
    splitter.scanned ≤ started.length := by
  rcases Nat.eq_zero_or_pos splitter.scanned with unsearched | searched
  · omega
  · have clear := (coherent.pending searched).2.terminator_absent
    apply Nat.le_of_not_lt
    intro beyond
    apply clear
    rw [List.take_append, List.mem_append]
    right
    obtain ⟨further, exceeds⟩ := Nat.exists_eq_add_of_lt beyond
    have positive : splitter.scanned - started.length = further + 1 := by omega
    rw [positive, List.take_succ_cons]
    exact List.mem_cons_self

/-- A search that begins at or before the first terminator finds that one. -/
theorem idxOf_terminator (started rest : Bytes) (position : Nat) (clear : terminator ∉ started)
    (before : position ≤ started.length) :
    ((started ++ terminator :: rest).drop position).idxOf? terminator =
      some (started.length - position) := by
  rw [List.drop_append_of_le_length before, List.idxOf?_eq_some_iff]
  have clearFrom : terminator ∉ started.drop position := fun member => clear (List.mem_of_mem_drop member)
  have size : (started.drop position).length = started.length - position := List.length_drop
  refine ⟨by simp, ?_, ?_⟩
  · rw [List.getElem_append_right (by omega)]
    simp [size]
  · intro index bounded same
    rw [List.getElem_append_left (by omega)] at same
    exact clearFrom (same ▸ List.getElem_mem _)

/-- Outside a frame being given up, a look takes the frame at the head. -/
theorem next_active {splitter : Splitter} (buffer : Bytes) (active : splitter.discarding = false) :
    splitter.next buffer = splitter.cutFrame buffer := by
  simp only [next, active, Bool.false_eq_true, if_false]

/-- A look goes past the terminator of a frame that is being given up. -/
theorem next_behind {splitter : Splitter} {before : Bytes} (rest : Bytes)
    (discarding : splitter.discarding = true) (clear : terminator ∉ before) :
    splitter.next (before ++ terminator :: rest) =
      { splitter with discarding := false }.next rest := by
  have position := idxOf_terminator before rest 0 clear (Nat.zero_le _)
  rw [List.drop_zero, Nat.sub_zero] at position
  have behind : (before ++ terminator :: rest).drop (before.length + 1) = rest := by
    simp [List.drop_append]
  simp only [next, discarding, if_true, position, behind]
  rfl

/-- Without that terminator it drops everything. -/
theorem next_inside {splitter : Splitter} {buffer : Bytes}
    (discarding : splitter.discarding = true) (clear : terminator ∉ buffer) :
    splitter.next buffer = ⟨none, splitter, []⟩ := by
  simp only [next, discarding, if_true, List.idxOf?_eq_none_iff.mpr clear]

/-- A terminated frame at the head of the buffer is taken whatever its length. -/
theorem cutTerminated_finished (splitter : Splitter) (bodyStart : Nat) (started rest : Bytes)
    (unfinished : Unfinished started) (atLead : bodyStart ≤ 1)
    (coherent : splitter.Coherent (started ++ terminator :: rest)) :
    splitter.cutTerminated bodyStart (started ++ terminator :: rest) =
      ⟨some (started ++ [terminator]), { splitter with scanned := 0 }, rest⟩ := by
  have nonempty : 1 ≤ started.length := by
    obtain ⟨lead, body, rfl, _⟩ := unfinished
    exact Nat.succ_pos _
  have before : max splitter.scanned bodyStart ≤ started.length :=
    Nat.max_le.mpr ⟨coherent.before_terminator, Nat.le_trans atLead nonempty⟩
  have size : max splitter.scanned bodyStart +
      (started.length - max splitter.scanned bodyStart) + 1 = started.length + 1 := by omega
  simp only [cutTerminated, idxOf_terminator started rest _ unfinished.terminator_absent before, size]
  simp [List.take_append, List.take_of_length_le]

/-- A frame without its terminator stays in the buffer up to the limit and is given up
beyond it. -/
theorem cutTerminated_unfinished (splitter : Splitter) (bodyStart : Nat) (started : Bytes)
    (unfinished : Unfinished started) :
    splitter.cutTerminated bodyStart started =
      if splitter.limit < started.length then
        ⟨none, { splitter with scanned := 0, discarding := true }, []⟩
      else ⟨none, { splitter with scanned := started.length }, started⟩ := by
  have nothing : (started.drop (max splitter.scanned bodyStart)).idxOf? terminator = none :=
    List.idxOf?_eq_none_iff.mpr fun member =>
      unfinished.terminator_absent (List.mem_of_mem_drop member)
  simp only [cutTerminated, nothing]

/-- How a look at a buffer that is not being discarded can end, said of every stream of
which the buffer is the beginning. -/
inductive Found (splitter : Splitter) (buffer : Bytes) : Cut → Prop where
  /-- A frame is taken, and the stream goes on behind it. -/
  | frame (frame rest : Bytes) (shorter : rest.length < buffer.length)
      (split : ∀ more, Framing.ofStream (buffer ++ more) =
        (Framing.ofStream (rest ++ more)).prepend [frame]) :
      Found splitter buffer ⟨some frame, { splitter with scanned := 0 }, rest⟩
  /-- Nothing is complete, and what stays in the buffer is undecided. -/
  | waiting (scanned : Nat) (rest : Bytes)
      (split : ∀ more, Framing.ofStream (buffer ++ more) = Framing.ofStream (rest ++ more))
      (undecided : Framing.ofStream rest = ⟨[], rest⟩)
      (kept : ¬ (Unfinished rest ∧ splitter.limit < rest.length))
      (coherent : Coherent { splitter with scanned } rest) :
      Found splitter buffer ⟨none, { splitter with scanned }, rest⟩
  /-- A frame has outgrown the limit, and the stream is inside it. -/
  | givenUp (lost : Bytes) (unfinished : Unfinished lost) (overlong : splitter.limit < lost.length)
      (split : ∀ more, Framing.ofStream (buffer ++ more) = Framing.ofStream (lost ++ more)) :
      Found splitter buffer ⟨none, { splitter with scanned := 0, discarding := true }, []⟩

/-- A search for a terminator ends in one of these ways.

If there is a terminator behind the lead, the first one ends the frame. If there is
none, the whole buffer is an unfinished frame, and its length decides. -/
theorem cutTerminated_found (splitter : Splitter) (bodyStart : Nat) (lead : UInt8) (body : Bytes)
    (runsOn : (Lead.ofByte lead).runsOn = true) (atLead : bodyStart ≤ 1)
    (active : splitter.discarding = false) (coherent : splitter.Coherent (lead :: body)) :
    splitter.Found (lead :: body) (splitter.cutTerminated bodyStart (lead :: body)) := by
  by_cases present : terminator ∈ body
  · obtain ⟨before, rest, rfl, clear⟩ := List.eq_append_cons_of_mem present
    have unfinished : Unfinished (lead :: before) := ⟨lead, before, rfl, runsOn, clear⟩
    rw [← List.cons_append] at coherent ⊢
    rw [cutTerminated_finished splitter bodyStart _ rest unfinished atLead coherent]
    refine .frame _ rest (by simp; omega) fun more => ?_
    rw [List.append_assoc, List.cons_append]
    exact Framing.ofStream_finished _ _ unfinished
  · have unfinished : Unfinished (lead :: body) := ⟨lead, body, rfl, runsOn, present⟩
    rw [cutTerminated_unfinished splitter bodyStart _ unfinished]
    split
    case isTrue overlong => exact .givenUp _ unfinished overlong fun _ => rfl
    case isFalse kept =>
      refine .waiting _ _ (fun _ => rfl) (Framing.ofStream_unfinished _ unfinished)
        (fun both => kept both.2) ⟨Nat.le_refl _, fun _ => ⟨active, ?_⟩⟩
      rw [List.take_length]
      exact unfinished

/-- Behind the noise at the head there is none. -/
theorem head_dropNoise {buffer : Bytes} {lead : UInt8} {body : Bytes}
    (head : (buffer.dropWhile fun byte => Lead.ofByte byte = .noise) = lead :: body) :
    Lead.ofByte lead ≠ .noise := by
  simpa [head] using List.head?_dropWhile_not (fun byte => Lead.ofByte byte = .noise) buffer

/-- A search under way is for the terminator of the frame at the head of the buffer. -/
theorem Coherent.lead_runsOn {splitter : Splitter} {buffer : Bytes}
    (coherent : splitter.Coherent buffer) (searched : 0 < splitter.scanned) :
    ∃ lead body, buffer = lead :: body ∧ (Lead.ofByte lead).runsOn = true := by
  obtain ⟨lead, body, head, runsOn, _⟩ := (coherent.pending searched).2
  cases buffer with
  | nil => simp at head
  | cons first rest =>
    rw [← Nat.sub_add_cancel searched, List.take_succ_cons] at head
    obtain ⟨rfl, -⟩ := List.cons.inj head
    exact ⟨first, rest, rfl, runsOn⟩

/-- Dropping noise from the head does not disturb a search under way: a pending frame
stands at the head itself, and there is no noise before it. -/
theorem Coherent.dropNoise {splitter : Splitter} {buffer : Bytes}
    (coherent : splitter.Coherent buffer) :
    splitter.Coherent (buffer.dropWhile fun byte => Lead.ofByte byte = .noise) := by
  rcases Nat.eq_zero_or_pos splitter.scanned with unsearched | searched
  · exact .of_unsearched _ _ unsearched
  · obtain ⟨lead, body, rfl, runsOn⟩ := coherent.lead_runsOn searched
    rwa [List.dropWhile_cons_of_neg (by simpa using Lead.not_noise_of_runsOn runsOn)]

/-- A buffer of which nothing was searched, or that begins with another kind of frame
than text and tagged ones, has no search under way. -/
theorem Coherent.unsearched_of_lead {splitter : Splitter} {lead : UInt8} {body : Bytes}
    (coherent : splitter.Coherent (lead :: body)) (short : (Lead.ofByte lead).runsOn = false) :
    splitter.scanned = 0 := by
  rcases Nat.eq_zero_or_pos splitter.scanned with unsearched | searched
  · exact unsearched
  · obtain ⟨first, rest, head, runsOn⟩ := coherent.lead_runsOn searched
    rw [(List.cons.inj head).1, runsOn] at short
    exact absurd short (by decide)

/-- What is found behind the noise at the head is found in the buffer. -/
theorem Found.of_dropNoise {splitter : Splitter} {buffer : Bytes} {cut : Cut}
    (found : splitter.Found (buffer.dropWhile fun byte => Lead.ofByte byte = .noise) cut) :
    splitter.Found buffer cut := by
  have trimmed (more : Bytes) : Framing.ofStream (buffer ++ more) = Framing.ofStream
      ((buffer.dropWhile fun byte => Lead.ofByte byte = .noise) ++ more) := by
    have noise : ∀ byte ∈ buffer.takeWhile fun byte => Lead.ofByte byte = .noise,
        Lead.ofByte byte = .noise := by
      simpa using List.all_eq_true.mp
        (List.all_takeWhile (p := fun byte => Lead.ofByte byte = .noise) (l := buffer))
    have whole := Framing.ofStream_noise _
      ((buffer.dropWhile fun byte => Lead.ofByte byte = .noise) ++ more) noise
    rwa [← List.append_assoc, List.takeWhile_append_dropWhile] at whole
  have size := (List.dropWhile_suffix (l := buffer) fun byte => Lead.ofByte byte = .noise).length_le
  cases found with
  | frame frame rest shorter split =>
    exact .frame frame rest (Nat.lt_of_lt_of_le shorter size) fun more =>
      (trimmed more).trans (split more)
  | waiting scanned rest split undecided kept coherent =>
    exact .waiting scanned rest (fun more => (trimmed more).trans (split more))
      undecided kept coherent
  | givenUp lost unfinished overlong split =>
    exact .givenUp lost unfinished overlong fun more => (trimmed more).trans (split more)

/-- Every look at a buffer that is not being discarded ends in one of these ways.

Noise at the head belongs to no frame, so it is enough to look behind it. There the
first byte selects the row of the frame table. A single byte and a pair are taken only
when no search is under way, so the search starts afresh behind them. -/
theorem cutFrame_found (splitter : Splitter) (buffer : Bytes)
    (active : splitter.discarding = false) (coherent : splitter.Coherent buffer) :
    splitter.Found buffer (splitter.cutFrame buffer) := by
  apply Found.of_dropNoise
  have trimmed := coherent.dropNoise
  rw [cutFrame]
  cases head : buffer.dropWhile fun byte => Lead.ofByte byte = .noise with
  | nil =>
    exact .waiting splitter.scanned [] (fun _ => rfl) (by rw [Framing.ofStream])
      (by rintro ⟨⟨_, _, impossible, _⟩, _⟩; exact absurd impossible (by simp)) (head ▸ trimmed)
  | cons lead body =>
    rw [head] at trimmed
    cases row : Lead.ofByte lead with
    | noise => exact absurd row (head_dropNoise head)
    | tagged =>
      simp only [row]
      exact cutTerminated_found splitter 1 lead body (by rw [row]; rfl) (Nat.le_refl 1)
        active trimmed
    | text =>
      simp only [row]
      exact cutTerminated_found splitter 0 lead body (by rw [row]; rfl) (Nat.zero_le 1)
        active trimmed
    | single =>
      have fresh := trimmed.unsearched_of_lead (by rw [row]; rfl)
      simp only [row]
      have same : splitter = { splitter with scanned := 0 } := by rw [← fresh]
      rw [same]
      exact .frame [lead] body (by simp) fun more => Framing.ofStream_single _ _ row
    | pair =>
      have fresh := trimmed.unsearched_of_lead (by rw [row]; rfl)
      simp only [row]
      cases body with
      | nil =>
        refine .waiting splitter.scanned [lead] (fun _ => rfl)
          (Framing.ofStream_half_pair lead row) ?_ trimmed
        rintro ⟨⟨first, rest, same, runsOn, _⟩, _⟩
        rw [← (List.cons.inj same).1, row] at runsOn
        exact absurd runsOn (by decide)
      | cons second rest =>
        have same : splitter = { splitter with scanned := 0 } := by rw [← fresh]
        rw [same]
        exact .frame [lead, second] rest (by simp only [List.length_cons]; omega) fun more =>
          Framing.ofStream_pair _ _ _ row

end Typeahead.Splitter
