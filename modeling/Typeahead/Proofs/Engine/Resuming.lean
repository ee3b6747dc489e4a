import Mathlib.Data.List.DropRight
import Typeahead.Proofs.Engine.Decoding
import Typeahead.Proofs.Engine.Ending

/-!
# The search that is resumed

A text or tagged frame may arrive in many pieces. A splitter notes how far it has searched the
frame for its terminator and goes on from there when more has arrived. It trusts the note, so the
note must never point past the buffer nor past a terminator, whatever happened in between: frames
taken, a frame given up, the end of a stream.

`Searches` says when a look searches at all, which bytes, and where the body of the frame begins;
such a look is that search (`Searches.next`), and any other look pays no heed to the note
(`next_unheeding`). A splitter that fits its buffer resumes within it and comes to the
terminator that a search of the whole body comes to (`Coherent.resumes`), so that the look cuts
through that one (`Searches.next_eq_cutThrough`). The note saves work and changes nothing: a
splitter without it finds the same (`next_forgetting`).
-/

namespace Typeahead

/-- The bytes with which a frame can begin that runs through a terminator. -/
theorem Lead.runsOn_bytes {lead : UInt8} (runsOn : (Lead.ofByte lead).runsOn = true) :
    lead = 1 ∨ lead = 3 ∨ 8 ≤ lead := by
  have admits := Lead.ofByte_admits lead
  cases row : Lead.ofByte lead with
  | single | pair | noise => simp [row, Lead.runsOn] at runsOn
  | tagged =>
    rw [row] at admits
    rcases admits with tag | tag
    · exact .inl tag
    · exact .inr (.inl tag)
  | text =>
    rw [row] at admits
    exact .inr (.inr (UInt8.le_iff_toNat_le.mpr admits))

/-- Where the first terminator at or after `start` stands. -/
def terminatorFrom? (start : Nat) (bytes : Bytes) : Option Nat :=
  ((bytes.drop start).idxOf? terminator).map (start + ·)

/-- From any position up to it, the first terminator is found. -/
theorem terminatorFrom?_before {started : Bytes} (rest : Bytes) {start : Nat}
    (clear : terminator ∉ started) (before : start ≤ started.length) :
    terminatorFrom? start (started ++ terminator :: rest) = some started.length := by
  rw [terminatorFrom?, Splitter.idxOf_terminator started rest start clear before, Option.map_some,
    Nat.add_sub_cancel' before]

/-- Where there is no terminator, none is found from any position. -/
theorem terminatorFrom?_clear {bytes : Bytes} (start : Nat) (clear : terminator ∉ bytes) :
    terminatorFrom? start bytes = none := by
  rw [terminatorFrom?, Option.map_eq_none_iff, List.idxOf?_eq_none_iff]
  exact fun member => clear (List.mem_of_mem_drop member)

namespace Splitter

variable {splitter other : Splitter} {buffer bytes : Bytes} {bodyStart : Nat}

/-- What a look finds ahead: the bytes behind the frame being given up, if there is one, without the
noise in front. -/
def ahead (splitter : Splitter) (buffer : Bytes) : Bytes :=
  (Framing.behind splitter.discarding buffer).dropWhile fun byte => Lead.ofByte byte = .noise

/-- How far the buffer has been searched does not bear on what lies ahead. -/
theorem ahead_alike (buffer : Bytes) (alike : other.discarding = splitter.discarding) :
    other.ahead buffer = splitter.ahead buffer := by
  rw [ahead, alike, ahead]

/-- A look at this buffer searches some bytes for the terminator of the frame that they begin with;
the number says where the body of that frame begins. -/
inductive Searches (splitter : Splitter) (buffer : Bytes) : Nat → Bytes → Prop where
  /-- A tag lies ahead. The body comes behind it. -/
  | tagged {lead : UInt8} {body : Bytes} (ahead : splitter.ahead buffer = lead :: body)
      (row : Lead.ofByte lead = .tagged) : Searches splitter buffer 1 (lead :: body)
  /-- Text lies ahead, which is all body. -/
  | text {lead : UInt8} {body : Bytes} (ahead : splitter.ahead buffer = lead :: body)
      (row : Lead.ofByte lead = .text) : Searches splitter buffer 0 (lead :: body)

/-- What is searched is what lies ahead, and it begins with a lead that runs on. -/
theorem Searches.begins (searches : splitter.Searches buffer bodyStart bytes) :
    splitter.ahead buffer = bytes ∧ bodyStart ≤ 1 ∧
      ∃ lead body, bytes = lead :: body ∧ (Lead.ofByte lead).runsOn = true := by
  cases searches with
  | tagged ahead row => exact ⟨ahead, Nat.le_refl 1, _, _, rfl, by rw [row]; rfl⟩
  | text ahead row => exact ⟨ahead, Nat.zero_le 1, _, _, rfl, by rw [row]; rfl⟩

/-- A lead ahead that runs on is searched for its terminator. -/
theorem searches_of_runsOn {lead : UInt8} {body : Bytes}
    (ahead : splitter.ahead buffer = lead :: body) (runsOn : (Lead.ofByte lead).runsOn = true) :
    ∃ bodyStart, splitter.Searches buffer bodyStart (lead :: body) := by
  cases row : Lead.ofByte lead with
  | tagged => exact ⟨1, .tagged ahead row⟩
  | text => exact ⟨0, .text ahead row⟩
  | single | pair | noise => simp [row, Lead.runsOn] at runsOn

/-- There is no noise in front of what lies ahead. -/
theorem dropWhile_ahead (splitter : Splitter) (buffer : Bytes) :
    (splitter.ahead buffer).dropWhile (fun byte => Lead.ofByte byte = .noise) =
      splitter.ahead buffer :=
  List.dropWhile_idempotent _ _

/-- Noise in front of the stream does not matter to a look outside a frame being given up. -/
theorem cutFrame_dropNoise (splitter : Splitter) (stream : Bytes) :
    splitter.cutFrame (stream.dropWhile fun byte => Lead.ofByte byte = .noise) =
      splitter.cutFrame stream := by
  simp only [cutFrame, List.dropWhile_idempotent _ stream]

/-- A look takes its frame from what lies ahead. It does not come to that inside of a frame being
given up, but then there is nothing ahead. -/
theorem next_ahead (splitter : Splitter) (buffer : Bytes) :
    splitter.next buffer = { splitter with discarding := false }.cutFrame (splitter.ahead buffer) ∨
      splitter.next buffer = ⟨none, splitter, []⟩ ∧ splitter.ahead buffer = [] := by
  rw [ahead, cutFrame_dropNoise]
  cases discarding : splitter.discarding with
  | false =>
    have active : splitter = { splitter with discarding := false } := by rw [← discarding]
    rw [← active, Framing.behind, if_neg Bool.false_ne_true]
    exact .inl (next_active buffer discarding)
  | true =>
    by_cases present : terminator ∈ buffer
    · obtain ⟨before, rest, rfl, clear⟩ := List.eq_append_cons_of_mem present
      rw [Framing.behind, if_pos rfl, Framing.afterTerminator_split clear]
      exact .inl ((next_behind rest discarding clear).trans (next_active rest rfl))
    · rw [Framing.behind, if_pos rfl, Framing.afterTerminator_clear present]
      exact .inr ⟨next_inside discarding present, rfl⟩

/-- So it finds what is to be found there. -/
theorem next_finds (splitter : Splitter) (buffer : Bytes) :
    (splitter.next buffer).frame =
        ({ splitter with discarding := false }.cutFrame (splitter.ahead buffer)).frame ∧
      (splitter.next buffer).rest =
        ({ splitter with discarding := false }.cutFrame (splitter.ahead buffer)).rest := by
  rcases next_ahead splitter buffer with found | ⟨inside, nothing⟩
  · rw [found]
    exact ⟨rfl, rfl⟩
  · rw [inside, nothing]
    exact ⟨rfl, rfl⟩

/-- A look that searches is that search and nothing else. -/
theorem Searches.next (searches : splitter.Searches buffer bodyStart bytes) :
    splitter.next buffer = { splitter with discarding := false }.cutTerminated bodyStart bytes := by
  have trimmed := dropWhile_ahead splitter buffer
  have found := next_ahead splitter buffer
  cases searches with
  | tagged ahead row | text ahead row =>
    rw [ahead] at trimmed found
    obtain found | ⟨-, nothing⟩ := found
    · rw [found]
      simp only [cutFrame, trimmed, row]
    · cases nothing

/-- Two splitters that are both giving up a frame, or neither, search the same. -/
theorem Searches.alike (searches : splitter.Searches buffer bodyStart bytes)
    (alike : other.discarding = splitter.discarding) :
    other.Searches buffer bodyStart bytes := by
  have same := ahead_alike buffer alike
  cases searches with
  | tagged ahead row => exact .tagged (same.trans ahead) row
  | text ahead row => exact .text (same.trans ahead) row

/-- Where no lead that runs on lies ahead, it does not matter which splitter takes a look. -/
theorem cutFrame_unheeding (splitter other : Splitter) (stream : Bytes)
    (short : ∀ lead body, (stream.dropWhile fun byte => Lead.ofByte byte = .noise) = lead :: body →
      (Lead.ofByte lead).runsOn = false) :
    (other.cutFrame stream).frame = (splitter.cutFrame stream).frame ∧
      (other.cutFrame stream).rest = (splitter.cutFrame stream).rest := by
  unfold cutFrame
  cases head : stream.dropWhile fun byte => Lead.ofByte byte = .noise with
  | nil => exact ⟨rfl, rfl⟩
  | cons lead body =>
    have shortLead := short lead body head
    cases row : Lead.ofByte lead with
    | noise => exact absurd row (head_dropNoise head)
    | tagged | text => simp [row, Lead.runsOn] at shortLead
    | single => simp only [row, and_self]
    | pair => cases body <;> simp only [row, and_self]

/-- A look that does not search takes no notice of how far the buffer has been searched. -/
theorem next_unheeding (idle : ∀ bodyStart bytes, ¬ splitter.Searches buffer bodyStart bytes)
    (alike : other.discarding = splitter.discarding) :
    (other.next buffer).frame = (splitter.next buffer).frame ∧
      (other.next buffer).rest = (splitter.next buffer).rest := by
  obtain ⟨frame, rest⟩ := next_finds splitter buffer
  obtain ⟨otherFrame, otherRest⟩ := next_finds other buffer
  rw [frame, rest, otherFrame, otherRest, ahead_alike buffer alike]
  apply cutFrame_unheeding
  intro lead body head
  rw [dropWhile_ahead] at head
  apply eq_false_of_ne_true
  intro runsOn
  obtain ⟨bodyStart, searches⟩ := searches_of_runsOn head runsOn
  exact idle bodyStart _ searches

/-- A search that goes on from `start` is as good as one of the whole body: it begins within what
it searches, and it comes to the same terminator. -/
structure Resumes (start bodyStart : Nat) (bytes : Bytes) : Prop where
  inside : start ≤ bytes.length
  same : terminatorFrom? start bytes = terminatorFrom? bodyStart bytes

/-- A splitter fits what lies ahead of it, if it fits its buffer. -/
theorem Coherent.ahead (coherent : splitter.Coherent buffer) :
    splitter.Coherent (splitter.ahead buffer) := by
  cases discarding : splitter.discarding with
  | false =>
    rw [Splitter.ahead, discarding]
    exact coherent.dropNoise
  | true => exact .of_unsearched _ _ (coherent.unsearched_of_discarding discarding)

/-- A splitter that fits a frame that runs on resumes its search well.

The terminator that ends the frame is not among the bytes searched, so that both searches begin at
or before it; and there may be none. -/
theorem Coherent.resumes {lead : UInt8} {body : Bytes} (coherent : splitter.Coherent (lead :: body))
    (runsOn : (Lead.ofByte lead).runsOn = true) (atLead : bodyStart ≤ 1) :
    Resumes (max splitter.scanned bodyStart) bodyStart (lead :: body) := by
  constructor
  · exact Nat.max_le.mpr ⟨coherent.within, Nat.le_trans atLead (Nat.le_add_left _ _)⟩
  · by_cases present : terminator ∈ body
    · obtain ⟨before, rest, rfl, clear⟩ := List.eq_append_cons_of_mem present
      have unfinished : Unfinished (lead :: before) := ⟨lead, before, rfl, runsOn, clear⟩
      have atBody : bodyStart ≤ (lead :: before).length :=
        Nat.le_trans atLead (Nat.le_add_left _ _)
      rw [← List.cons_append] at coherent ⊢
      have resumed : max splitter.scanned bodyStart ≤ (lead :: before).length :=
        Nat.max_le.mpr ⟨coherent.before_terminator, atBody⟩
      rw [terminatorFrom?_before rest unfinished.terminator_absent resumed,
        terminatorFrom?_before rest unfinished.terminator_absent atBody]
    · have unfinished : Unfinished (lead :: body) := ⟨lead, body, rfl, runsOn, present⟩
      rw [terminatorFrom?_clear _ unfinished.terminator_absent,
        terminatorFrom?_clear _ unfinished.terminator_absent]

/-- Every search of a splitter that fits its buffer is resumed well. -/
theorem Searches.resumes (searches : splitter.Searches buffer bodyStart bytes)
    (coherent : splitter.Coherent buffer) :
    Resumes (max splitter.scanned bodyStart) bodyStart bytes := by
  obtain ⟨ahead, atLead, lead, body, rfl, runsOn⟩ := searches.begins
  have fits := coherent.ahead
  rw [ahead] at fits
  exact fits.resumes runsOn atLead

/-- What a search comes to that has found a terminator at a position, or none. The bytes through it
are the frame. Without it the frame is given up if the bytes exceed the limit; otherwise they stay
and all of them have been searched. -/
def cutThrough (splitter : Splitter) (bytes : Bytes) : Option Nat → Cut
  | some position =>
    ⟨some (bytes.take (position + 1)), { splitter with scanned := 0 }, bytes.drop (position + 1)⟩
  | none =>
    if splitter.limit < bytes.length then
      ⟨none, { splitter with scanned := 0, discarding := true }, []⟩
    else ⟨none, { splitter with scanned := bytes.length }, bytes⟩

/-- What a search comes to depends on the first terminator that it finds, not on where it began. -/
theorem cutTerminated_eq (splitter : Splitter) (bodyStart : Nat) (bytes : Bytes) :
    splitter.cutTerminated bodyStart bytes =
      splitter.cutThrough bytes (terminatorFrom? (max splitter.scanned bodyStart) bytes) := by
  rw [cutTerminated, terminatorFrom?]
  cases (bytes.drop (max splitter.scanned bodyStart)).idxOf? terminator <;>
    simp only [Option.map_some, Option.map_none, cutThrough]

/-- A look that searches cuts through the first terminator of the whole body, wherever its search
was resumed. -/
theorem Searches.next_eq_cutThrough (searches : splitter.Searches buffer bodyStart bytes)
    (coherent : splitter.Coherent buffer) :
    splitter.next buffer =
      { splitter with discarding := false }.cutThrough bytes
        (terminatorFrom? bodyStart bytes) := by
  rw [searches.next, cutTerminated_eq]
  exact congrArg _ (searches.resumes coherent).same

/-- A splitter that forgets how far it has searched finds the same. -/
theorem next_forgetting (coherent : splitter.Coherent buffer) :
    { splitter with scanned := 0 }.next buffer = splitter.next buffer := by
  rcases Nat.eq_zero_or_pos splitter.scanned with unsearched | searched
  · rw [← unsearched]
  · obtain ⟨lead, body, rfl, runsOn⟩ := coherent.lead_runsOn searched
    have active : splitter.discarding = false := (coherent.pending searched).1
    have notNoise := Lead.not_noise_of_runsOn runsOn
    have ahead : splitter.ahead (lead :: body) = lead :: body := by
      rw [Splitter.ahead, active, Framing.behind, if_neg Bool.false_ne_true,
        List.dropWhile_cons_of_neg (by simpa using notNoise)]
    obtain ⟨bodyStart, searches⟩ := searches_of_runsOn ahead runsOn
    have afresh : { splitter with scanned := 0 }.Searches (lead :: body) bodyStart (lead :: body) :=
      searches.alike rfl
    rw [searches.next_eq_cutThrough coherent, afresh.next_eq_cutThrough (.of_unsearched _ _ rfl)]
    cases terminatorFrom? bodyStart (lead :: body) <;> simp only [cutThrough]

/-- A search that finds no terminator leaves no more than the limit allows. -/
theorem cutTerminated_rest_le
    (nothing : (splitter.cutTerminated bodyStart bytes).frame = none) :
    (splitter.cutTerminated bodyStart bytes).rest.length ≤ splitter.limit := by
  rw [cutTerminated_eq] at nothing ⊢
  cases found : terminatorFrom? (max splitter.scanned bodyStart) bytes with
  | some position => simp [found, cutThrough] at nothing
  | none =>
    simp only [cutThrough]
    split
    · exact Nat.zero_le _
    · next fits => exact Nat.le_of_not_lt fits

/-- A look that finds nothing leaves no more than the limit allows, or the first half of a pair. -/
theorem cutFrame_rest_le (nothing : (splitter.cutFrame bytes).frame = none) :
    (splitter.cutFrame bytes).rest.length ≤ max splitter.limit 1 := by
  unfold cutFrame at nothing ⊢
  cases head : bytes.dropWhile fun byte => Lead.ofByte byte = .noise with
  | nil => exact Nat.zero_le _
  | cons lead body =>
    simp only [head] at nothing ⊢
    cases row : Lead.ofByte lead with
    | single => simp [row] at nothing
    | pair =>
      cases body with
      | nil => exact Nat.le_max_right _ _
      | cons second rest => simp [row] at nothing
    | tagged | text | noise =>
      simp only [row] at nothing ⊢
      exact Nat.le_trans (cutTerminated_rest_le nothing) (Nat.le_max_left _ _)

/-- The search for a terminator can be resumed after any history of a splitter, in which pieces
arrive and looks are taken, as in the middle of the stream or as at its end, in any order.

The note of how far the buffer has been searched lies within it. Where anything has been searched,
no frame is being given up, the buffer begins with a lead that runs through a terminator, and there
is no terminator among the bytes searched. A look that searches therefore begins within the bytes
that it searches and comes to the terminator that a search of the whole body comes to: it returns
the bytes through the first terminator of the body, if there is one. No other look makes use of the
note. So a look without the note finds the same. When it finds nothing, what stays in the buffer is
within the limit, or it is a single byte. -/
theorem resumption_misses_nothing (limit : Nat) (accesses : List Access) :
    let (_, splitter, buffer) := serveAll accesses (ofLimit limit) []
    splitter.scanned ≤ buffer.length ∧
      (0 < splitter.scanned →
        splitter.discarding = false ∧
          (∃ lead body, buffer = lead :: body ∧ (lead = 1 ∨ lead = 3 ∨ 8 ≤ lead)) ∧
          terminator ∉ buffer.take splitter.scanned) ∧
      (∀ bodyStart bytes, splitter.Searches buffer bodyStart bytes →
        splitter.next buffer = { splitter with discarding := false }.cutTerminated bodyStart bytes ∧
          Resumes (max splitter.scanned bodyStart) bodyStart bytes ∧
          splitter.next buffer =
            { splitter with discarding := false }.cutThrough bytes
              (terminatorFrom? bodyStart bytes)) ∧
      ((∀ bodyStart bytes, ¬ splitter.Searches buffer bodyStart bytes) → ∀ scanned,
        ({ splitter with scanned }.next buffer).frame = (splitter.next buffer).frame ∧
          ({ splitter with scanned }.next buffer).rest = (splitter.next buffer).rest) ∧
      { splitter with scanned := 0 }.next buffer = splitter.next buffer ∧
      ((splitter.next buffer).frame = none →
        (splitter.next buffer).rest.length ≤ max limit 1) := by
  have start : (ofLimit limit).Coherent [] := .of_unsearched _ _ rfl
  have coherent := serveAll_coherent accesses start
  have sameLimit : (serveAll accesses (ofLimit limit) []).2.1.limit = limit :=
    serveAll_sameLimit accesses start
  generalize serveAll accesses (ofLimit limit) [] = reached at coherent sameLimit ⊢
  obtain ⟨emitted, splitter, buffer⟩ := reached
  simp only at coherent sameLimit ⊢
  refine ⟨coherent.within, ?_, ?_, ?_, next_forgetting coherent, ?_⟩
  · intro searched
    obtain ⟨active, unfinished⟩ := coherent.pending searched
    obtain ⟨lead, body, head, runsOn⟩ := coherent.lead_runsOn searched
    exact ⟨active, ⟨lead, body, head, Lead.runsOn_bytes runsOn⟩, unfinished.terminator_absent⟩
  · intro bodyStart bytes searches
    exact ⟨searches.next, searches.resumes coherent, searches.next_eq_cutThrough coherent⟩
  · intro idle scanned
    exact next_unheeding idle rfl
  · intro nothing
    obtain ⟨frame, rest⟩ := next_finds splitter buffer
    rw [frame] at nothing
    rw [rest, ← sameLimit]
    exact cutFrame_rest_le nothing

/-- Two bytes of a text have been searched when its terminator arrives; the search goes on behind
them and finds it. -/
example : serveAll [.arrive [65, 66], .look, .arrive [67, 0]] (ofLimit 8) [] =
      ([], ⟨8, 2, false⟩, [65, 66, 67, 0]) ∧
    terminatorFrom? 2 [65, 66, 67, 0] = some 3 := by decide

end Splitter

end Typeahead
