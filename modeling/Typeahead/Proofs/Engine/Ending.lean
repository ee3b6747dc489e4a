import Typeahead.Proofs.Engine.Emission
import Typeahead.Proofs.Engine.Reading

/-!
# The end of a stream

Draining a buffer as at the end of its stream finds the frames that draining it finds in any
case, and these are the complete frames of the bytes in it (`drain_frames`). The rest goes: a
splitter and its buffer come out as new (`drainAtEnd_eq`), but for one thing. A frame that has
outgrown the limit is still being given up, so that of what arrives afterwards the bytes through
the next terminator are dropped, and only then is the splitter as good as a new one
(`serveAll_skipping`).

All of this is said of whatever state a history of accesses has led to, also a history that has
gone past an end of the stream before.
-/

namespace Typeahead.Splitter

/-- A text or tagged frame without its terminator that is longer than the limit. -/
def Outgrown (limit : Nat) (tail : Bytes) : Prop :=
  Unfinished tail ∧ limit < tail.length

/-- Once its buffer has been searched, a splitter is giving up a frame: the one that it was giving
up before, whose terminator is not in the buffer, or the undecided end of the buffer, which has
outgrown the limit. -/
def GivesUp (splitter : Splitter) (buffer : Bytes) : Prop :=
  splitter.discarding = true ∧ terminator ∉ buffer ∨
    Outgrown splitter.limit
      (Framing.ofStream (Framing.behind splitter.discarding buffer)).tail

variable {splitter other : Splitter} {buffer rest : Bytes}

/-- Where two looks find the same, so do two drains. -/
theorem drain_congr (same : splitter.next buffer = other.next rest) :
    drain next splitter buffer = drain next other rest := by
  cases looked : splitter.next buffer with
  | mk frame after left =>
    rw [looked] at same
    cases frame with
    | none => rw [drain_of_nothing looked, drain_of_nothing same.symm]
    | some frame =>
      rw [drain_of_found next_shortens looked, drain_of_found next_shortens same.symm]

/-- Outside a frame being given up, draining a buffer finds its complete frames, and it begins to
give up what is undecided exactly if that has outgrown the limit. -/
theorem drain_active (splitter : Splitter) (buffer : Bytes) (active : splitter.discarding = false)
    (coherent : splitter.Coherent buffer) :
    (drain next splitter buffer).1 = (Framing.ofStream buffer).frames ∧
      (drain next splitter buffer).2.1.limit = splitter.limit ∧
      ((drain next splitter buffer).2.1.discarding = true ↔
        Outgrown splitter.limit (Framing.ofStream buffer).tail) := by
  induction size : buffer.length using Nat.strongRecOn generalizing splitter buffer with
  | ind size inductionHypothesis =>
    have found := cutFrame_found splitter buffer active coherent
    have looks := next_active buffer active
    generalize splitter.cutFrame buffer = cut at found looks
    cases found with
    | frame frame rest shorter split =>
      have streams := split []
      rw [List.append_nil, List.append_nil] at streams
      obtain ⟨frames, limit, gives⟩ := inductionHypothesis rest.length (size ▸ shorter)
        { splitter with scanned := 0 } rest active (.of_unsearched _ _ rfl) rfl
      rw [drain_of_found next_shortens looks, streams]
      exact ⟨by rw [frames]; rfl, limit, gives⟩
    | waiting scanned rest split undecided kept coherent =>
      have streams := split []
      rw [List.append_nil, List.append_nil, undecided] at streams
      rw [drain_of_nothing looks, streams]
      refine ⟨rfl, rfl, ?_⟩
      simp only [active, Bool.false_eq_true, false_iff]
      exact kept
    | givenUp lost unfinished overlong split =>
      have streams := split []
      rw [List.append_nil, List.append_nil, Framing.ofStream_unfinished lost unfinished] at streams
      rw [drain_of_nothing looks, streams]
      exact ⟨rfl, rfl, fun _ => ⟨unfinished, overlong⟩, fun _ => rfl⟩

/-- Draining a buffer finds the complete frames in it, those behind the terminator of a frame that
is being given up; and it ends with the splitter giving up a frame exactly in the cases named. -/
theorem drain_frames (coherent : splitter.Coherent buffer) :
    (drain next splitter buffer).1 =
        (Framing.ofStream (Framing.behind splitter.discarding buffer)).frames ∧
      (drain next splitter buffer).2.1.limit = splitter.limit ∧
      ((drain next splitter buffer).2.1.discarding = true ↔ splitter.GivesUp buffer) := by
  cases discarding : splitter.discarding with
  | false =>
    have drained := drain_active splitter buffer discarding coherent
    simpa [GivesUp, Framing.behind, discarding] using drained
  | true =>
    by_cases present : terminator ∈ buffer
    · obtain ⟨before, rest, rfl, clear⟩ := List.eq_append_cons_of_mem present
      have unsearched := coherent.unsearched_of_discarding discarding
      have drained := drain_active { splitter with discarding := false } rest rfl
        (.of_unsearched _ _ unsearched)
      rw [drain_congr (next_behind rest discarding clear)]
      simpa [GivesUp, Framing.behind, discarding, Framing.afterTerminator_split clear] using drained
    · rw [drain_of_nothing (next_inside discarding present)]
      simp [GivesUp, Framing.behind, discarding, present, Framing.afterTerminator_clear present,
        Framing.ofStream]

/-- A look at the end of the stream that finds nothing leaves nothing, searched or not. -/
theorem nextAtEnd_of_nothing (coherent : splitter.Coherent buffer) {after : Splitter}
    (nothing : splitter.next buffer = ⟨none, after, rest⟩) :
    splitter.nextAtEnd buffer = ⟨none, { after with scanned := 0 }, []⟩ := by
  have fits := (next_sound coherent).coherent
  rw [nothing] at fits
  by_cases empty : rest = []
  · subst empty
    have unsearched : after.scanned = 0 := Nat.le_zero.mp fits.within
    have same : after = { after with scanned := 0 } := by rw [← unsearched]
    simp [nextAtEnd, nothing, ← same]
  · simp [nextAtEnd, nothing, empty]

/-- Draining as at the end of the stream finds what draining finds, and leaves a splitter that has
searched nothing with an empty buffer. -/
theorem drainAtEnd_eq (coherent : splitter.Coherent buffer) :
    drain nextAtEnd splitter buffer = ((drain next splitter buffer).1,
      { (drain next splitter buffer).2.1 with scanned := 0 }, []) := by
  induction size : buffer.length using Nat.strongRecOn generalizing splitter buffer with
  | ind size inductionHypothesis =>
    cases looked : splitter.next buffer with
    | mk frame after rest =>
      cases frame with
      | none =>
        rw [drain_of_nothing (nextAtEnd_of_nothing coherent looked), drain_of_nothing looked]
      | some frame =>
        have looksAtEnd : splitter.nextAtEnd buffer = ⟨some frame, after, rest⟩ := by
          simp [nextAtEnd, looked]
        have fits := (next_sound coherent).coherent
        have shorter := (next_shortens splitter buffer).lt (by simp [looked])
        rw [looked] at fits shorter
        rw [drain_of_found nextAtEnd_shortens looksAtEnd, drain_of_found next_shortens looked,
          inductionHypothesis rest.length (size ▸ shorter) fits rfl]

/-- A look outside a frame being given up keeps the limit. -/
theorem Found.sameLimit {cut : Cut} (found : splitter.Found buffer cut) :
    cut.splitter.limit = splitter.limit := by
  cases found <;> rfl

/-- No look changes the limit. -/
theorem next_sameLimit (coherent : splitter.Coherent buffer) :
    (splitter.next buffer).splitter.limit = splitter.limit := by
  unfold next
  split
  · next discarding =>
    have unsearched := coherent.unsearched_of_discarding discarding
    split
    · exact (cutFrame_found { splitter with discarding := false } _ rfl
        (.of_unsearched _ _ unsearched)).sameLimit
    · rfl
  · next active =>
    exact (cutFrame_found splitter buffer (eq_false_of_ne_true active) coherent).sameLimit

/-- So the limit is the same through any history. -/
theorem serveAll_sameLimit (accesses : List Access) (coherent : splitter.Coherent buffer) :
    (serveAll accesses splitter buffer).2.1.limit = splitter.limit := by
  induction accesses generalizing splitter buffer with
  | nil => rfl
  | cons access later inductionHypothesis =>
    have further := inductionHypothesis (serve_sound coherent access).coherent
    refine further.trans ?_
    cases access with
    | arrive piece => rfl
    | look => exact next_sameLimit coherent
    | lookAtEnd =>
      simp only [serve, nextAtEnd]
      split <;> exact next_sameLimit coherent

/-- A history of accesses without the bytes that arrive through the first terminator. -/
def Access.behindTerminator : List Access → List Access
  | [] => []
  | .arrive piece :: rest =>
    if terminator ∈ piece then .arrive (Framing.afterTerminator piece) :: rest
    else behindTerminator rest
  | .look :: rest => .look :: behindTerminator rest
  | .lookAtEnd :: rest => .lookAtEnd :: behindTerminator rest

/-- With the terminator of the frame being given up in the buffer, a splitter emits what it would
emit behind it. -/
theorem serveAll_behind (accesses : List Access) (before rest : Bytes)
    (discarding : splitter.discarding = true) (clear : terminator ∉ before) :
    (serveAll accesses splitter (before ++ terminator :: rest)).1 =
      (serveAll accesses { splitter with discarding := false } rest).1 := by
  induction accesses generalizing rest with
  | nil => rfl
  | cons access later inductionHypothesis =>
    have looks := next_behind rest discarding clear
    cases access with
    | arrive piece => simpa [serveAll, serve] using inductionHypothesis (rest ++ piece)
    | look => simp only [serveAll, serve, looks]
    | lookAtEnd => simp only [serveAll, serve, nextAtEnd, looks]

/-- A splitter that is giving up a frame emits what a new one would emit without the bytes through
the next terminator. Until that has arrived neither of them emits anything, and looks change
nothing but drop what is there. -/
theorem serveAll_skipping (accesses : List Access) (buffer : Bytes)
    (discarding : splitter.discarding = true)
    (clear : terminator ∉ buffer) :
    (serveAll accesses splitter buffer).1 =
      (serveAll (Access.behindTerminator accesses) { splitter with discarding := false } []).1 := by
  induction accesses generalizing buffer with
  | nil => rfl
  | cons access later inductionHypothesis =>
    have empty := inductionHypothesis [] List.not_mem_nil
    have drops := next_inside discarding clear
    have dropsAtEnd : splitter.nextAtEnd buffer = ⟨none, splitter, []⟩ := by
      simp [nextAtEnd, drops]
    have fresh : { splitter with discarding := false }.next [] =
        ⟨none, { splitter with discarding := false }, []⟩ := rfl
    have freshAtEnd : { splitter with discarding := false }.nextAtEnd [] =
        ⟨none, { splitter with discarding := false }, []⟩ := rfl
    cases access with
    | arrive piece =>
      by_cases present : terminator ∈ piece
      · obtain ⟨before, rest, rfl, clearBefore⟩ := List.eq_append_cons_of_mem present
        have passed := serveAll_behind later (buffer ++ before) rest discarding
          (by simp [clear, clearBefore])
        simpa [serveAll, serve, Access.behindTerminator,
          Framing.afterTerminator_split clearBefore] using passed
      · have further := inductionHypothesis (buffer ++ piece) (by simp [clear, present])
        simpa [serveAll, serve, Access.behindTerminator, present] using further
    | look =>
      simpa only [serveAll, serve, Access.behindTerminator, drops, fresh, Option.toList_none,
        List.nil_append] using empty
    | lookAtEnd =>
      simpa only [serveAll, serve, Access.behindTerminator, dropsAtEnd, freshAtEnd,
        Option.toList_none, List.nil_append] using empty

/-- The end of a stream delivers what is complete and drops the rest, whatever has happened to the
splitter and its buffer. Draining as at the end emits what draining would emit, which is every
complete frame in the buffer and nothing else, and it leaves the buffer empty; that comes to an end,
however many more looks one has to spare.

Whatever happens afterwards, the splitter emits what a new one with the same limit would emit. There
is one exception: when a frame is being given up at the end, the bytes through the next terminator
are dropped first. -/
theorem end_delivers_complete (limit : Nat) (accesses : List Access) :
    let (_, splitter, buffer) := serveAll accesses (ofLimit limit) []
    let (frames, ended, rest) := drain nextAtEnd splitter buffer
    (∀ most, buffer.length < most → take nextAtEnd most splitter buffer = (frames, ended, rest)) ∧
      frames = (drain next splitter buffer).1 ∧
      frames = (Framing.ofStream (Framing.behind splitter.discarding buffer)).frames ∧
      (∀ frame ∈ frames, Whole frame) ∧
      rest = [] ∧
      (ended.discarding = true ↔ splitter.GivesUp buffer) ∧
      ∀ later, (serveAll later ended rest).1 =
        (serveAll (if ended.discarding then Access.behindTerminator later else later)
          (ofLimit limit) []).1 := by
  have start : (ofLimit limit).Coherent [] := .of_unsearched _ _ rfl
  have coherent := serveAll_coherent accesses start
  have sameLimit : (serveAll accesses (ofLimit limit) []).2.1.limit = limit :=
    serveAll_sameLimit accesses start
  generalize serveAll accesses (ofLimit limit) [] = reached at coherent sameLimit ⊢
  obtain ⟨emitted, splitter, buffer⟩ := reached
  obtain ⟨complete, drainLimit, givesUp⟩ := drain_frames coherent
  have ended := drainAtEnd_eq coherent
  have enough (most : Nat) (further : buffer.length < most) :
      take nextAtEnd most splitter buffer = drain nextAtEnd splitter buffer :=
    take_enough nextAtEnd_shortens further (Nat.lt_succ_self _)
  simp only at coherent sameLimit complete drainLimit givesUp ended enough ⊢
  rw [ended] at enough ⊢
  simp only at enough ⊢
  refine ⟨enough, trivial, complete, ?_, trivial, givesUp, ?_⟩
  · rw [complete]
    exact Framing.whole_of_mem _
  · intro later
    generalize (drain next splitter buffer).2.1 = after at drainLimit givesUp ⊢
    obtain ⟨afterLimit, scanned, discarding⟩ := after
    obtain rfl : afterLimit = limit := drainLimit.trans sameLimit
    cases discarding with
    | false => rfl
    | true => exact serveAll_skipping later [] rfl List.not_mem_nil

/-- A text outgrows the limit just before the stream ends. What is left of it arrives afterwards and
is dropped with its terminator; the frame behind it is found. -/
example : serveAll [.arrive [5, 65, 66, 67], .look, .lookAtEnd, .arrive [68, 0, 69, 0], .look]
    (ofLimit 2) [] = ([[5], [69, 0]], ofLimit 2, []) := by decide

end Typeahead.Splitter
