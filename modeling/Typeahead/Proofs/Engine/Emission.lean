import Typeahead.Proofs.Engine.Splitting

/-!
# What a splitter emits

A splitter does not choose when it is used. Pieces join the buffer, and somebody looks at it, as
in the middle of a stream or as at its end, in any order; more may arrive even after the end.
`Access` lists what can happen, and `serveAll` is any history of it.

Two things hold after every history: the splitter fits its buffer (`Coherent`), and each frame
that was emitted is `Whole`, a complete frame of the table and nothing more. Each access keeps
the first and contributes the second (`serve_sound`), because a look finds a frame of the stream
that the buffer begins, and those are whole (`Framing.whole_of_mem`).
-/

namespace Typeahead

/-- A complete frame, with nothing in front of it and nothing behind. -/
inductive Whole : Bytes → Prop where
  /-- A byte that is a frame. -/
  | single {lead : UInt8} (row : Lead.ofByte lead = .single) : Whole [lead]
  /-- A byte and the one that belongs to it. -/
  | pair {lead second : UInt8} (row : Lead.ofByte lead = .pair) : Whole [lead, second]
  /-- Text, tagged or not, and the first terminator behind it. -/
  | terminated {started : Bytes} (unfinished : Unfinished started) :
    Whole (started ++ [terminator])

/-- The bytes through the first terminator, behind a lead that runs on, are a frame. -/
theorem Whole.throughTerminator {lead : UInt8} (body : Bytes)
    (runsOn : (Lead.ofByte lead).runsOn = true) :
    Whole (lead :: Framing.throughTerminator body) := by
  have clear : terminator ∉ body.takeWhile (· ≠ terminator) := by
    intro member
    have other := List.all_eq_true.mp (List.all_takeWhile (p := (· ≠ terminator)) (l := body))
    simpa using other terminator member
  exact .terminated ⟨lead, _, rfl, runsOn, clear⟩

/-- The frames of a stream are whole. -/
theorem Framing.whole_of_mem (stream : Bytes) :
    ∀ frame ∈ (ofStream stream).frames, Whole frame := by
  fun_induction ofStream stream with
  | case1 => simp
  | case2 lead body noise inductionHypothesis => exact inductionHypothesis
  | case3 lead body row inductionHypothesis =>
    exact List.forall_mem_cons.mpr ⟨.single row, inductionHypothesis⟩
  | case4 lead row => simp
  | case5 lead row second rest inductionHypothesis =>
    exact List.forall_mem_cons.mpr ⟨.pair row, inductionHypothesis⟩
  | case6 lead body row present inductionHypothesis =>
    exact List.forall_mem_cons.mpr ⟨.throughTerminator body (by rw [row]; rfl), inductionHypothesis⟩
  | case8 lead body row present inductionHypothesis =>
    exact List.forall_mem_cons.mpr ⟨.throughTerminator body (by rw [row]; rfl), inductionHypothesis⟩
  | case7 | case9 => simp

namespace Splitter

variable {splitter : Splitter} {buffer : Bytes}

/-- The splitter fits the buffer behind a cut, and what was cut is a frame. -/
structure Cut.Sound (cut : Cut) : Prop where
  coherent : cut.splitter.Coherent cut.rest
  whole : ∀ frame ∈ cut.frame, Whole frame

/-- Whatever a look outside a frame being given up finds is a frame. -/
theorem Found.sound {cut : Cut} (found : splitter.Found buffer cut) : cut.Sound := by
  cases found with
  | frame frame rest shorter split =>
    refine ⟨.of_unsearched _ _ rfl, ?_⟩
    rintro _ ⟨rfl⟩
    have streams := split []
    rw [List.append_nil, List.append_nil] at streams
    apply Framing.whole_of_mem buffer
    rw [streams]
    exact List.mem_cons_self
  | waiting scanned rest split undecided kept coherent => exact ⟨coherent, by simp⟩
  | givenUp => exact ⟨.of_unsearched _ _ rfl, by simp⟩

/-- A look at a buffer that the splitter fits is sound. While a frame is given up, it goes past the
terminator of that frame first. -/
theorem next_sound (coherent : splitter.Coherent buffer) : (splitter.next buffer).Sound := by
  unfold next
  split
  · next discarding =>
    have unsearched := coherent.unsearched_of_discarding discarding
    split
    · exact (cutFrame_found { splitter with discarding := false } _ rfl
        (.of_unsearched _ _ unsearched)).sound
    · exact ⟨.of_unsearched _ _ unsearched, by simp⟩
  · next active =>
    exact (cutFrame_found splitter buffer (eq_false_of_ne_true active) coherent).sound

/-- So is a look at the end of the stream. -/
theorem nextAtEnd_sound (coherent : splitter.Coherent buffer) :
    (splitter.nextAtEnd buffer).Sound := by
  unfold nextAtEnd
  simp only
  split
  · exact ⟨.of_unsearched _ _ rfl, by simp⟩
  · exact next_sound coherent

/-- What can happen to a splitter and its buffer. -/
inductive Access where
  /-- A piece of the stream joins the buffer. -/
  | arrive (piece : Bytes)
  /-- The splitter looks at the buffer, and more may come. -/
  | look
  /-- The splitter looks at the buffer as at the end of the stream. -/
  | lookAtEnd
deriving Repr, DecidableEq

/-- What one access gives. -/
def serve (splitter : Splitter) (buffer : Bytes) : Access → Cut
  | .arrive piece => ⟨none, splitter, buffer ++ piece⟩
  | .look => splitter.next buffer
  | .lookAtEnd => splitter.nextAtEnd buffer

/-- The frames emitted in a history of accesses, and splitter and buffer after it. -/
def serveAll : List Access → Splitter → Bytes → List Bytes × Splitter × Bytes
  | [], splitter, buffer => ([], splitter, buffer)
  | access :: rest, splitter, buffer =>
    let cut := splitter.serve buffer access
    let (frames, splitter, buffer) := serveAll rest cut.splitter cut.rest
    (cut.frame.toList ++ frames, splitter, buffer)

/-- Every access is sound. -/
theorem serve_sound (coherent : splitter.Coherent buffer) (access : Access) :
    (splitter.serve buffer access).Sound := by
  cases access with
  | arrive piece => exact ⟨coherent.append piece, by simp [serve]⟩
  | look => exact next_sound coherent
  | lookAtEnd => exact nextAtEnd_sound coherent

/-- Through any history the splitter goes on fitting its buffer. -/
theorem serveAll_coherent (accesses : List Access) (coherent : splitter.Coherent buffer) :
    (serveAll accesses splitter buffer).2.1.Coherent (serveAll accesses splitter buffer).2.2 := by
  induction accesses generalizing splitter buffer with
  | nil => exact coherent
  | cons access rest inductionHypothesis =>
    exact inductionHypothesis (serve_sound coherent access).coherent

/-- Every frame emitted in a history is whole. -/
theorem serveAll_whole (accesses : List Access) (coherent : splitter.Coherent buffer) :
    ∀ frame ∈ (serveAll accesses splitter buffer).1, Whole frame := by
  induction accesses generalizing splitter buffer with
  | nil => simp [serveAll]
  | cons access rest inductionHypothesis =>
    have sound := serve_sound coherent access
    intro frame member
    rcases List.mem_append.mp member with now | later
    · exact sound.whole frame (Option.mem_toList.mp now)
    · exact inductionHypothesis sound.coherent frame later

end Splitter

end Typeahead
