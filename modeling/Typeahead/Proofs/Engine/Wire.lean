import Typeahead.Engine.Reply
import Typeahead.Proofs.Engine.Arrival
import Typeahead.Proofs.Text.Utf8

/-!
# Replies on the wire

The splitter and the decoder each interpret the first byte of a frame on their own. This
module writes replies one after another, with noise around them, and shows that both
together read exactly these replies, however the stream is cut into reads:
`reads_replies`.

A written reply is a whole frame for the splitter (`ofStream_encode`) and is decoded to
itself (`decode_encode`). Both need that the texts in it hold no terminator and that a
text without a tag does not begin like one; `Writable` says so.
-/

namespace Typeahead

namespace Reply

/-- A text that the terminator of its frame does not cut short. -/
def Unbroken (text : Text) : Prop :=
  Char.ofNat 0 ∉ text

/-- A reply whose written form says all of it. A list of names is cut at the semicolons, and empty
names do not count. Untagged text has to begin with a character that is not kept for tags. -/
def Writable : Reply → Prop
  | .error message => Unbroken message
  | .capabilities names => ∀ name ∈ names, name ≠ [] ∧ ';' ∉ name ∧ Unbroken name
  | .expanded text =>
    Unbroken text ∧ ∃ first rest, text = first :: rest ∧ 8 ≤ first.toNat
  | _ => True

/-- The text of a payload is read back, its terminator apart. -/
theorem payloadText_terminated (text : Text) :
    payloadText (Utf8.encode text ++ [terminator]) = .ok text := by
  have stripped : body (Utf8.encode text ++ [terminator]) = Utf8.encode text := by simp [body]
  rw [payloadText, stripped, Utf8.decode_encode]
  rfl

/-- Names written with semicolons between them are told apart again. -/
theorem capabilityNames_joined (names : List Text)
    (usable : ∀ name ∈ names, name ≠ [] ∧ ';' ∉ name) :
    capabilityNames ([';'].intercalate names) = names := by
  cases names with
  | nil => rfl
  | cons first rest =>
    have apart : ∀ name ∈ first :: rest, ';' ∉ name := fun name member => (usable name member).2
    rw [capabilityNames, List.splitOn_intercalate ';' apart (List.cons_ne_nil _ _),
      List.filter_eq_self]
    intro name member
    simpa using (usable name member).1

/-- A byte from 08 on is none of those below. -/
theorem ne_tag {lead : UInt8} (untagged : 8 ≤ lead.toNat) (tag : UInt8) (small : tag.toNat < 8) :
    lead ≠ tag := by
  rintro rfl
  omega

/-- A lead from 08 on is no tag. -/
theorem decode_untagged (lead : UInt8) (payload : Bytes) (untagged : 8 ≤ lead.toNat) :
    decode (lead :: payload) = (payloadText (lead :: payload)).map .expanded := by
  simp [decode, ne_tag untagged]

/-- A written reply is read as that reply. -/
theorem decode_encode (reply : Reply) (writable : reply.Writable) :
    decode reply.encode = .ok reply := by
  cases reply with
  | ok | regexFull | cursorHandle | invalidChar | regexStart => rfl
  | error message =>
    have text := payloadText_terminated message
    simp [encode, decode, text, Except.map]
  | capabilities names =>
    have text := payloadText_terminated ([';'].intercalate names)
    have apart := capabilityNames_joined names
      fun name member => ⟨(writable name member).1, (writable name member).2.1⟩
    simp [encode, decode, text, apart, Except.map]
  | expanded text =>
    obtain ⟨-, first, rest, rfl, allowed⟩ := writable
    obtain ⟨lead, body, bytes, untagged⟩ := Utf8.encode_lead first rest 8 (by omega) allowed
    have frame : encode (.expanded (first :: rest)) = lead :: (body ++ [terminator]) := by
      simp [encode, bytes]
    have whole : lead :: (body ++ [terminator]) = Utf8.encode (first :: rest) ++ [terminator] := by
      simp [bytes]
    rw [frame, decode_untagged lead _ untagged, whole, payloadText_terminated]
    rfl

/-- A list of names holds no terminator if no name does. -/
theorem unbroken_joined (names : List Text) (clear : ∀ name ∈ names, Unbroken name) :
    Unbroken ([';'].intercalate names) := by
  intro member
  induction names with
  | nil => simp at member
  | cons first rest inductionHypothesis =>
    cases rest with
    | nil => exact clear first List.mem_cons_self (by simpa using member)
    | cons second others =>
      rw [List.intercalate_cons_cons, List.mem_append, List.mem_append] at member
      rcases member with (inFirst | separator) | later
      · exact clear first List.mem_cons_self inFirst
      · exact absurd separator (by decide)
      · exact inductionHypothesis (fun name inside => clear name (List.mem_cons_of_mem _ inside))
          later

/-- A tag and a text without terminators begin a frame. -/
theorem unfinished_tagged (tag : UInt8) (tagged : Lead.ofByte tag = .tagged) (text : Text)
    (clear : Unbroken text) : Unfinished (tag :: Utf8.encode text) :=
  ⟨tag, Utf8.encode text, rfl, by rw [tagged]; rfl, Utf8.terminator_not_mem_encode text clear⟩

/-- The splitter takes bytes from 08 on for the lead of a text. -/
theorem lead_text (lead : UInt8) (untagged : 8 ≤ lead.toNat) : Lead.ofByte lead = .text := by
  have large : ¬ lead < 8 := UInt8.not_lt.mpr (UInt8.le_iff_toNat_le.mpr untagged)
  simp [Lead.ofByte, ne_tag untagged, large]

/-- A written reply is a frame of its own at the head of any stream. -/
theorem ofStream_encode (reply : Reply) (writable : reply.Writable) (stream : Bytes) :
    Framing.ofStream (reply.encode ++ stream) =
      (Framing.ofStream stream).prepend [reply.encode] := by
  have terminated : ∀ started, Unfinished started → reply.encode = started ++ [terminator] →
      Framing.ofStream (reply.encode ++ stream) =
        (Framing.ofStream stream).prepend [reply.encode] := by
    intro started unfinished same
    rw [same, List.append_assoc]
    exact Framing.ofStream_finished started stream unfinished
  cases reply with
  | ok | regexFull | invalidChar | regexStart => exact Framing.ofStream_single _ _ (by decide)
  | cursorHandle handle => exact Framing.ofStream_pair _ _ _ (by decide)
  | error message => exact terminated _ (unfinished_tagged 1 (by decide) message writable) rfl
  | capabilities names =>
    have clear := unbroken_joined names fun name member => (writable name member).2.2
    exact terminated _ (unfinished_tagged 3 (by decide) _ clear) rfl
  | expanded text =>
    obtain ⟨clear, first, rest, rfl, allowed⟩ := writable
    obtain ⟨lead, body, bytes, untagged⟩ := Utf8.encode_lead first rest 8 (by omega) allowed
    have absent := Utf8.terminator_not_mem_encode _ clear
    rw [bytes] at absent
    refine terminated _ ⟨lead, body, bytes, ?_, fun member => absent (List.mem_cons_of_mem _ member)⟩
      rfl
    rw [lead_text lead untagged]
    rfl

/-- Replies written one after another, each behind some bytes of noise, and noise at the end. -/
def stream : List (Nat × Reply) → Nat → Bytes
  | [], trailing => List.replicate trailing 7
  | (noise, reply) :: rest, trailing =>
    List.replicate noise 7 ++ (reply.encode ++ stream rest trailing)

/-- The frames of such a stream are the replies, and nothing is left undecided. -/
theorem ofStream_stream (messages : List (Nat × Reply)) (trailing : Nat)
    (writable : ∀ message ∈ messages, message.2.Writable) :
    Framing.ofStream (stream messages trailing) =
      ⟨messages.map fun message => message.2.encode, []⟩ := by
  have quiet : ∀ count, ∀ byte ∈ List.replicate count 7, Lead.ofByte byte = .noise := by
    intro count byte member
    rw [List.eq_of_mem_replicate member]
    decide
  induction messages with
  | nil =>
    have dropped := Framing.ofStream_noise _ [] (quiet trailing)
    rw [List.append_nil] at dropped
    rw [stream, dropped, Framing.ofStream]
    rfl
  | cons message rest inductionHypothesis =>
    obtain ⟨noise, reply⟩ := message
    rw [stream, Framing.ofStream_noise _ _ (quiet noise),
      ofStream_encode reply (writable _ List.mem_cons_self),
      inductionHypothesis fun later member => writable later (List.mem_cons_of_mem _ member)]
    rfl

end Reply

namespace Splitter

variable {limit : Nat} {fed : Bytes} {taken passed : List Bytes} {splitter : Splitter}
  {buffer lost : Bytes}

/-- A reader that appends each piece of a stream to its buffer and then looks until no frame is
complete: the frames taken, and splitter and buffer after them. -/
def readPieces : List Bytes → Splitter → Bytes → List Bytes × Splitter × Bytes
  | [], splitter, buffer => ([], splitter, buffer)
  | piece :: rest, splitter, buffer =>
    let (frames, splitter, buffer) := drain next splitter (buffer ++ piece)
    let (later, splitter, buffer) := readPieces rest splitter buffer
    (frames ++ later, splitter, buffer)

/-- Nothing is undecided before the first byte. -/
theorem settled_start (limit : Nat) : Settled limit [] [] :=
  ⟨by rw [List.append_nil, Framing.ofStream], fun _ => rfl, fun _ => rfl⟩

/-- Reading piece by piece keeps the invariant, and each piece leaves the buffer settled. -/
theorem Tracks.readPieces (pieces : List Bytes)
    (tracks : Tracks limit fed taken splitter buffer passed lost)
    (settled : Settled limit lost buffer) :
    ∃ passed lost, let (frames, after, rest) := Splitter.readPieces pieces splitter buffer
      Tracks limit (fed ++ pieces.flatten) (taken ++ frames) after rest passed lost ∧
        Settled limit lost rest := by
  induction pieces generalizing fed taken splitter buffer passed lost with
  | nil => exact ⟨passed, lost, by simpa [Splitter.readPieces] using tracks, settled⟩
  | cons piece rest inductionHypothesis =>
    obtain ⟨passedOn, lostOn, drained, settledOn⟩ := (tracks.arrive piece).drain
    obtain ⟨passed, lost, last, done⟩ := inductionHypothesis drained settledOn
    refine ⟨passed, lost, ?_, done⟩
    simp only [List.flatten_cons, ← List.append_assoc]
    exact last

/-- Where the buffer is settled at the end of the stream, the frames passed are those of the whole
stream. -/
theorem Tracks.atEnd (tracks : Tracks limit fed taken splitter buffer passed lost)
    (settled : Settled limit lost buffer) : Framing.ofStream fed = ⟨passed, lost ++ buffer⟩ := by
  have split := tracks.split []
  rw [List.append_nil, List.append_nil, settled.undecided, Framing.prepend, List.append_nil] at split
  exact split

/-- A frame that fits the limit with its terminator is never given up. -/
theorem not_oversized {frame : Bytes} (fits : frame.length ≤ limit + 1) : ¬ Oversized limit frame := by
  rintro ⟨_, _, _, longer⟩
  omega

end Splitter

namespace Reply

open Splitter in
/-- Replies that fit the limit are read from the wire as they were written, in order and without a
refusal, and nothing stays in the buffer, whatever noise stands around them and wherever the
stream is cut into reads.

The whole stream has the written replies for its frames. None of them is oversized, so the reader
takes them all, and each of them is decoded to its reply. -/
theorem reads_replies (limit : Nat) (messages : List (Nat × Reply)) (trailing : Nat)
    (pieces : List Bytes) (writable : ∀ message ∈ messages, message.2.Writable)
    (fits : ∀ message ∈ messages, message.2.encode.length ≤ limit + 1)
    (cut : pieces.flatten = stream messages trailing) :
    let read := readPieces pieces (ofLimit limit) []
    read.1.map decode = messages.map (fun message => .ok message.2) ∧ read.2.2 = [] := by
  intro read
  obtain ⟨passed, lost, tracks, settled⟩ :=
    (Tracks.start limit).readPieces pieces (settled_start limit)
  have whole := tracks.atEnd settled
  rw [List.nil_append, cut, ofStream_stream messages trailing writable, Framing.mk.injEq] at whole
  obtain ⟨same, nothing⟩ := whole
  have all : read.1 = messages.map fun message => message.2.encode := by
    rw [same]
    apply tracks.thinned.eq_of_none_oversized
    rw [← same]
    intro frame member
    obtain ⟨message, inside, rfl⟩ := List.mem_map.mp member
    exact not_oversized (fits message inside)
  refine ⟨?_, (List.append_eq_nil_iff.mp nothing.symm).2⟩
  rw [all, List.map_map]
  exact List.map_congr_left fun message inside => decode_encode message.2 (writable message inside)

/-- Two handles that look like a terminator and like noise, and a text that a read cuts inside a
character and that just fits the limit. -/
def handlesAndText : List (Nat × Reply) :=
  [(1, .cursorHandle 0), (0, .cursorHandle 7), (2, .expanded ['é', 'x'])]

/-- These three are read as they were written. -/
theorem reads_handles_and_text :
    (∀ message ∈ handlesAndText, message.2.Writable) ∧
      (∀ message ∈ handlesAndText, message.2.encode.length ≤ 3 + 1) ∧
      [[7, 4], [0, 4], [], [7, 7, 7, 195], [169, 120, 0, 7]].flatten = stream handlesAndText 1 ∧
      (Splitter.readPieces [[7, 4], [0, 4], [], [7, 7, 7, 195], [169, 120, 0, 7]]
          (Splitter.ofLimit 3) []).1.map decode =
        [.ok (.cursorHandle 0), .ok (.cursorHandle 7), .ok (.expanded ['é', 'x'])] := by
  have writable : ∀ message ∈ handlesAndText, message.2.Writable := by
    simp only [handlesAndText, List.forall_mem_cons, List.not_mem_nil, false_implies,
      implies_true, and_true]
    refine ⟨trivial, trivial, ?_, 'é', ['x'], rfl, by decide⟩
    simp [Unbroken]
  have fits : ∀ message ∈ handlesAndText, message.2.encode.length ≤ 3 + 1 := by decide
  have cut : [[7, 4], [0, 4], [], [7, 7, 7, 195], [169, 120, 0, 7]].flatten =
      stream handlesAndText 1 := by decide
  exact ⟨writable, fits, cut, (reads_replies 3 handlesAndText 1 _ writable fits cut).1⟩

end Reply

end Typeahead
