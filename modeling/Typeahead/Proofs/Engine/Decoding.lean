import Typeahead.Proofs.Engine.Emission
import Typeahead.Proofs.Engine.Wire

/-!
# Decoding what was emitted

The decoder is defined on all bytes, the splitter emits only whole frames. On these the decoder is
exact, in both directions: `decodes_emitted` says so of every history of a splitter.

A whole frame is short and always holds a reply, or it is a text with at most a tag in front and
one terminator behind it (`textBytes?`). There the decoder fails just if what stands between is no
encoded text (`exact_of_text`), since decoding is the inverse of encoding (`Utf8.decode_eq_ok_iff`).
What it reads could have been written (`Writable`), because a terminator inside would have ended
the frame earlier, and is written as that frame again (`Retells`).
-/

namespace Typeahead

/-- The bytes that begin a frame of each kind. -/
def Lead.Admits (lead : UInt8) : Lead → Prop
  | .single => lead = 0 ∨ lead = 2 ∨ lead = 5 ∨ lead = 6
  | .pair => lead = 4
  | .tagged => lead = 1 ∨ lead = 3
  | .noise => lead < 8
  | .text => 8 ≤ lead.toNat

/-- The frame table puts each byte among those that begin its kind of frame. -/
theorem Lead.ofByte_admits (lead : UInt8) : (Lead.ofByte lead).Admits lead := by
  unfold Lead.ofByte
  split
  · assumption
  split
  · assumption
  split
  · assumption
  split
  · assumption
  · next large => exact UInt8.le_iff_toNat_le.mp (UInt8.not_lt.mp large)

namespace Reply

/-- The bytes that stand for the text of a frame, if it is a frame with a text: all but the tag and
the terminator. -/
def textBytes? : Bytes → Option Bytes
  | [] => none
  | lead :: body =>
    match Lead.ofByte lead with
    | .tagged => some body.dropLast
    | .text => some (lead :: body).dropLast
    | _ => none

/-- A reply is written as a frame, byte for byte. Of a list of names the frame may hold more: empty
ones, which do not count. -/
def Retells (frame : Bytes) : Reply → Prop
  | .capabilities names =>
    ∃ all, (∀ name ∈ all, ';' ∉ name) ∧ names = all.filter (fun name => !name.isEmpty) ∧
      frame = encode (.capabilities all)
  | reply => frame = reply.encode

/-- The decoder is exact on a frame. It fails just on a text that is not UTF-8, and for no other
reason; and what it reads could have been written, and is written as this frame again. -/
structure Exact (frame : Bytes) : Prop where
  fails_iff : (∃ fault, decode frame = .error fault) ↔
    ∃ payload, textBytes? frame = some payload ∧ ∀ text, Utf8.encode text ≠ payload
  fault : ∀ fault, decode frame = .error fault → ∃ cause, fault = .notText cause
  reads : ∀ reply, decode frame = .ok reply → reply.Writable ∧ reply.Retells frame

variable {frame payload : Bytes} {reply : Reply}

/-- The decoder is exact on a frame whose text, if it has one, is UTF-8, and which it reads as what
is written so. -/
theorem exact_of_read (decoded : decode frame = .ok reply)
    (encoded : ∀ payload, textBytes? frame = some payload → ∃ text, Utf8.encode text = payload)
    (written : reply.Writable ∧ reply.Retells frame) : Exact frame := by
  constructor
  · constructor
    · rintro ⟨fault, failed⟩
      rw [decoded] at failed
      cases failed
    · rintro ⟨payload, present, foreign⟩
      obtain ⟨text, same⟩ := encoded payload present
      exact absurd same (foreign text)
  · intro fault failed
    rw [decoded] at failed
    cases failed
  · intro other again
    rw [decoded] at again
    cases again
    exact written

/-- The decoder is exact on a frame whose text is not UTF-8, and which it refuses for that. -/
theorem exact_of_refused {cause : Utf8.Malformed} (refused : decode frame = .error (.notText cause))
    (present : textBytes? frame = some payload) (foreign : ∀ text, Utf8.encode text ≠ payload) :
    Exact frame := by
  constructor
  · exact ⟨fun _ => ⟨payload, present, foreign⟩, fun _ => ⟨_, refused⟩⟩
  · intro fault again
    rw [refused] at again
    cases again
    exact ⟨cause, rfl⟩
  · intro reply read
    rw [refused] at read
    cases read

/-- The decoder is exact on a frame without a text that it reads as what is written so. -/
theorem exact_of_short (short : textBytes? frame = none) (decoded : decode frame = .ok reply)
    (written : reply.Writable ∧ reply.Retells frame) : Exact frame := by
  refine exact_of_read decoded ?_ written
  intro payload present
  rw [short] at present
  cases present

/-- The decoder is exact on a frame with a text of which it makes what is written so. -/
theorem exact_of_text (make : Text → Reply) (present : textBytes? frame = some payload)
    (decoded : decode frame = ((Utf8.decode payload).mapError .notText).map make)
    (written : ∀ text, Utf8.encode text = payload →
      (make text).Writable ∧ (make text).Retells frame) : Exact frame := by
  cases outcome : Utf8.decode payload with
  | error cause =>
    rw [outcome] at decoded
    refine exact_of_refused decoded present ?_
    intro text same
    rw [Utf8.decode_eq_ok_iff.mpr same] at outcome
    cases outcome
  | ok text =>
    rw [outcome] at decoded
    have encoded := Utf8.decode_eq_ok_iff.mp outcome
    refine exact_of_read decoded ?_ (written text encoded)
    intro other again
    rw [present] at again
    cases again
    exact ⟨text, encoded⟩

/-- The text of a payload with its terminator is decoded without it. -/
theorem payloadText_finished (payload : Bytes) :
    payloadText (payload ++ [terminator]) = (Utf8.decode payload).mapError .notText := by
  simp [payloadText, body]

/-- A text encoded without terminators holds no NUL. -/
theorem unbroken_of_encode {text : Text} (clear : terminator ∉ Utf8.encode text) :
    Unbroken text :=
  fun broken => clear (Utf8.terminator_mem_encode text broken)

/-- A text whose encoding begins above the tags begins with such a character. -/
theorem first_of_encode {text : Text} {lead : UInt8} {body : Bytes} (untagged : 8 ≤ lead.toNat)
    (encoded : Utf8.encode text = lead :: body) :
    ∃ first rest, text = first :: rest ∧ 8 ≤ first.toNat := by
  cases text with
  | nil => cases encoded
  | cons first rest =>
    refine ⟨first, rest, rfl, ?_⟩
    rcases Utf8.encodeChar_cases first with ⟨ascii, single⟩ | ⟨large, -⟩
    · change String.utf8EncodeChar first ++ Utf8.encode rest = _ at encoded
      rw [single, List.singleton_append, List.cons.injEq] at encoded
      rw [← encoded.1, Utf8.toNat_ofNat_byte (by omega)] at untagged
      exact untagged
    · omega

/-- What stands between two separators holds none, and only what the text holds. -/
theorem mem_splitOn (separator : Char) (text : Text) :
    ∀ piece ∈ text.splitOn separator, separator ∉ piece ∧ piece ⊆ text := by
  induction text with
  | nil => simp
  | cons character rest inductionHypothesis =>
    rw [List.splitOn_cons_eq_if_modifyHead]
    split
    · intro piece member
      rcases List.mem_cons.mp member with rfl | later
      · simp
      · obtain ⟨clear, inside⟩ := inductionHypothesis piece later
        exact ⟨clear, List.subset_cons_of_subset _ inside⟩
    · next differs =>
      cases pieces : rest.splitOn separator with
      | nil => exact absurd pieces (List.splitOn_ne_nil _ _)
      | cons first others =>
        rw [pieces, List.forall_mem_cons] at inductionHypothesis
        obtain ⟨⟨clear, inside⟩, remaining⟩ := inductionHypothesis
        rw [List.modifyHead_cons, List.forall_mem_cons]
        refine ⟨⟨?_, ?_⟩, ?_⟩
        · simpa [clear] using fun same : separator = character => differs (by simp [same])
        · exact List.cons_subset_cons _ inside
        · intro piece member
          obtain ⟨clear, inside⟩ := remaining piece member
          exact ⟨clear, List.subset_cons_of_subset _ inside⟩

/-- The decoder is exact on every whole frame.

The first byte of a frame tells its kind, to the splitter as to the decoder. -/
theorem exact_of_whole {frame : Bytes} (whole : Whole frame) : Exact frame := by
  cases whole with
  | @single lead row =>
    have admits := Lead.ofByte_admits lead
    rw [row] at admits
    rcases admits with rfl | rfl | rfl | rfl
    · exact exact_of_short rfl (rfl : decode _ = .ok .ok) ⟨trivial, rfl⟩
    · exact exact_of_short rfl (rfl : decode _ = .ok .regexFull) ⟨trivial, rfl⟩
    · exact exact_of_short rfl (rfl : decode _ = .ok .invalidChar) ⟨trivial, rfl⟩
    · exact exact_of_short rfl (rfl : decode _ = .ok .regexStart) ⟨trivial, rfl⟩
  | @pair lead second row =>
    have admits := Lead.ofByte_admits lead
    rw [row] at admits
    cases admits
    exact exact_of_short rfl (rfl : decode _ = .ok (.cursorHandle second)) ⟨trivial, rfl⟩
  | terminated unfinished =>
    obtain ⟨lead, body, rfl, runsOn, clear⟩ := unfinished
    have admits := Lead.ofByte_admits lead
    cases row : Lead.ofByte lead with
    | single | pair | noise => simp [row, Lead.runsOn] at runsOn
    | tagged =>
      rw [row] at admits
      have present : textBytes? (lead :: body ++ [terminator]) = some body := by
        simp [textBytes?, row]
      rcases admits with rfl | rfl
      · refine exact_of_text .error present ?_ ?_
        · rw [← payloadText_finished]
          rfl
        · rintro text rfl
          exact ⟨unbroken_of_encode clear, rfl⟩
      · refine exact_of_text (fun list => .capabilities (capabilityNames list)) present ?_ ?_
        · rw [← payloadText_finished]
          rfl
        · rintro text rfl
          have pieces := mem_splitOn ';' text
          have unbroken := unbroken_of_encode clear
          refine ⟨?_, text.splitOn ';', fun name member => (pieces name member).1, rfl, ?_⟩
          · intro name member
            obtain ⟨inside, nonempty⟩ := List.mem_filter.mp member
            obtain ⟨apart, part⟩ := pieces name inside
            exact ⟨by simpa using nonempty, apart, fun broken => unbroken (part broken)⟩
          · rw [encode, List.intercalate_splitOn]
    | text =>
      rw [row] at admits
      have present : textBytes? (lead :: body ++ [terminator]) = some (lead :: body) := by
        simp [textBytes?, row, List.dropLast_cons_of_ne_nil]
      refine exact_of_text .expanded present ?_ ?_
      · rw [← payloadText_finished]
        exact decode_untagged lead _ admits
      · intro text encoded
        have absent : terminator ∉ Utf8.encode text := by
          rw [encoded]
          exact Unfinished.terminator_absent ⟨lead, body, rfl, runsOn, clear⟩
        refine ⟨⟨unbroken_of_encode absent, first_of_encode admits encoded⟩, ?_⟩
        change lead :: body ++ [terminator] = Utf8.encode text ++ [terminator]
        rw [encoded]

open Splitter in
/-- Decoding is exact on everything that a splitter emits, with any limit and in any history of
pieces that arrive and looks at the buffer, those at the end of the stream included. It fails just
on a frame with a text that is not UTF-8, never for want of a byte. What it reads holds no NUL, no
empty text, no tag at the head of a text and no empty name, and is written as that frame again, but
for empty names. -/
theorem decodes_emitted (limit : Nat) (accesses : List Access) (frame : Bytes)
    (emitted : frame ∈ (serveAll accesses (ofLimit limit) []).1) :
    ((∃ fault, decode frame = .error fault) ↔
        ∃ payload, textBytes? frame = some payload ∧ ∀ text, Utf8.encode text ≠ payload) ∧
      (∀ fault, decode frame = .error fault → ∃ cause, fault = .notText cause) ∧
      ∀ reply, decode frame = .ok reply → reply.Writable ∧ reply.Retells frame := by
  have fits : (ofLimit limit).Coherent [] := .of_unsearched _ _ rfl
  obtain ⟨fails_iff, fault, reads⟩ := exact_of_whole (serveAll_whole accesses fits frame emitted)
  exact ⟨fails_iff, fault, reads⟩

/-- A list of names with empty ones is read without them, and written with them; a text that is cut
inside a character is refused. -/
theorem decodes_emitted_names :
    let accesses : List Splitter.Access :=
      [.arrive [7, 3, 59, 65], .look, .arrive [59, 0, 8, 195, 0], .look, .lookAtEnd]
    let emitted := (Splitter.serveAll accesses (Splitter.ofLimit 9) []).1
    emitted = [[3, 59, 65, 59, 0], [8, 195, 0]] ∧
      decode [3, 59, 65, 59, 0] = .ok (.capabilities [['A']]) ∧
      (capabilities [['A']]).Writable ∧ (capabilities [['A']]).Retells [3, 59, 65, 59, 0] ∧
      ∀ text, Utf8.encode text ≠ [8, 195] := by
  intro accesses emitted
  have names : decode [3, 59, 65, 59, 0] = .ok (.capabilities [['A']]) := rfl
  have first := decodes_emitted 9 accesses [3, 59, 65, 59, 0] (by decide)
  have second := decodes_emitted 9 accesses [8, 195, 0] (by decide)
  obtain ⟨payload, present, foreign⟩ := second.1.mp ⟨.notText (.incomplete 1), rfl⟩
  obtain rfl : [8, 195] = payload := Option.some.inj present
  exact ⟨by decide, names, (first.2.2 _ names).1, (first.2.2 _ names).2, foreign⟩

end Reply

end Typeahead
