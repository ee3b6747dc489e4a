import Typeahead.Text.Utf8

/-!
# Text as bytes and back

Decoding reads every encoded text back, `decode_encode`, and it reads nothing else:
`decode_eq_ok_iff`. The decoder keeps a character under way, with bounds on the next byte
that depend on the lead byte; the lemmas `ofLead?_two` to `ofLead?_four` say for each
length of a sequence that the bounds admit the second byte of every character, and
`decodeFrom_char` puts the bytes of one character together. `Announces` says that the
bounds admit no more, so what is decoded begins with the bytes of a character
(`decodeFrom_begins`).

Two facts tie text to frames: the only character whose encoding holds a terminator is
the NUL itself, and a text whose first character is not kept for tags does not begin
with a tag.
-/

namespace Typeahead.Utf8

/-- A byte made from a number below 256 has that value. -/
theorem toNat_ofNat_byte {value : Nat} (small : value < 256) : (UInt8.ofNat value).toNat = value := by
  simp [Nat.mod_eq_of_lt small]

/-- The lead of a sequence of two bytes. -/
theorem ofLead?_two (start lead : Nat) (least : 0xC2 ≤ lead) (most : lead < 0xE0) :
    Pending.ofLead? start lead = some ⟨start, 1, 0x80, 0xBF, lead - 0xC0⟩ := by
  rw [Pending.ofLead?, if_neg (by omega), if_pos most]

/-- The lead of a sequence of three bytes admits a second byte that makes the sequence neither
overlong nor a surrogate. -/
theorem ofLead?_three (start lead second : Nat) (least : 0xE0 ≤ lead) (most : lead < 0xF0)
    (continues : 0x80 ≤ second ∧ second ≤ 0xBF) (long : lead = 0xE0 → 0xA0 ≤ second)
    (noSurrogate : lead = 0xED → second ≤ 0x9F) :
    ∃ low high, Pending.ofLead? start lead = some ⟨start, 2, low, high, lead - 0xE0⟩ ∧
      low ≤ second ∧ second ≤ high := by
  rw [Pending.ofLead?, if_neg (by omega), if_neg (by omega)]
  by_cases first : lead = 0xE0
  · exact ⟨0xA0, 0xBF, by simp [first], long first, continues.2⟩
  · rw [if_neg first]
    by_cases surrogates : lead = 0xED
    · exact ⟨0x80, 0x9F, by simp [surrogates], continues.1, noSurrogate surrogates⟩
    · rw [if_neg surrogates, if_pos most]
      exact ⟨0x80, 0xBF, rfl, continues⟩

/-- The lead of a sequence of four bytes admits a second byte that makes the sequence neither
overlong nor greater than any character. -/
theorem ofLead?_four (start lead second : Nat) (least : 0xF0 ≤ lead) (most : lead ≤ 0xF4)
    (continues : 0x80 ≤ second ∧ second ≤ 0xBF) (long : lead = 0xF0 → 0x90 ≤ second)
    (inside : lead = 0xF4 → second ≤ 0x8F) :
    ∃ low high, Pending.ofLead? start lead = some ⟨start, 3, low, high, lead - 0xF0⟩ ∧
      low ≤ second ∧ second ≤ high := by
  rw [Pending.ofLead?, if_neg (by omega), if_neg (by omega), if_neg (by omega), if_neg (by omega),
    if_neg (by omega)]
  by_cases first : lead = 0xF0
  · exact ⟨0x90, 0xBF, by simp [first], long first, continues.2⟩
  · rw [if_neg first]
    by_cases last : lead = 0xF4
    · exact ⟨0x80, 0x8F, by simp [last], continues.1, inside last⟩
    · rw [if_pos (by omega)]
      exact ⟨0x80, 0xBF, rfl, continues⟩

/-- The last byte of a character completes it. -/
theorem decodeFrom_last (index start low high value byte : Nat) (read : Text) (rest : Bytes)
    (small : byte < 256) (admitted : low ≤ byte ∧ byte ≤ high) :
    decodeFrom index (some ⟨start, 1, low, high, value⟩) read (UInt8.ofNat byte :: rest) =
      decodeFrom (index + 1) none (Char.ofNat (value * 64 + (byte - 0x80)) :: read) rest := by
  simp only [decodeFrom, toNat_ofNat_byte small, if_pos admitted, if_true]

/-- Any other byte behind the lead leaves the character under way. -/
theorem decodeFrom_middle (index start missing low high value byte : Nat) (read : Text)
    (rest : Bytes) (small : byte < 256) (admitted : low ≤ byte ∧ byte ≤ high) (more : 2 ≤ missing) :
    decodeFrom index (some ⟨start, missing, low, high, value⟩) read (UInt8.ofNat byte :: rest) =
      decodeFrom (index + 1)
        (some ⟨start, missing - 1, 0x80, 0xBF, value * 64 + (byte - 0x80)⟩) read rest := by
  have notLast : missing ≠ 1 := by omega
  simp only [decodeFrom, toNat_ofNat_byte small, if_pos admitted, if_neg notLast]

/-- A lead byte begins the character that it announces. -/
theorem decodeFrom_lead (index lead : Nat) (read : Text) (rest : Bytes) (small : lead < 256)
    (large : 0x80 ≤ lead) {pending : Pending} (announced : Pending.ofLead? index lead = some pending) :
    decodeFrom index none read (UInt8.ofNat lead :: rest) =
      decodeFrom (index + 1) (some pending) read rest := by
  have notAscii : ¬ lead < 0x80 := by omega
  simp only [decodeFrom, toNat_ofNat_byte small, if_neg notAscii, announced]

/-- The value of a character is that of no surrogate and at most U+10FFFF. -/
theorem value_bounds (character : Char) :
    character.val.toNat < 0xD800 ∨ 0xDFFF < character.val.toNat ∧ character.val.toNat < 0x110000 :=
  character.valid

/-- The bytes of one character are read as that character.

The four cases are the lengths of a sequence. In each of them the lead byte and the bytes behind
it carry six bits each of the value, from the top down. -/
theorem decodeFrom_char (index : Nat) (read : Text) (character : Char) (rest : Bytes) :
    decodeFrom index none read (String.utf8EncodeChar character ++ rest) =
      decodeFrom (index + (String.utf8EncodeChar character).length) none (character :: read) rest := by
  have valid := value_bounds character
  have same : Char.ofNat character.val.toNat = character := Char.ofNat_toNat character
  rw [String.utf8EncodeChar]
  generalize character.val.toNat = value at valid same
  by_cases one : value ≤ 0x7F
  · have ascii : value < 0x80 := by omega
    rw [if_pos one]
    simp only [List.cons_append, List.nil_append, decodeFrom,
      toNat_ofNat_byte (show value < 256 by omega), if_pos ascii, same, List.length_singleton]
  rw [if_neg one]
  by_cases two : value ≤ 0x7FF
  · have announced := ofLead?_two index (value / 64 % 32 + 192) (by omega) (by omega)
    have assembled : (value / 64 % 32 + 192 - 0xC0) * 64 + (value % 64 + 128 - 0x80) = value := by
      omega
    rw [if_pos two]
    simp only [List.cons_append, List.nil_append]
    rw [decodeFrom_lead _ _ _ _ (by omega) (by omega) announced,
      decodeFrom_last _ _ _ _ _ _ _ _ (by omega) (by omega), assembled, same]
    rfl
  rw [if_neg two]
  by_cases three : value ≤ 0xFFFF
  · obtain ⟨low, high, announced, admitted⟩ := ofLead?_three index (value / 4096 % 16 + 224)
      (value / 64 % 64 + 128) (by omega) (by omega) (by omega) (by omega) (by omega)
    have assembled : ((value / 4096 % 16 + 224 - 0xE0) * 64 + (value / 64 % 64 + 128 - 0x80)) * 64 +
        (value % 64 + 128 - 0x80) = value := by omega
    rw [if_pos three]
    simp only [List.cons_append, List.nil_append]
    rw [decodeFrom_lead _ _ _ _ (by omega) (by omega) announced,
      decodeFrom_middle _ _ _ _ _ _ _ _ _ (by omega) admitted (by omega),
      decodeFrom_last _ _ _ _ _ _ _ _ (by omega) (by omega), assembled, same]
    rfl
  · obtain ⟨low, high, announced, admitted⟩ := ofLead?_four index (value / 262144 % 8 + 240)
      (value / 4096 % 64 + 128) (by omega) (by omega) (by omega) (by omega) (by omega)
    have assembled : (((value / 262144 % 8 + 240 - 0xF0) * 64 + (value / 4096 % 64 + 128 - 0x80)) * 64 +
        (value / 64 % 64 + 128 - 0x80)) * 64 + (value % 64 + 128 - 0x80) = value := by omega
    rw [if_neg three]
    simp only [List.cons_append, List.nil_append]
    rw [decodeFrom_lead _ _ _ _ (by omega) (by omega) announced,
      decodeFrom_middle _ _ _ _ _ _ _ _ _ (by omega) admitted (by omega),
      decodeFrom_middle _ _ _ _ _ _ _ _ _ (by omega) (by omega) (by omega),
      decodeFrom_last _ _ _ _ _ _ _ _ (by omega) (by omega), assembled, same]
    rfl

/-- An encoded text is read character by character. -/
theorem decodeFrom_encode (index : Nat) (read text : Text) :
    decodeFrom index none read (encode text) = .ok (read.reverse ++ text) := by
  induction text generalizing index read with
  | nil => simp [encode, decodeFrom]
  | cons character rest inductionHypothesis =>
    have bytes : encode (character :: rest) = String.utf8EncodeChar character ++ encode rest := rfl
    rw [bytes, decodeFrom_char, inductionHypothesis]
    simp

/-- Every text is read back from its encoding. -/
theorem decode_encode (text : Text) : decode (encode text) = .ok text :=
  decodeFrom_encode 0 [] text

/-- A number that some character has for its value is the value of the character made from it. -/
theorem val_ofNat {value : Nat} (valid : value.isValidChar) :
    (Char.ofNat value).val.toNat = value := by
  rw [Char.ofNat, dif_pos valid]
  rfl

/-- What a lead byte announces: how many bytes, the bounds of the first of them, and the bits that
it brings itself. -/
inductive Announces (start lead : Nat) : Pending → Prop where
  /-- One more byte, for a value that one byte cannot carry. -/
  | two (least : 0xC2 ≤ lead) (most : lead < 0xE0) :
      Announces start lead ⟨start, 1, 0x80, 0xBF, lead - 0xC0⟩
  /-- Two more bytes, for a value that two cannot carry, and for no surrogate. -/
  | three (low high : Nat) (least : 0xE0 ≤ lead) (most : lead < 0xF0)
      (continues : 0x80 ≤ low ∧ high ≤ 0xBF) (long : lead = 0xE0 → 0xA0 ≤ low)
      (noSurrogate : lead = 0xED → high ≤ 0x9F) :
      Announces start lead ⟨start, 2, low, high, lead - 0xE0⟩
  /-- Three more bytes, for a value that three cannot carry, and at most the greatest. -/
  | four (low high : Nat) (least : 0xF0 ≤ lead) (most : lead ≤ 0xF4)
      (continues : 0x80 ≤ low ∧ high ≤ 0xBF) (long : lead = 0xF0 → 0x90 ≤ low)
      (inside : lead = 0xF4 → high ≤ 0x8F) :
      Announces start lead ⟨start, 3, low, high, lead - 0xF0⟩

/-- A lead byte announces nothing else. -/
theorem ofLead?_announces {start lead : Nat} {pending : Pending}
    (announced : Pending.ofLead? start lead = some pending) : Announces start lead pending := by
  unfold Pending.ofLead? at announced
  split at announced
  · cases announced
  split at announced
  · cases announced
    exact .two (by omega) (by omega)
  split at announced
  · next first =>
    cases announced
    subst first
    exact .three 0xA0 0xBF (by omega) (by omega) (by omega) (by omega) (by omega)
  split at announced
  · next surrogates =>
    cases announced
    subst surrogates
    exact .three 0x80 0x9F (by omega) (by omega) (by omega) (by omega) (by omega)
  split at announced
  · cases announced
    exact .three 0x80 0xBF (by omega) (by omega) (by omega) (by omega) (by omega)
  split at announced
  · next first =>
    cases announced
    subst first
    exact .four 0x90 0xBF (by omega) (by omega) (by omega) (by omega) (by omega)
  split at announced
  · cases announced
    exact .four 0x80 0xBF (by omega) (by omega) (by omega) (by omega) (by omega)
  split at announced
  · next last =>
    cases announced
    subst last
    exact .four 0x80 0x8F (by omega) (by omega) (by omega) (by omega) (by omega)
  · cases announced

/-- A character under way is continued by a byte within its bounds. -/
theorem decodeFrom_continued {index start missing low high value : Nat} {read text : Text}
    {bytes : Bytes}
    (decoded : decodeFrom index (some ⟨start, missing, low, high, value⟩) read bytes = .ok text) :
    ∃ byte rest, bytes = byte :: rest ∧ low ≤ byte.toNat ∧ byte.toNat ≤ high ∧
      (if missing = 1 then
        decodeFrom (index + 1) none (Char.ofNat (value * 64 + (byte.toNat - 0x80)) :: read) rest
      else
        decodeFrom (index + 1)
          (some ⟨start, missing - 1, 0x80, 0xBF, value * 64 + (byte.toNat - 0x80)⟩) read rest) =
        .ok text := by
  cases bytes with
  | nil => cases decoded
  | cons byte rest =>
    simp only [decodeFrom] at decoded
    split at decoded
    · next admitted => exact ⟨byte, rest, rfl, admitted.1, admitted.2, decoded⟩
    · cases decoded

/-- The bytes of the character that has a number for its value. -/
theorem encodeChar_eq {value : Nat}
    (valid : value < 0xD800 ∨ 0xDFFF < value ∧ value < 0x110000) :
    String.utf8EncodeChar (Char.ofNat value) =
      if value ≤ 0x7F then [UInt8.ofNat value]
      else if value ≤ 0x7FF then
        [UInt8.ofNat (value / 64 % 32 + 192), UInt8.ofNat (value % 64 + 128)]
      else if value ≤ 0xFFFF then
        [UInt8.ofNat (value / 4096 % 16 + 224), UInt8.ofNat (value / 64 % 64 + 128),
          UInt8.ofNat (value % 64 + 128)]
      else
        [UInt8.ofNat (value / 262144 % 8 + 240), UInt8.ofNat (value / 4096 % 64 + 128),
          UInt8.ofNat (value / 64 % 64 + 128), UInt8.ofNat (value % 64 + 128)] := by
  simp only [String.utf8EncodeChar, val_ofNat valid]

/-- A byte is the one made from a number that is its value. -/
theorem ofNat_eq_byte (byte : UInt8) {value : Nat} (same : value = byte.toNat) :
    UInt8.ofNat value = byte := by
  rw [same, UInt8.ofNat_toNat]

/-- What is decoded begins with the bytes of a character.

The cases are again the lengths of a sequence. In each of them the bounds on the bytes keep the value
among those that are encoded in this length, so that every byte is found in it again. -/
theorem decodeFrom_begins {index : Nat} {read text : Text} {byte : UInt8} {rest : Bytes}
    (decoded : decodeFrom index none read (byte :: rest) = .ok text) :
    ∃ character next later, byte :: rest = String.utf8EncodeChar character ++ later ∧
      decodeFrom next none (character :: read) later = .ok text := by
  simp only [decodeFrom] at decoded
  split at decoded
  · next ascii =>
    refine ⟨_, _, rest, ?_, decoded⟩
    rw [encodeChar_eq (by omega), if_pos (by omega), ofNat_eq_byte byte rfl]
    rfl
  cases announced : Pending.ofLead? index byte.toNat with
  | none => simp [announced] at decoded
  | some pending =>
    simp only [announced] at decoded
    cases ofLead?_announces announced with
    | two least most =>
      obtain ⟨second, rest, rfl, leastSecond, mostSecond, continued⟩ := decodeFrom_continued decoded
      refine ⟨_, _, rest, ?_, continued⟩
      rw [encodeChar_eq (by omega), if_neg (by omega), if_pos (by omega),
        ofNat_eq_byte byte (by omega), ofNat_eq_byte second (by omega)]
      rfl
    | three low high least most continues long noSurrogate =>
      obtain ⟨second, rest, rfl, leastSecond, mostSecond, continued⟩ := decodeFrom_continued decoded
      obtain ⟨third, rest, rfl, leastThird, mostThird, done⟩ := decodeFrom_continued continued
      refine ⟨_, _, rest, ?_, done⟩
      rw [encodeChar_eq (by omega), if_neg (by omega), if_neg (by omega), if_pos (by omega),
        ofNat_eq_byte byte (by omega), ofNat_eq_byte second (by omega),
        ofNat_eq_byte third (by omega)]
      rfl
    | four low high least most continues long inside =>
      obtain ⟨second, rest, rfl, leastSecond, mostSecond, continued⟩ := decodeFrom_continued decoded
      obtain ⟨third, rest, rfl, leastThird, mostThird, further⟩ := decodeFrom_continued continued
      obtain ⟨fourth, rest, rfl, leastFourth, mostFourth, done⟩ := decodeFrom_continued further
      refine ⟨_, _, rest, ?_, done⟩
      rw [encodeChar_eq (by omega), if_neg (by omega), if_neg (by omega), if_neg (by omega),
        ofNat_eq_byte byte (by omega), ofNat_eq_byte second (by omega),
        ofNat_eq_byte third (by omega), ofNat_eq_byte fourth (by omega)]
      rfl

/-- Only encoded text is decoded. -/
theorem encode_of_decodeFrom {index : Nat} {read text : Text} {bytes : Bytes}
    (decoded : decodeFrom index none read bytes = .ok text) :
    ∃ more, text = read.reverse ++ more ∧ encode more = bytes := by
  induction size : bytes.length using Nat.strongRecOn generalizing index read bytes with
  | ind count inductionHypothesis =>
    cases bytes with
    | nil => exact ⟨[], by simpa [decodeFrom] using (Except.ok.inj decoded).symm, rfl⟩
    | cons byte rest =>
      obtain ⟨character, next, later, same, decodedLater⟩ := decodeFrom_begins decoded
      have some_byte : 0 < (String.utf8EncodeChar character).length :=
        List.length_pos_iff.mpr String.utf8EncodeChar_ne_nil
      have shorter : later.length < count := by
        rw [← size, same, List.length_append]
        omega
      obtain ⟨more, whole, encoded⟩ := inductionHypothesis _ shorter decodedLater rfl
      refine ⟨character :: more, by simp [whole], ?_⟩
      rw [same, ← encoded]
      rfl

/-- Decoding succeeds just on what encoding makes. -/
theorem decode_eq_ok_iff {bytes : Bytes} {text : Text} :
    decode bytes = .ok text ↔ encode text = bytes := by
  constructor
  · intro decoded
    obtain ⟨more, rfl, encoded⟩ := encode_of_decodeFrom decoded
    exact encoded
  · rintro rfl
    exact decode_encode text

/-- A character below U+0080 is encoded as the byte of its value; the bytes of any other one are
80 or more. -/
theorem encodeChar_cases (character : Char) :
    character.toNat < 0x80 ∧
        String.utf8EncodeChar character = [UInt8.ofNat character.toNat] ∨
      0x80 ≤ character.toNat ∧ ∃ lead body, String.utf8EncodeChar character = lead :: body ∧
        ∀ byte ∈ lead :: body, 0x80 ≤ byte.toNat := by
  have value : character.toNat = character.val.toNat := rfl
  have valid := value_bounds character
  rw [value, String.utf8EncodeChar]
  generalize character.val.toNat = value at valid
  have large : ∀ byte, 0x80 ≤ byte → byte < 256 → 0x80 ≤ (UInt8.ofNat byte).toNat := by
    intro byte least small
    rw [toNat_ofNat_byte small]
    exact least
  by_cases one : value ≤ 0x7F
  · rw [if_pos one]
    exact .inl ⟨by omega, rfl⟩
  · rw [if_neg one]
    refine .inr ⟨by omega, ?_⟩
    split
    · refine ⟨_, _, rfl, ?_⟩
      simp only [List.forall_mem_cons, List.not_mem_nil, false_implies, implies_true, and_true]
      exact ⟨large _ (by omega) (by omega), large _ (by omega) (by omega)⟩
    · split
      · refine ⟨_, _, rfl, ?_⟩
        simp only [List.forall_mem_cons, List.not_mem_nil, false_implies, implies_true, and_true]
        exact ⟨large _ (by omega) (by omega), large _ (by omega) (by omega),
          large _ (by omega) (by omega)⟩
      · refine ⟨_, _, rfl, ?_⟩
        simp only [List.forall_mem_cons, List.not_mem_nil, false_implies, implies_true, and_true]
        exact ⟨large _ (by omega) (by omega), large _ (by omega) (by omega),
          large _ (by omega) (by omega), large _ (by omega) (by omega)⟩

/-- A text without NUL is encoded without terminators. -/
theorem terminator_not_mem_encode (text : Text) (clear : Char.ofNat 0 ∉ text) :
    terminator ∉ encode text := by
  intro member
  obtain ⟨character, inside, byte⟩ := List.mem_flatMap.mp member
  rcases encodeChar_cases character with ⟨ascii, single⟩ | ⟨-, lead, body, several, large⟩
  · rw [single, List.mem_singleton] at byte
    have zero := congrArg UInt8.toNat byte
    rw [toNat_ofNat_byte (by omega)] at zero
    apply clear
    rw [show (0 : Nat) = character.toNat from zero, Char.ofNat_toNat]
    exact inside
  · rw [several] at byte
    have impossible := large terminator byte
    exact absurd impossible (by decide)

/-- A NUL in a text is a terminator in its encoding. -/
theorem terminator_mem_encode (text : Text) (broken : Char.ofNat 0 ∈ text) :
    terminator ∈ encode text :=
  List.mem_flatMap.mpr ⟨Char.ofNat 0, broken, by decide⟩

/-- A text whose first character is not below `least` has no first byte below it either, as long as
`least` is not above the single bytes. -/
theorem encode_lead (character : Char) (rest : Text) (least : Nat) (small : least ≤ 0x80)
    (allowed : least ≤ character.toNat) :
    ∃ lead body, encode (character :: rest) = lead :: body ∧ least ≤ lead.toNat := by
  have bytes : encode (character :: rest) = String.utf8EncodeChar character ++ encode rest := rfl
  rw [bytes]
  rcases encodeChar_cases character with ⟨ascii, single⟩ | ⟨-, lead, body, several, large⟩
  · refine ⟨_, encode rest, by rw [single]; rfl, ?_⟩
    rw [toNat_ofNat_byte (by omega)]
    exact allowed
  · refine ⟨lead, body ++ encode rest, by rw [several]; rfl, ?_⟩
    have first := large lead List.mem_cons_self
    omega

end Typeahead.Utf8
