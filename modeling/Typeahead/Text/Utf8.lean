import Typeahead.Text.Basic

/-!
# UTF-8

`encode` writes text as bytes and `decode` reads it back. Decoding walks the bytes
once and keeps only the character under way, so a byte string is refused at the
first byte that cannot continue it, and the refusal names the place where the bad
sequence begins.

The lead byte bounds the byte after it. These bounds keep out overlong forms,
surrogates and values above U+10FFFF; every later byte ranges over 80 to BF.
-/

namespace Typeahead.Utf8

/-- Why bytes are not UTF-8. Both causes name the index where the sequence that
    cannot be completed starts. -/
inductive Malformed where
  /-- A byte that does not continue the sequence: the first `length` bytes are the
      longest part of it that could still have begun a character. -/
  | invalid (start length : Nat)
  /-- The bytes end inside a character. -/
  | incomplete (start : Nat)
deriving Repr, DecidableEq

/-- The sentence that reports a malformed byte string. -/
def Malformed.message : Malformed → String
  | .invalid start length =>
    "invalid utf-8 sequence of " ++ toString length ++ " bytes from index " ++ toString start
  | .incomplete start => "incomplete utf-8 byte sequence from index " ++ toString start

/-- UTF-8 bytes of a text. -/
def encode (text : Text) : Bytes :=
  text.flatMap String.utf8EncodeChar

/-- A character whose lead byte has been read and that still wants more bytes. -/
structure Pending where
  /-- Index of the lead byte. -/
  start : Nat
  /-- Bytes still to come, at least one. -/
  missing : Nat
  /-- Least value of the next byte. -/
  low : Nat
  /-- Greatest value of the next byte. -/
  high : Nat
  /-- Value of the bits read so far. -/
  value : Nat
deriving Repr, DecidableEq

/-- The character that a lead byte of 80 or more announces, if it announces one. -/
def Pending.ofLead? (start byte : Nat) : Option Pending :=
  if byte < 0xC2 then none
  else if byte < 0xE0 then some ⟨start, 1, 0x80, 0xBF, byte - 0xC0⟩
  else if byte = 0xE0 then some ⟨start, 2, 0xA0, 0xBF, 0⟩
  else if byte = 0xED then some ⟨start, 2, 0x80, 0x9F, 0xD⟩
  else if byte < 0xF0 then some ⟨start, 2, 0x80, 0xBF, byte - 0xE0⟩
  else if byte = 0xF0 then some ⟨start, 3, 0x90, 0xBF, 0⟩
  else if byte < 0xF4 then some ⟨start, 3, 0x80, 0xBF, byte - 0xF0⟩
  else if byte = 0xF4 then some ⟨start, 3, 0x80, 0x8F, 4⟩
  else none

/-- Decode the bytes from `index` on. `pending` is the character under way and
    `read` holds the characters already complete, last first. -/
def decodeFrom (index : Nat) (pending : Option Pending) (read : Text) :
    Bytes → Except Malformed Text
  | [] =>
    match pending with
    | none => .ok read.reverse
    | some character => .error (.incomplete character.start)
  | byte :: rest =>
    match pending with
    | none =>
      if byte.toNat < 0x80 then
        decodeFrom (index + 1) none (Char.ofNat byte.toNat :: read) rest
      else
        match Pending.ofLead? index byte.toNat with
        | none => .error (.invalid index 1)
        | some character => decodeFrom (index + 1) (some character) read rest
    | some character =>
      if character.low ≤ byte.toNat ∧ byte.toNat ≤ character.high then
        let value := character.value * 64 + (byte.toNat - 0x80)
        if character.missing = 1 then
          decodeFrom (index + 1) none (Char.ofNat value :: read) rest
        else
          decodeFrom (index + 1)
            (some ⟨character.start, character.missing - 1, 0x80, 0xBF, value⟩) read rest
      else .error (.invalid character.start (index - character.start))

/-- The text that bytes encode, or why they encode none. -/
def decode (bytes : Bytes) : Except Malformed Text :=
  decodeFrom 0 none [] bytes

end Typeahead.Utf8
