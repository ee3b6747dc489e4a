import Typeahead.Engine.Request
import Typeahead.Proofs.Engine.Wire

/-!
# Requests on the wire

Requests are written one after another without lengths, and their kinds end in different
ways: a tag alone, a text through its terminator, or four bytes of which any may be zero.
`read?` is the engine's side of this: it takes one request off the head of what has
arrived, if that is there as a whole, and `readAll` goes on until nothing whole is left.

Both rely on what the constructors check. A language without NUL is not cut short by its
terminator, and a character that is not kept for tags is not taken for one; `Made` says
that a request has passed its check. Then each request is read as soon as its last byte
has arrived and no sooner, whatever comes behind it: `requests_told_apart`.
-/

namespace Typeahead

namespace Utf8

/-- The text before the first terminator and the bytes behind it, once the terminator has
arrived. -/
def terminated? (bytes : Bytes) : Option (Text × Bytes) :=
  if terminator ∈ bytes then
    match decode (bytes.takeWhile (· ≠ terminator)) with
    | .ok text => some (text, Framing.afterTerminator bytes)
    | .error _ => none
  else none

/-- A text without NUL is read through its terminator, and what follows stays. -/
theorem terminated?_encode (text : Text) (clear : Char.ofNat 0 ∉ text) (rest : Bytes) :
    terminated? (encode text ++ terminator :: rest) = some (text, rest) := by
  have before : ∀ byte ∈ encode text, decide (byte ≠ terminator) = true := by
    intro byte member
    simpa using fun same : byte = terminator => terminator_not_mem_encode text clear (same ▸ member)
  have taken : (encode text ++ terminator :: rest).takeWhile (· ≠ terminator) = encode text := by
    rw [List.takeWhile_append_of_pos before]
    simp
  have behind : Framing.afterTerminator (encode text ++ terminator :: rest) = rest := by
    rw [Framing.afterTerminator, List.dropWhile_append_of_pos before]
    simp
  have present : terminator ∈ encode text ++ terminator :: rest := by simp
  rw [terminated?, if_pos present, taken, decode_encode, behind]

/-- Nothing is read before the terminator has arrived. -/
theorem terminated?_of_clear {bytes : Bytes} (clear : terminator ∉ bytes) :
    terminated? bytes = none :=
  if_neg clear

end Utf8

namespace Request

/-- The requests that a session can be given: those that select a language or feed a character have
passed their check, and the others need none. -/
inductive Made : Request → Prop where
  | languages : Made .languages
  | revert : Made .revert
  | reset : Made .reset
  | setCursor (handle : UInt16) : Made (.setCursor handle)
  | start (language : Text) {request : Request} (checked : start? language = .ok request) :
      Made request
  | advance (typed : Text) {request : Request} (checked : advance? typed = .ok request) :
      Made request

/-- Take one request off the head of what has arrived, if all of it is there. -/
def read? : Bytes → Option (Request × Bytes)
  | [] => none
  | lead :: rest =>
    if lead = 1 then some (.languages, rest)
    else if lead = 3 then some (.revert, rest)
    else if lead = 4 then some (.reset, rest)
    else if lead = 5 then
      (Utf8.terminated? rest).map fun (language, rest) => (.start language, rest)
    else if lead = 6 then
      match rest with
      | high :: low :: _ :: rest =>
        some (.setCursor (UInt16.ofNat (high.toNat * 256 + low.toNat)), rest)
      | _ => none
    else
      match Utf8.terminated? (lead :: rest) with
      | some ([character], rest) => some (.advance character, rest)
      | _ => none

/-- Take at most `most` requests off the head of what has arrived. -/
def readUpTo : Nat → Bytes → List Request × Bytes
  | 0, bytes => ([], bytes)
  | most + 1, bytes =>
    match read? bytes with
    | none => ([], bytes)
    | some (request, rest) =>
      let (later, rest) := readUpTo most rest
      (request :: later, rest)

/-- Take every whole request off the head of what has arrived. Each of them has at least one
byte. -/
def readAll (bytes : Bytes) : List Request × Bytes :=
  readUpTo bytes.length bytes

/-- A request that selects a language has one without NUL. -/
theorem start?_ok {language : Text} {request : Request} (checked : start? language = .ok request) :
    request = .start language ∧ Char.ofNat 0 ∉ language := by
  unfold start? at checked
  split at checked
  · cases checked
  · next usable =>
    cases checked
    exact ⟨rfl, fun member => usable (.inr member)⟩

/-- A request that feeds a character has one that is not kept for tags. -/
theorem advance?_ok {typed : Text} {request : Request} (checked : advance? typed = .ok request) :
    ∃ character, request = .advance character ∧ reservedBelow ≤ character.toNat := by
  unfold advance? at checked
  split at checked
  · next character =>
    split at checked
    · cases checked
    · next allowed =>
      cases checked
      exact ⟨character, rfl, Nat.le_of_not_lt allowed⟩
  · cases checked

/-- The two bytes of a handle make it up again. -/
theorem handle_bytes (handle : UInt16) :
    UInt16.ofNat ((handle >>> 8).toUInt8.toNat * 256 + handle.toUInt8.toNat) = handle := by
  apply UInt16.toNat_inj.mp
  have small := handle.toNat_lt
  simp [UInt16.toNat_ofNat', Nat.shiftRight_eq_div_pow]
  omega

/-- A character that is not kept for tags is written without a tag at the head and without a
terminator. -/
theorem advance_bytes (character : Char) (allowed : reservedBelow ≤ character.toNat) :
    ∃ lead body, Utf8.encode [character] = lead :: body ∧ 8 ≤ lead.toNat ∧
      Char.ofNat 0 ∉ [character] := by
  obtain ⟨lead, body, bytes, untagged⟩ := Utf8.encode_lead character [] 8 (by omega) allowed
  refine ⟨lead, body, bytes, untagged, ?_⟩
  rw [List.mem_singleton]
  rintro rfl
  exact absurd allowed (by decide)

/-- Bytes behind a lead that is no tag are read as a text of one character. -/
theorem read?_untagged {lead : UInt8} (untagged : 8 ≤ lead.toNat) (rest : Bytes) :
    read? (lead :: rest) =
      match Utf8.terminated? (lead :: rest) with
      | some ([character], rest) => some (.advance character, rest)
      | _ => none := by
  simp [read?, Reply.ne_tag untagged]

/-- A request that has arrived is read, and what follows stays, whatever it is. -/
theorem read?_encode {request : Request} (made : request.Made) (rest : Bytes) :
    read? (request.encode ++ rest) = some (request, rest) := by
  cases made with
  | languages | revert | reset => rfl
  | setCursor handle =>
    have whole := handle_bytes handle
    simp only [encode, List.cons_append, List.nil_append, read?]
    rw [whole]
    rfl
  | start language checked =>
    obtain ⟨rfl, clear⟩ := start?_ok checked
    have text := Utf8.terminated?_encode language clear rest
    simp [encode, read?, text]
  | advance typed checked =>
    obtain ⟨character, rfl, allowed⟩ := advance?_ok checked
    obtain ⟨lead, body, bytes, untagged, clear⟩ := advance_bytes character allowed
    have text := Utf8.terminated?_encode [character] clear rest
    have whole : encode (.advance character) ++ rest = lead :: (body ++ terminator :: rest) := by
      simp [encode, bytes]
    rw [bytes, List.cons_append] at text
    rw [whole, read?_untagged untagged, text]

/-- A text through its terminator holds no terminator as long as the last byte is missing. -/
theorem clear_of_part {body part : Bytes} (clear : terminator ∉ body)
    (begins : part <+: body ++ [terminator]) (missing : part ≠ body ++ [terminator]) :
    terminator ∉ part := by
  rcases List.prefix_concat_iff.mp begins with whole | inside
  · exact absurd whole missing
  · exact fun member => clear (inside.subset member)

/-- A request is not read before its last byte has arrived. -/
theorem read?_part {request : Request} (made : request.Made) {part : Bytes}
    (begins : part <+: request.encode) (missing : part ≠ request.encode) : read? part = none := by
  cases part with
  | nil => rfl
  | cons lead rest =>
    cases made with
    | languages | revert | reset =>
      obtain ⟨rfl, inside⟩ := List.cons_prefix_cons.mp begins
      exact absurd (by rw [List.prefix_nil.mp inside]; rfl) missing
    | setCursor handle =>
      obtain ⟨rfl, inside⟩ := List.cons_prefix_cons.mp begins
      match rest, inside with
      | [], _ | [_], _ | [_, _], _ => rfl
      | [high, low, last], inside =>
        refine absurd ?_ missing
        rw [encode, List.IsPrefix.eq_of_length inside rfl]
      | _ :: _ :: _ :: _ :: _, inside => simp at inside
    | start language checked =>
      obtain ⟨rfl, clear⟩ := start?_ok checked
      obtain ⟨rfl, inside⟩ := List.cons_prefix_cons.mp begins
      have unfinished := clear_of_part (Utf8.terminator_not_mem_encode language clear) inside
        fun whole => missing (by rw [whole]; rfl)
      simp [read?, Utf8.terminated?_of_clear unfinished]
    | advance typed checked =>
      obtain ⟨character, rfl, allowed⟩ := advance?_ok checked
      obtain ⟨first, body, bytes, untagged, clear⟩ := advance_bytes character allowed
      have unfinished := clear_of_part (Utf8.terminator_not_mem_encode _ clear) begins missing
      have same : first = lead := by
        rw [encode, bytes] at begins
        exact (List.cons_prefix_cons.mp begins).1.symm
      rw [read?_untagged (same ▸ untagged), Utf8.terminated?_of_clear unfinished]

/-- No request is written without a byte. -/
theorem encode_ne_nil (request : Request) : request.encode ≠ [] := by
  cases request <;> simp [encode]

/-- There are no more requests than bytes. -/
theorem length_le_encodeAll (requests : List Request) :
    requests.length ≤ (encodeAll requests).length := by
  induction requests with
  | nil => exact Nat.le_refl 0
  | cons request rest inductionHypothesis =>
    have positive : 0 < request.encode.length := List.length_pos_iff.mpr request.encode_ne_nil
    rw [encodeAll_cons, List.length_append, List.length_cons]
    omega

/-- Requests written one after another are read one after another, until what is left is not a whole
one. -/
theorem readUpTo_encodeAll (requests : List Request) (made : ∀ request ∈ requests, request.Made)
    {part : Bytes} (unread : read? part = none) (most : Nat) (enough : requests.length ≤ most) :
    readUpTo most (encodeAll requests ++ part) = (requests, part) := by
  induction requests generalizing most with
  | nil =>
    cases most with
    | zero => rfl
    | succ most => simp [encodeAll, readUpTo, unread]
  | cons request rest inductionHypothesis =>
    obtain ⟨firstMade, restMade⟩ := List.forall_mem_cons.mp made
    cases most with
    | zero => exact absurd enough (Nat.not_succ_le_zero _)
    | succ most =>
      have later := inductionHypothesis restMade most (Nat.le_of_succ_le_succ enough)
      rw [encodeAll_cons, List.append_assoc, readUpTo, read?_encode firstMade]
      simp only [later]

/-- What has arrived of a run of requests is read as those that have arrived as a whole. -/
theorem readAll_encodeAll (requests : List Request) (made : ∀ request ∈ requests, request.Made)
    {part : Bytes} (unread : read? part = none) :
    readAll (encodeAll requests ++ part) = (requests, part) := by
  apply readUpTo_encodeAll requests made unread
  rw [List.length_append]
  exact Nat.le_add_right_of_le (length_le_encodeAll requests)

/-- Whatever has arrived of a run of requests is a shorter run of them and less than the next one.
-/
theorem arrived_cases (requests : List Request) {arrived : Bytes}
    (begins : arrived <+: encodeAll requests) :
    ∃ whole part, whole <+: requests ∧ arrived = encodeAll whole ++ part ∧
      (part = [] ∨ ∃ next, whole ++ [next] <+: requests ∧ part <+: next.encode ∧
        part ≠ next.encode) := by
  induction requests generalizing arrived with
  | nil =>
    have nothing : arrived = [] := List.prefix_nil.mp begins
    exact ⟨[], [], List.prefix_rfl, nothing, .inl rfl⟩
  | cons request rest inductionHypothesis =>
    rw [encodeAll_cons] at begins
    rcases List.prefix_or_prefix_of_prefix begins (List.prefix_append request.encode _) with
      inside | ⟨later, rfl⟩
    · by_cases all : arrived = request.encode
      · exact ⟨[request], [], by simp, by simp [encodeAll, all], .inl rfl⟩
      · exact ⟨[], arrived, List.nil_prefix, rfl, .inr ⟨request, by simp, inside, all⟩⟩
    · have laterBegins := (List.prefix_append_right_inj _).mp begins
      obtain ⟨whole, part, shorter, rfl, left⟩ := inductionHypothesis laterBegins
      refine ⟨request :: whole, part, by simpa using shorter, by simp [encodeAll], ?_⟩
      rcases left with nothing | ⟨next, follows, inside, missing⟩
      · exact .inl nothing
      · exact .inr ⟨next, by simpa using follows, inside, missing⟩

/-- Runs of requests that have passed their checks are the same if they are written as the same
bytes. -/
theorem encodeAll_injective {first second : List Request}
    (firstMade : ∀ request ∈ first, request.Made)
    (secondMade : ∀ request ∈ second, request.Made) (same : encodeAll first = encodeAll second) :
    first = second := by
  have nothing : read? [] = none := rfl
  have firstRead := readAll_encodeAll first firstMade nothing
  have secondRead := readAll_encodeAll second secondMade nothing
  rw [same, secondRead] at firstRead
  exact (Prod.mk.inj firstRead).1.symm

/-- Requests that have passed their checks are told apart by their bytes. A run of them that is
written into one buffer comes behind what the buffer holds. Two runs that append the same bytes,
each to a buffer of its own, are the same, and no request is written as the beginning of another
one. Wherever a run is cut, what has arrived is read as the requests that have arrived as a whole,
each of them with its last byte, and the bytes left over are fewer than those of the request that
comes next. -/
theorem requests_told_apart (first second : List Request)
    (firstMade : ∀ request ∈ first, request.Made)
    (secondMade : ∀ request ∈ second, request.Made) :
    (∀ buffer, encodeAllInto first buffer = buffer ++ encodeAll first) ∧
      (∀ firstBuffer secondBuffer appended,
        encodeAllInto first firstBuffer = firstBuffer ++ appended →
        encodeAllInto second secondBuffer = secondBuffer ++ appended → first = second) ∧
      (encodeAll first = encodeAll second → first = second) ∧
      (∀ request ∈ first, ∀ other ∈ second, request.encode <+: other.encode → request = other) ∧
      ∀ arrived, arrived <+: encodeAll first →
        ∃ whole part, whole <+: first ∧ arrived = encodeAll whole ++ part ∧
          readAll arrived = (whole, part) ∧
          ∀ next, whole ++ [next] <+: first → part.length < next.encode.length := by
  have nothing : read? [] = none := rfl
  refine ⟨encodeAllInto_eq first, ?_, encodeAll_injective firstMade secondMade, ?_, ?_⟩
  · intro firstBuffer secondBuffer appended firstWritten secondWritten
    rw [encodeAllInto_eq, List.append_cancel_left_eq] at firstWritten secondWritten
    exact encodeAll_injective firstMade secondMade (firstWritten.trans secondWritten.symm)
  · rintro request member other otherMember ⟨rest, whole⟩
    have requestRead := read?_encode (firstMade request member) rest
    have otherRead := read?_encode (secondMade other otherMember) []
    rw [List.append_nil, ← whole, requestRead] at otherRead
    exact (Prod.mk.inj (Option.some.inj otherRead)).1
  · intro arrived begins
    obtain ⟨whole, part, shorter, rfl, left⟩ := arrived_cases first begins
    have wholeMade : ∀ request ∈ whole, request.Made :=
      fun request member => firstMade request (shorter.subset member)
    refine ⟨whole, part, shorter, rfl, readAll_encodeAll whole wholeMade ?_, ?_⟩
    · rcases left with rfl | ⟨next, follows, inside, missing⟩
      · exact nothing
      · exact read?_part (firstMade next (follows.subset (by simp))) inside missing
    · intro next follows
      rcases left with rfl | ⟨other, otherFollows, inside, missing⟩
      · exact List.length_pos_iff.mpr next.encode_ne_nil
      · have same : whole ++ [other] = whole ++ [next] :=
          (List.prefix_of_prefix_length_le otherFollows follows (by simp)).eq_of_length (by simp)
        obtain rfl : other = next := by simpa using same
        exact Nat.lt_of_le_of_ne inside.length_le fun size => missing (inside.eq_of_length size)

/-- A handle whose bytes look like terminators, a character of two bytes and a further request. -/
def zerosThen (last : Request) : List Request :=
  [.setCursor 0, .advance 'é', last]

/-- Such runs differ in their bytes if they differ in the last request, and cut inside the character
one of them is read up to the handle. -/
theorem zeros_told_apart :
    (∀ request ∈ zerosThen .revert, request.Made) ∧ (∀ request ∈ zerosThen .reset, request.Made) ∧
      encodeAll (zerosThen .revert) ≠ encodeAll (zerosThen .reset) ∧
      readAll [6, 0, 0, 0, 195] = ([.setCursor 0], [195]) := by
  have revertMade : ∀ request ∈ zerosThen .revert, request.Made := by
    simp only [zerosThen, List.forall_mem_cons, List.not_mem_nil, false_implies, implies_true,
      and_true]
    exact ⟨.setCursor 0, .advance ['é'] rfl, .revert⟩
  have resetMade : ∀ request ∈ zerosThen .reset, request.Made := by
    simp only [zerosThen, List.forall_mem_cons, List.not_mem_nil, false_implies, implies_true,
      and_true]
    exact ⟨.setCursor 0, .advance ['é'] rfl, .reset⟩
  have told := requests_told_apart (zerosThen .revert) (zerosThen .reset) revertMade resetMade
  exact ⟨revertMade, resetMade, fun same => absurd (told.2.2.1 same) (by decide), by decide⟩

end Request

end Typeahead
