import Typeahead.Proofs.Completion.Pipelining
import Typeahead.Proofs.Workspace.Rounds

/-!
# Typing ahead of the engine

A buffer keeps one anchor, that of the character typed last, and the first reply that is
applied takes it away. When several characters are typed before the first reply comes, each
reply after that one goes by the cursor, and a reply that edits the character it answers,
which it takes to stand right behind the place it goes by, finds what stands behind the
cursor there.

`typed_ahead_iff` says which runs come to no harm. The text behind the cursor is left alone
exactly if it is empty or each rejection and each expansion comes right behind a keystroke; and
each rejection takes away the character that it answers exactly if that character is
moreover the only one that awaits a reply. To be left alone is more than to stay the same: an
expansion may take a character away and put its equal in its place. Apart from such expansions
the two come to the same (`Desk.allSpare_iff_kept`).
-/

namespace Typeahead

/-- What stands behind the cursor. -/
def Buffer.behind (buffer : Buffer) : Text :=
  buffer.text.drop buffer.cursor

/-- Where changes made one after another carry the character at an offset. -/
def Change.carryAll : List Change → Nat → Option Nat
  | [], offset => some offset
  | change :: rest, offset => (change.carry offset).bind (carryAll rest)

/-- The reply is about the character typed last, to which it does something. -/
def Reply.EditsTyped : Reply → Prop
  | .invalidChar => True
  | .expanded _ => True
  | _ => False

namespace Desk

/-- The changes that an event makes. -/
def changes (desk : Desk) : Event → List Change
  | .typed character => desk.buffer.changes [.type character]
  | .answered reply => desk.buffer.changes (desk.operations reply)

/-- Each reply among some events is as required, given whether the event before it was a keystroke
and how many characters await their reply. A reply answers the one that has waited longest. -/
def EachAnswer (required : Bool → Nat → Reply → Prop) : Bool → Nat → List Event → Prop
  | _, _, [] => True
  | _, outstanding, .typed _ :: rest => EachAnswer required true (outstanding + 1) rest
  | fresh, outstanding, .answered reply :: rest =>
    required fresh outstanding reply ∧ EachAnswer required false (outstanding - 1) rest

/-- An event leaves alone what stands behind the cursor: no change reaches past the cursor, and the
text there stays the same. -/
def Spares (desk : Desk) (behind : Text) (event : Event) : Prop :=
  (∀ change ∈ desk.changes event, change.offset + change.removed ≤ desk.buffer.cursor) ∧
    (desk.step event).buffer.behind = behind

/-- Every event leaves alone what stands behind the cursor. -/
def AllSpare (behind : Text) : Desk → List Event → Prop
  | _, [] => True
  | desk, event :: rest => desk.Spares behind event ∧ AllSpare behind (desk.step event) rest

/-- Where the changes of an event carry characters, those that stand anywhere. -/
def carried (desk : Desk) (places : List (Option Nat)) (event : Event) : List (Option Nat) :=
  places.map (·.bind (Change.carryAll (desk.changes event)))

/-- Where the characters that await their reply stand after an event, the one that has waited
longest first. -/
def awaiting (desk : Desk) (places : List (Option Nat)) (event : Event) : List (Option Nat) :=
  match event with
  | .typed _ => desk.carried places event ++ [some desk.buffer.cursor]
  | .answered _ => (desk.carried places event).tail

/-- A rejection takes away the character that it answers, and nothing else. -/
def RejectsRightly (desk : Desk) (places : List (Option Nat)) : Event → Prop
  | .answered .invalidChar =>
    ∃ place, places.head? = some (some place) ∧
      desk.changes (.answered .invalidChar) = [⟨place, 1, []⟩]
  | _ => True

/-- Every rejection takes away the character that it answers. -/
def AllRejectRightly : Desk → List (Option Nat) → List Event → Prop
  | _, _, [] => True
  | desk, places, event :: rest =>
    desk.RejectsRightly places event ∧
      AllRejectRightly (desk.step event) (desk.awaiting places event) rest

end Desk

namespace Buffer

variable {buffer : Buffer}

/-- A change that ends at or before the cursor, seen from behind it. -/
theorem put_spares {change : Change} (ends : change.offset + change.removed ≤ buffer.cursor)
    (within : buffer.cursor ≤ buffer.length) (anchor : Option Nat) :
    (buffer.put change anchor).behind = buffer.behind ∧
      (buffer.put change anchor).cursor ≤ (buffer.put change anchor).length ∧
      (buffer.put change anchor).cursor = buffer.cursor - change.removed + change.text.length :=
  ⟨drop_put ends within anchor, cursor_put_le (Nat.le_trans ends within) within anchor,
    cursor_put ends anchor⟩

/-- What an effect has a buffer do is to put a text for a range. -/
theorem perform_effect (buffer : Buffer) {effect : Effect} {operation : Operation}
    (performs : effect.operation? = some operation) (upright : operation.Upright) :
    ∃ start stop inserted, start ≤ stop ∧
      buffer.perform operation =
        .ok (buffer.put (buffer.clamp start stop inserted) none,
          some (buffer.clamp start stop inserted)) := by
  cases effect with
  | showError message => cases performs
  | replace start stop inserted =>
    obtain rfl := Option.some.inj performs
    exact ⟨start, stop, inserted, upright, buffer.perform_replace upright inserted⟩
  | insert offset inserted =>
    obtain rfl := Option.some.inj performs
    exact ⟨offset, offset, inserted, Nat.le_refl _, buffer.perform_replace (Nat.le_refl _) inserted⟩
  | delete start stop =>
    obtain rfl := Option.some.inj performs
    exact ⟨start, stop, [], upright, buffer.perform_replace upright []⟩

/-- The effects of a reply leave the cursor in the text, and a character before the cursor before
it. -/
theorem afterAll_effects {operations : List Operation}
    (asked : ∀ operation ∈ operations, operation.Upright ∧
      ∃ effect : Effect, effect.operation? = some operation)
    (within : buffer.cursor ≤ buffer.length) :
    (buffer.afterAll operations).cursor ≤ (buffer.afterAll operations).length ∧
      ∀ offset < buffer.cursor, ∀ place,
        Change.carryAll (buffer.changes operations) offset = some place →
          place < (buffer.afterAll operations).cursor := by
  induction operations generalizing buffer with
  | nil =>
    refine ⟨within, fun offset before place carried => ?_⟩
    cases carried
    exact before
  | cons operation rest inductionHypothesis =>
    obtain ⟨upright, effect, performs⟩ := asked operation List.mem_cons_self
    obtain ⟨start, stop, inserted, ordered, performed⟩ :=
      buffer.perform_effect performs upright
    have inside : (buffer.clamp start stop inserted).offset +
        (buffer.clamp start stop inserted).removed ≤ buffer.length := by
      simp only [clamp]
      omega
    have stays := cursor_put_le inside within none
    obtain ⟨last, later⟩ := inductionHypothesis
      (fun other member => asked other (List.mem_cons_of_mem _ member)) stays
    simp only [afterAll, List.foldl_cons, after, changes, change?, performed, Option.toList_some]
    refine ⟨last, fun offset before place carried => ?_⟩
    obtain ⟨middle, first, others⟩ := Option.bind_eq_some_iff.mp carried
    exact later middle (carry_lt_cursor before first none) place others

end Buffer

namespace Desk

variable {desk : Desk} {behind : Text} {fresh : Bool}

/-- A desk with the span at or before the place that edits go by, which is the character typed last
when that was the event before, and the cursor otherwise. -/
structure Steady (behind : Text) (fresh : Bool) (desk : Desk) : Prop where
  within : desk.buffer.cursor ≤ desk.buffer.length
  behind : desk.buffer.behind = behind
  edits : desk.buffer.editCursor + fresh.toNat = desk.buffer.cursor
  span : desk.completion.spanStart ≤ desk.buffer.editCursor

/-- Typing is one change at the cursor. What stands behind the cursor is as it was, the cursor is
one further, and edits go by the character typed. -/
theorem typed_put (within : desk.buffer.cursor ≤ desk.buffer.length) (character : Char) :
    desk.changes (.typed character) = [⟨desk.buffer.cursor, 0, [character]⟩] ∧
      (desk.step (.typed character)).buffer.behind = desk.buffer.behind ∧
      (desk.step (.typed character)).buffer.cursor ≤ (desk.step (.typed character)).buffer.length ∧
      (desk.step (.typed character)).buffer.cursor = desk.buffer.cursor + 1 ∧
      (desk.step (.typed character)).buffer.editCursor = desk.buffer.cursor := by
  have clamped : desk.buffer.clamp desk.buffer.cursor desk.buffer.cursor [character] =
      ⟨desk.buffer.cursor, 0, [character]⟩ := by
    simp [Buffer.clamp, within]
  have performed := desk.buffer.perform_type character
  rw [clamped, Nat.min_eq_left within] at performed
  have changed : desk.changes (.typed character) = [⟨desk.buffer.cursor, 0, [character]⟩] := by
    simp [changes, Buffer.changes, Buffer.change?, performed]
  have buffer : (desk.step (.typed character)).buffer =
      desk.buffer.put ⟨desk.buffer.cursor, 0, [character]⟩ (some desk.buffer.cursor) := by
    simp only [step, Buffer.after, performed]
  have ends : (⟨desk.buffer.cursor, 0, [character]⟩ : Change).offset +
      (⟨desk.buffer.cursor, 0, [character]⟩ : Change).removed ≤ desk.buffer.cursor := Nat.le_refl _
  rw [buffer]
  exact ⟨changed, Buffer.drop_put ends within _, Buffer.cursor_put_le (Nat.le_trans ends within)
    within _, Buffer.cursor_put ends _, rfl⟩

/-- Typing leaves alone what stands behind the cursor. -/
theorem Steady.typed (steady : desk.Steady behind fresh) (character : Char) :
    desk.Spares behind (.typed character) ∧ (desk.step (.typed character)).Steady behind true := by
  obtain ⟨changed, kept, inside, cursor, anchored⟩ := typed_put steady.within character
  have before : desk.completion.spanStart ≤ desk.buffer.cursor :=
    Nat.le_trans steady.span (steady.edits ▸ Nat.le_add_right _ _)
  refine ⟨⟨fun change member => ?_, kept.trans steady.behind⟩, inside, kept.trans steady.behind,
    ?_, ?_⟩
  · rw [changed, List.mem_singleton] at member
    exact member ▸ Nat.le_refl _
  · rw [anchored, cursor]
    rfl
  · rw [anchored]
    exact before

/-- A reply that edits nothing is harmless. -/
theorem Steady.quiet (steady : desk.Steady behind fresh) {reply : Reply} {completion : Completion}
    {effects : List Effect}
    (applied : desk.completion.apply reply desk.buffer.editCursor = (completion, effects))
    (quiet : effects.filterMap Effect.operation? = [])
    (span : completion.spanStart ≤ desk.buffer.editCursor) :
    desk.Spares behind (.answered reply) ∧ (desk.step (.answered reply)).Steady behind false := by
  have nothing : desk.operations reply = [] := by rw [operations, applied, quiet]
  have stepped : desk.step (.answered reply) =
      ⟨completion, ⟨desk.buffer.text, desk.buffer.cursor, none⟩⟩ := by
    rw [step_answered rfl applied, quiet]
    rfl
  have before : completion.spanStart ≤ desk.buffer.cursor :=
    Nat.le_trans span (steady.edits ▸ Nat.le_add_right _ _)
  refine ⟨⟨?_, ?_⟩, ?_⟩
  · simp [changes, nothing, Buffer.changes]
  · rw [stepped]
    exact steady.behind
  · rw [stepped]
    exact ⟨steady.within, steady.behind, rfl, before⟩

/-- A reply that puts a text for a range makes that change and no other. -/
theorem step_put {reply : Reply} {completion : Completion} {effect : Effect}
    {operation : Buffer.Operation} {start stop : Nat} {inserted : Text}
    (applied : desk.completion.apply reply desk.buffer.editCursor = (completion, [effect]))
    (performs : effect.operation? = some operation)
    (puts : desk.buffer.perform operation = desk.buffer.perform (.replace start stop inserted))
    (ordered : start ≤ stop) :
    desk.changes (.answered reply) = [desk.buffer.clamp start stop inserted] ∧
      desk.step (.answered reply) =
        ⟨completion, desk.buffer.put (desk.buffer.clamp start stop inserted) none⟩ := by
  have performed := puts.trans (desk.buffer.perform_replace ordered inserted)
  constructor
  · simp [changes, operations, applied, performs, Buffer.changes, Buffer.change?, performed]
  · have put : desk.buffer.after operation =
        desk.buffer.put (desk.buffer.clamp start stop inserted) none := by
      rw [Buffer.after, performed]
    rw [step_answered rfl applied, List.filterMap_cons, performs]
    simp only [List.filterMap_nil, Buffer.afterAll, List.foldl_cons, List.foldl_nil, put]
    rfl

/-- A reply that puts a text for a range is harmless exactly if the range, as far as there is text,
ends at or before the cursor. If it goes one character further, the text behind the cursor stays the
same only if that character is put in its own place. -/
theorem Steady.puts (steady : desk.Steady behind fresh) {reply : Reply} {completion : Completion}
    {effect : Effect} {operation : Buffer.Operation} {start stop : Nat} {inserted : Text}
    (applied : desk.completion.apply reply desk.buffer.editCursor = (completion, [effect]))
    (performs : effect.operation? = some operation)
    (puts : desk.buffer.perform operation = desk.buffer.perform (.replace start stop inserted))
    (first : start ≤ desk.buffer.editCursor) (ordered : start ≤ stop)
    (span : completion.spanStart ≤ start + inserted.length) :
    (desk.Spares behind (.answered reply) ↔ min stop desk.buffer.length ≤ desk.buffer.cursor) ∧
      (min stop desk.buffer.length ≤ desk.buffer.cursor →
        (desk.step (.answered reply)).Steady behind false) ∧
      (stop ≤ desk.buffer.cursor + 1 → (desk.step (.answered reply)).buffer.behind = behind →
        min stop desk.buffer.length ≤ desk.buffer.cursor ∨ inserted = behind.take 1) := by
  have before : start ≤ desk.buffer.cursor :=
    Nat.le_trans first (steady.edits ▸ Nat.le_add_right _ _)
  have within := steady.within
  obtain ⟨changed, stepped⟩ := step_put applied performs puts ordered
  obtain ⟨change, put, offset, reach, text⟩ : ∃ change : Change,
      change = desk.buffer.clamp start stop inserted ∧ change.offset = start ∧
        change.offset + change.removed = min stop desk.buffer.length ∧ change.text = inserted := by
    refine ⟨_, rfl, ?_, ?_, rfl⟩
    · simp only [Buffer.clamp]
      omega
    · simp only [Buffer.clamp]
      omega
  rw [← put] at changed stepped
  have harmless : min stop desk.buffer.length ≤ desk.buffer.cursor →
      (desk.step (.answered reply)).Steady behind false := by
    intro ends
    obtain ⟨kept, inside, moved⟩ := Buffer.put_spares (reach ▸ ends) within none
    rw [stepped]
    have further : completion.spanStart ≤ (desk.buffer.put change none).editCursor := by
      have cursor : (desk.buffer.put change none).editCursor =
          desk.buffer.cursor - change.removed + inserted.length := text ▸ moved
      rw [cursor]
      omega
    exact ⟨inside, kept.trans steady.behind, rfl, further⟩
  refine ⟨⟨fun spares => ?_, fun ends => ⟨fun other member => ?_, (harmless ends).behind⟩⟩,
    harmless, fun near kept => ?_⟩
  · exact reach ▸ spares.1 change (changed ▸ List.mem_singleton_self _)
  · rw [changed, List.mem_singleton] at member
    rw [member, reach]
    exact ends
  · apply Decidable.or_iff_not_imp_left.mpr
    intro past
    rw [stepped] at kept
    obtain ⟨atCursor, same⟩ := Buffer.eq_take_of_drop_put (offset ▸ before)
      (reach ▸ Nat.lt_of_not_le past) (reach ▸ Nat.min_le_right _ _) none
      (kept.trans steady.behind.symm)
    have single : change.removed = 1 := by omega
    rw [← text, same, single]
    exact congrArg _ steady.behind

/-- With the latest request an advance, a reply that does not edit the character typed is harmless.
-/
theorem Steady.unedited (steady : desk.Steady behind fresh)
    (latest : desk.completion.lastRequest = some .advance) {reply : Reply}
    (other : ¬ reply.EditsTyped) :
    desk.Spares behind (.answered reply) ∧ (desk.step (.answered reply)).Steady behind false := by
  have span := steady.span
  cases reply with
  | ok =>
    refine steady.quiet (Completion.apply_ok_of_advance latest _) rfl ?_
    cases desk.completion.inRegex
    · exact span
    · exact Nat.le_refl _
  | error message => exact steady.quiet rfl rfl span
  | capabilities names => exact steady.quiet rfl rfl span
  | cursorHandle handle => exact steady.quiet rfl rfl span
  | regexStart => exact steady.quiet rfl rfl span
  | regexFull =>
    obtain ⟨applied, begins, -⟩ :=
      Completion.apply_regexFull_of_advance latest desk.buffer.editCursor
    obtain ⟨spares, next, -⟩ := steady.puts applied rfl rfl (Nat.le_refl _) (Nat.le_refl _)
      (Nat.le_of_eq begins)
    have edits := steady.edits
    have ends : min desk.buffer.editCursor desk.buffer.length ≤ desk.buffer.cursor := by omega
    exact ⟨spares.mpr ends, next ends⟩
  | invalidChar => exact absurd trivial other
  | expanded text => exact absurd trivial other

/-- With the latest request an advance, a reply leaves alone what stands behind the cursor exactly
if nothing stands there, or the reply comes right behind the keystroke if it edits the character
typed. A reply after which the same stands there leaves it alone, unless it is an expansion to the
first character there. -/
theorem Steady.answered (steady : desk.Steady behind fresh)
    (latest : desk.completion.lastRequest = some .advance) (reply : Reply) :
    (desk.Spares behind (.answered reply) ↔ behind = [] ∨ (reply.EditsTyped → fresh = true)) ∧
      (desk.Spares behind (.answered reply) →
        (desk.step (.answered reply)).Steady behind false) ∧
      ((∀ text, reply = .expanded text → text ≠ behind.take 1) →
        (desk.step (.answered reply)).buffer.behind = behind →
        desk.Spares behind (.answered reply)) := by
  have within := steady.within
  have edits := steady.edits
  have span := steady.span
  -- The character after the edit cursor is the typed one, or else the first one behind the cursor.
  have reaches : min (desk.buffer.editCursor + 1) desk.buffer.length ≤ desk.buffer.cursor ↔
      behind = [] ∨ fresh = true := by
    rw [← steady.behind, Buffer.behind, List.drop_eq_nil_iff]
    simp only [Buffer.length] at within ⊢
    cases fresh <;> simp at edits ⊢ <;> omega
  have near : desk.buffer.editCursor + 1 ≤ desk.buffer.cursor + 1 := by omega
  by_cases typed : reply.EditsTyped
  · cases reply with
    | invalidChar =>
      have applied : desk.completion.apply .invalidChar desk.buffer.editCursor =
          (desk.completion.expireWait,
            [.delete desk.buffer.editCursor (desk.buffer.editCursor + 1)]) := rfl
      obtain ⟨spares, next, stays⟩ :=
        steady.puts applied rfl rfl (Nat.le_refl _) (Nat.le_succ _) span
      refine ⟨by simp [spares, reaches, Reply.EditsTyped], fun spared => next (spares.mp spared),
        fun _ kept => spares.mpr ?_⟩
      rcases stays near kept with ends | nothing
      · exact ends
      · exact reaches.mpr (.inl (by simpa using nothing))
    | expanded text =>
      obtain ⟨applied, further, -⟩ :=
        Completion.apply_expanded_of_advance latest (Nat.le_succ_of_le span) text
      obtain ⟨spares, next, stays⟩ := steady.puts applied rfl rfl span (Nat.le_succ_of_le span)
        (Nat.le_of_eq further)
      exact ⟨by simp [spares, reaches, Reply.EditsTyped], fun spared => next (spares.mp spared),
        fun unlike kept => spares.mpr ((stays near kept).resolve_right (unlike text rfl))⟩
    | _ => exact typed.elim
  · obtain ⟨spares, next⟩ := steady.unedited latest typed
    exact ⟨iff_of_true spares (.inr fun edits => absurd edits typed), fun _ => next,
      fun _ _ => spares⟩

/-- A reply does not change which request was sent last. -/
theorem lastRequest_answered (desk : Desk) (reply : Reply) :
    (desk.step (.answered reply)).completion.lastRequest = desk.completion.lastRequest :=
  desk.completion.apply_lastRequest reply _

/-- What stands behind the cursor is left alone by a whole run exactly if nothing stands there, or
every reply that edits the character typed comes right behind the keystroke.

Induction on the events. A steady desk stays steady as long as nothing behind the cursor is touched,
and from the first touch on neither side can hold. -/
theorem allSpare_iff {outstanding : Nat} {events : List Event} (steady : desk.Steady behind fresh)
    (latest : 0 < outstanding → desk.completion.lastRequest = some .advance)
    (answering : EachAnswer (fun _ waiting _ => 0 < waiting) fresh outstanding events) :
    desk.AllSpare behind events ↔
      behind = [] ∨
        EachAnswer (fun newest _ reply => reply.EditsTyped → newest = true) fresh outstanding
          events := by
  induction events generalizing desk fresh outstanding with
  | nil => exact iff_of_true trivial (.inr trivial)
  | cons event rest inductionHypothesis =>
    cases event with
    | typed character =>
      obtain ⟨spares, next⟩ := steady.typed character
      exact (and_iff_right spares).trans (inductionHypothesis next (fun _ => rfl) answering)
    | answered reply =>
      obtain ⟨waits, later⟩ := answering
      obtain ⟨spares, next, -⟩ := steady.answered (latest waits) reply
      have kept := (desk.lastRequest_answered reply).trans (latest waits)
      have rest_iff := fun spared => inductionHypothesis (next spared) (fun _ => kept) later
      rw [AllSpare, and_congr_right rest_iff, spares, ← or_and_left]
      rfl

/-- As long as no reply is an expansion to the first character behind the cursor, what stands behind
the cursor is left alone by a whole run exactly if the same stands there at every point of the run.

Induction on the events. A run that leaves the text the same leaves it alone with its first event,
so that the desk is steady when the rest begins. -/
theorem allSpare_iff_kept {outstanding : Nat} {events : List Event}
    (steady : desk.Steady behind fresh)
    (latest : 0 < outstanding → desk.completion.lastRequest = some .advance)
    (answering : EachAnswer (fun _ waiting _ => 0 < waiting) fresh outstanding events)
    (unlike : ∀ text, .answered (.expanded text) ∈ events → text ≠ behind.take 1) :
    desk.AllSpare behind events ↔
      ∀ part, part <+: events → (desk.run part).buffer.behind = behind := by
  induction events generalizing desk fresh outstanding with
  | nil =>
    refine iff_of_true trivial fun part begins => ?_
    rw [List.prefix_nil.mp begins]
    exact steady.behind
  | cons event rest inductionHypothesis =>
    have later : ∀ text, .answered (.expanded text) ∈ rest → text ≠ behind.take 1 :=
      fun text member => unlike text (List.mem_cons_of_mem _ member)
    have points : (∀ part, part <+: event :: rest → (desk.run part).buffer.behind = behind) ↔
        ∀ part, part <+: rest → ((desk.step event).run part).buffer.behind = behind := by
      constructor
      · intro kept part begins
        exact kept (event :: part) (List.cons_prefix_cons.mpr ⟨rfl, begins⟩)
      · intro kept part begins
        rcases List.prefix_cons_iff.mp begins with rfl | ⟨shorter, rfl, inside⟩
        · exact steady.behind
        · exact kept shorter inside
    rw [points, AllSpare]
    cases event with
    | typed character =>
      obtain ⟨spares, next⟩ := steady.typed character
      exact (and_iff_right spares).trans (inductionHypothesis next (fun _ => rfl) answering later)
    | answered reply =>
      obtain ⟨waits, following⟩ := answering
      obtain ⟨-, next, stays⟩ := steady.answered (latest waits) reply
      have requested := (desk.lastRequest_answered reply).trans (latest waits)
      have rest_iff := fun spared =>
        inductionHypothesis (next spared) (fun _ => requested) following later
      rw [and_congr_right rest_iff, and_iff_right_iff_imp]
      intro kept
      exact stays (fun text same => unlike text (same ▸ List.mem_cons_self))
        (kept [] List.nil_prefix)

/-- The characters that await their reply stand before the cursor; the one typed last, when that was
the event before, stands where edits go by, and the others before it. -/
structure Tracked (places : List (Option Nat)) (fresh : Bool) (desk : Desk) : Prop where
  within : desk.buffer.cursor ≤ desk.buffer.length
  edits : desk.buffer.editCursor + fresh.toNat = desk.buffer.cursor
  before : ∀ place, some place ∈ places → place < desk.buffer.cursor
  last : fresh = true → ∃ earlier, places = earlier ++ [some desk.buffer.editCursor] ∧
    ∀ place, some place ∈ earlier → place < desk.buffer.editCursor

variable {places : List (Option Nat)}

/-- A character typed is the last one that awaits its reply. -/
theorem Tracked.typed (tracked : desk.Tracked places fresh) (character : Char) :
    (desk.step (.typed character)).Tracked (desk.awaiting places (.typed character)) true := by
  obtain ⟨changed, -, inside, cursor, anchored⟩ := typed_put tracked.within character
  have earlier : ∀ place, some place ∈ desk.carried places (.typed character) →
      place < desk.buffer.cursor := by
    intro place member
    obtain ⟨old, here, carried⟩ := List.mem_map.mp member
    obtain ⟨offset, rfl, follows⟩ := Option.bind_eq_some_iff.mp carried
    have stood := tracked.before offset here
    have stays : Change.carryAll (desk.changes (.typed character)) offset = some offset := by
      simp [changed, Change.carryAll, Change.carry, stood]
    exact Option.some.inj (stays.symm.trans follows) ▸ stood
  refine ⟨inside, ?_, fun place member => ?_, fun _ =>
    ⟨desk.carried places (.typed character), ?_, ?_⟩⟩
  · rw [anchored, cursor]
    rfl
  · rw [cursor]
    rcases List.mem_append.mp member with old | new
    · exact Nat.lt_succ_of_lt (earlier place old)
    · obtain rfl := Option.some.inj (List.mem_singleton.mp new)
      exact Nat.lt_succ_self _
  · rw [anchored]
    rfl
  · rw [anchored]
    exact earlier

/-- After a reply, the characters that await theirs stand before the cursor still. -/
theorem Tracked.answered (tracked : desk.Tracked places fresh) (reply : Reply) :
    (desk.step (.answered reply)).Tracked (desk.awaiting places (.answered reply)) false := by
  have asked : ∀ operation ∈ desk.operations reply, operation.Upright ∧
      ∃ effect : Effect, effect.operation? = some operation := by
    intro operation member
    obtain ⟨effect, -, performs⟩ := List.mem_filterMap.mp member
    exact ⟨desk.completion.apply_upright reply _ operation member, effect, performs⟩
  obtain ⟨inside, stays⟩ := Buffer.afterAll_effects asked tracked.within
  have buffer : (desk.step (.answered reply)).buffer =
      { desk.buffer.afterAll (desk.operations reply) with anchor := none } := rfl
  refine ⟨buffer ▸ inside, by rw [buffer]; rfl, fun place member => ?_, nofun⟩
  obtain ⟨old, here, carried⟩ := List.mem_map.mp (List.mem_of_mem_tail member)
  obtain ⟨offset, rfl, follows⟩ := Option.bind_eq_some_iff.mp carried
  rw [buffer]
  exact stays offset (tracked.before offset here) place follows

/-- A rejection takes away the character that it answers exactly if that is the only one that awaits
its reply and has just been typed. -/
theorem Tracked.rejectsRightly (tracked : desk.Tracked places fresh) (waits : 0 < places.length)
    (reply : Reply) :
    desk.RejectsRightly places (.answered reply) ↔
      (reply = .invalidChar → fresh = true ∧ places.length = 1) := by
  cases reply with
  | invalidChar =>
    have within := tracked.within
    have edits := tracked.edits
    have applied : desk.completion.apply .invalidChar desk.buffer.editCursor =
        (desk.completion.expireWait,
          [.delete desk.buffer.editCursor (desk.buffer.editCursor + 1)]) := rfl
    have changed : desk.changes (.answered .invalidChar) =
        [desk.buffer.clamp desk.buffer.editCursor (desk.buffer.editCursor + 1) []] :=
      (step_put applied rfl rfl (Nat.le_succ _)).1
    have offset : (desk.buffer.clamp desk.buffer.editCursor (desk.buffer.editCursor + 1) []).offset =
        desk.buffer.editCursor := by
      simp only [Buffer.clamp]
      omega
    simp only [RejectsRightly, changed, forall_const]
    constructor
    -- The deletion is made where edits go by. Only the character typed last can stand there: all
    -- others that await their reply stand before it.
    · rintro ⟨place, head, rightly⟩
      have here : place = desk.buffer.editCursor := by
        rw [← offset, List.cons.inj rightly |>.1]
      have member : some place ∈ places := List.mem_of_mem_head? head
      cases fresh with
      | false =>
        have before := tracked.before place member
        simp at edits
        omega
      | true =>
        obtain ⟨earlier, rfl, others⟩ := tracked.last rfl
        cases earlier with
        | nil => exact ⟨rfl, rfl⟩
        | cons first rest =>
          obtain rfl : first = some place := Option.some.inj head
          have before := others place List.mem_cons_self
          omega
    · rintro ⟨rfl, alone⟩
      obtain ⟨earlier, rfl, -⟩ := tracked.last rfl
      have nothing : earlier = [] := by simpa using alone
      have size : desk.buffer.clamp desk.buffer.editCursor (desk.buffer.editCursor + 1) [] =
          ⟨desk.buffer.editCursor, 1, []⟩ := by
        simp only [Buffer.clamp, Change.mk.injEq, and_true, Bool.toNat_true] at edits ⊢
        omega
      exact ⟨desk.buffer.editCursor, by rw [nothing]; rfl, by rw [size]⟩
  | _ => simp [RejectsRightly]

/-- Every rejection of a run takes away the character that it answers exactly if that is, each time,
the only one that awaits its reply and has just been typed. -/
theorem allRejectRightly_iff {events : List Event} (tracked : desk.Tracked places fresh)
    (answering : EachAnswer (fun _ waiting _ => 0 < waiting) fresh places.length events) :
    desk.AllRejectRightly places events ↔
      EachAnswer (fun newest waiting reply => reply = .invalidChar → newest = true ∧ waiting = 1)
        fresh places.length events := by
  induction events generalizing desk fresh places with
  | nil => exact Iff.rfl
  | cons event rest inductionHypothesis =>
    cases event with
    | typed character =>
      have size : (desk.awaiting places (.typed character)).length = places.length + 1 := by
        simp [awaiting, carried]
      have later := inductionHypothesis (tracked.typed character) (size ▸ answering)
      rw [size] at later
      exact (and_iff_right trivial).trans later
    | answered reply =>
      obtain ⟨waits, following⟩ := answering
      have size : (desk.awaiting places (.answered reply)).length = places.length - 1 := by
        simp [awaiting, carried]
      have later := inductionHypothesis (tracked.answered reply) (size ▸ following)
      rw [size] at later
      exact and_congr (tracked.rejectsRightly waits reply) later

end Desk

namespace Workspace

/-- A session's engine has started over with the cursor between two texts, and the user types on,
ahead of the engine or not; the engine answers each character once, in order. To the desk the run is
its events. What stands behind the cursor is left alone throughout exactly if nothing stands there,
or each rejection and each expansion comes right behind a keystroke. Each rejection takes away the
character that it answers, and nothing else, exactly if it comes right behind a keystroke and no
other character awaits a reply.

To leave alone what stands behind the cursor is more than to leave the same text there: no change
may reach past the cursor either, so that it counts as harm if an expansion takes away the first
character there and puts the same one in its place. If no expansion is to that character, the same
text stands behind the cursor at every point of the run exactly if it is left alone.

A character typed while a reply is being applied is not told to the engine; there is none in these
runs. -/
theorem typed_ahead_iff {workspace : Workspace} {number : Nat} {document : DocumentId}
    {session : Session} {host : Host} (before after : Text)
    (attends : workspace.Attends number document session host)
    (resting : session.worker.isApplying = false)
    (asked : session.completion.lastRequest = some .start)
    (opened : host.buffer = ⟨before ++ after, before.length, none⟩) (moves : List Move)
    (typing : workspace.onlyTypes number document moves = true) (events : List Desk.Event)
    (acknowledged : workspace.deskLog number moves = .answered .ok :: events)
    (answering : Desk.EachAnswer (fun _ waiting _ => 0 < waiting) false 0 events) :
    let desk := (session.desk host).step (.answered .ok)
    (∃ sessionAfter hostAfter,
      (workspace.run moves).Attends number document sessionAfter hostAfter ∧
      sessionAfter.desk hostAfter = desk.run events ∧
      (sessionAfter.worker.isApplying = false → hostAfter.buffer = (desk.run events).buffer)) ∧
    (desk.AllSpare after events ↔
      after = [] ∨
        Desk.EachAnswer (fun fresh _ reply => reply.EditsTyped → fresh = true) false 0 events) ∧
    ((∀ text, .answered (.expanded text) ∈ events → text ≠ after.take 1) →
      ((∀ part, part <+: events → (desk.run part).buffer.behind = after) ↔
        after = [] ∨
          Desk.EachAnswer (fun fresh _ reply => reply.EditsTyped → fresh = true) false 0
            events)) ∧
    (desk.AllRejectRightly [] events ↔
      Desk.EachAnswer (fun fresh waiting reply => reply = .invalidChar → fresh = true ∧ waiting = 1)
        false 0 events) := by
  intro desk
  obtain ⟨sessionAfter, hostAfter, attended, done⟩ := attends.run moves typing
  rw [acknowledged] at done
  have started : desk = ⟨(session.completion.expireWait.restart before.length).expireWait,
      ⟨before ++ after, before.length, none⟩⟩ := by
    simp only [desk, desk_of_resting resting]
    exact Desk.step_acknowledged asked opened
  have within : before.length ≤ (before ++ after).length := by
    rw [List.length_append]
    exact Nat.le_add_right _ _
  have steady : desk.Steady after false := by
    rw [started]
    exact ⟨within, List.drop_left, rfl, Nat.le_refl _⟩
  have tracked : desk.Tracked [] false := by
    rw [started]
    exact ⟨within, rfl, nofun, nofun⟩
  have latest : 0 < 0 → desk.completion.lastRequest = some .advance :=
    fun waits => absurd waits (Nat.lt_irrefl 0)
  have spares_iff := Desk.allSpare_iff steady latest answering
  refine ⟨⟨sessionAfter, hostAfter, attended, done, fun rests => ?_⟩, spares_iff, ?_, ?_⟩
  · rw [desk_of_resting rests] at done
    exact congrArg Desk.buffer done
  · intro unlike
    exact (Desk.allSpare_iff_kept steady latest answering unlike).symm.trans spares_iff
  · exact Desk.allRejectRightly_iff tracked answering

/-- Two characters are typed ahead and acknowledged, and a third is rejected at once. -/
def aheadThenRejected : List Move :=
  answeredBy [0] ++ .edit ⟨['d']⟩ (.type 'a') :: .edit ⟨['d']⟩ (.type 'b') ::
    answeredBy [0] ++ answeredBy [0] ++ .edit ⟨['d']⟩ (.type 'c') :: answeredBy [5]

/-- What happens to the desk when the engine has started over. -/
def acknowledgedThenRejected : List Desk.Event :=
  [.typed 'a', .typed 'b', .answered .ok, .answered .ok, .typed 'c', .answered .invalidChar]

/-- Nothing comes to harm when the two characters typed ahead are acknowledged. -/
theorem acknowledged_ahead_unharmed :
    ∃ session host, connectedBetween.Attends 0 ⟨['d']⟩ session host ∧
      session.worker.isApplying = false ∧ session.completion.lastRequest = some .start ∧
      host.buffer = ⟨['x'] ++ ['y'], ['x'].length, none⟩ ∧
      connectedBetween.onlyTypes 0 ⟨['d']⟩ aheadThenRejected = true ∧
      connectedBetween.deskLog 0 aheadThenRejected =
        .answered .ok :: acknowledgedThenRejected ∧
      Desk.EachAnswer (fun _ waiting _ => 0 < waiting) false 0 acknowledgedThenRejected ∧
      ((session.desk host).step (.answered .ok)).AllSpare ['y'] acknowledgedThenRejected ∧
      ((session.desk host).step (.answered .ok)).AllRejectRightly [] acknowledgedThenRejected := by
  have typing : connectedBetween.onlyTypes 0 ⟨['d']⟩ aheadThenRejected = true := by decide +kernel
  have acknowledged : connectedBetween.deskLog 0 aheadThenRejected =
      .answered .ok :: acknowledgedThenRejected := by decide +kernel
  have answering : Desk.EachAnswer (fun _ waiting _ => 0 < waiting) false 0
      acknowledgedThenRejected := by
    simp [acknowledgedThenRejected, Desk.EachAnswer]
  obtain ⟨session, host, attends, resting, asked, opened⟩ := connectedBetween_attends
  obtain ⟨-, spares, -, rejects⟩ := typed_ahead_iff ['x'] ['y'] attends resting asked opened
    aheadThenRejected typing acknowledgedThenRejected acknowledged answering
  refine ⟨session, host, attends, resting, asked, opened, typing, acknowledged, answering,
    spares.mpr (.inr ?_), rejects.mpr ?_⟩
  · simp [acknowledgedThenRejected, Desk.EachAnswer, Reply.EditsTyped]
  · simp [acknowledgedThenRejected, Desk.EachAnswer]

/-- Two characters are typed ahead. -/
def typedAhead : List Move :=
  answeredBy [0] ++ [.edit ⟨['d']⟩ (.type 'a'), .edit ⟨['d']⟩ (.type 'b')]

/-- When both of two characters typed ahead are rejected, the first rejection takes the second of
them away, and the second one takes what stands behind the cursor. -/
theorem rejected_ahead_harms :
    connectedBetween.onlyTypes 0 ⟨['d']⟩ (typedAhead ++ answeredBy [5] ++ answeredBy [5]) = true ∧
      connectedBetween.deskLog 0 (typedAhead ++ answeredBy [5] ++ answeredBy [5]) =
        [.answered .ok, .typed 'a', .typed 'b', .answered .invalidChar, .answered .invalidChar] ∧
      (connectedBetween.run typedAhead).hosts[0]?.map Host.buffer =
        some ⟨['x', 'a', 'b', 'y'], 3, some 2⟩ ∧
      (connectedBetween.run (typedAhead ++ answeredBy [5])).hosts[0]?.map Host.buffer =
        some ⟨['x', 'a', 'y'], 2, none⟩ ∧
      (connectedBetween.run (typedAhead ++ answeredBy [5] ++ answeredBy [5])).hosts[0]?.map
        Host.buffer = some ⟨['x', 'a'], 2, none⟩ := by
  decide +kernel

end Workspace

end Typeahead
