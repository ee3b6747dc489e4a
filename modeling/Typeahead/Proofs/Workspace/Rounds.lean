import Typeahead.Proofs.Workspace.Typing

/-!
# Typing in lock-step

A round is one character typed and one reply applied. As long as the user and the engine take
turns in this way, what is typed is a *stretch* of text with the cursor at its end, and the
text on both sides of it stays as it was. `Stretch.round` says what a round makes of the
stretch for each kind of reply, and of how much of it stands before the active span.

The desk of a session is `On` a stretch between two texts when buffer and completion agree
about all of this. Each round keeps that (`On.round`), whatever the reply is, and so the
document is as the rounds say after every run of them: `rounds_keep_surroundings`.
-/

namespace Typeahead

/-- What has been typed since the engine started over. -/
structure Stretch where
  text : Text
  /-- How many of its characters stand before the active span. -/
  settled : Nat
  /-- Whether the engine is gathering a pattern. -/
  gathering : Bool
deriving Repr, DecidableEq

namespace Stretch

/-- Nothing has been typed. -/
def empty : Stretch :=
  ⟨[], 0, false⟩

/-- A character is typed and stays. -/
def put (stretch : Stretch) (character : Char) : Stretch :=
  { stretch with text := stretch.text ++ [character] }

/-- The stretch after a character is typed and a reply is applied. -/
def round (stretch : Stretch) (character : Char) : Reply → Stretch
  | .ok =>
    { stretch.put character with
      settled := if stretch.gathering then stretch.text.length else stretch.settled }
  | .regexFull => ⟨stretch.text ++ [' ', character], stretch.text.length + 1, false⟩
  | .regexStart => { stretch.put character with gathering := true }
  | .invalidChar => stretch
  | .expanded text =>
    ⟨stretch.text.take stretch.settled ++ text, stretch.settled + text.length, stretch.gathering⟩
  | .error _ | .capabilities _ | .cursorHandle _ => stretch.put character

/-- The stretch after several rounds. -/
def afterRounds (rounds : List (Char × Reply)) : Stretch :=
  rounds.foldl (fun stretch (character, reply) => stretch.round character reply) empty

/-- The active span never begins past the end of the stretch. -/
def Sound (stretch : Stretch) : Prop :=
  stretch.settled ≤ stretch.text.length

/-- A round leaves the span within the stretch. -/
theorem Sound.round {stretch : Stretch} (sound : stretch.Sound) (character : Char) (reply : Reply) :
    (stretch.round character reply).Sound := by
  unfold Sound at sound ⊢
  cases reply with
  | ok =>
    simp only [Stretch.round, put, List.length_append, List.length_singleton]
    split <;> omega
  | expanded text =>
    simp only [Stretch.round, List.length_append, List.length_take]
    omega
  | invalidChar => exact sound
  | _ =>
    simp only [Stretch.round, put, List.length_append, List.length_cons, List.length_nil]
    omega

/-- The span is within the stretch after all rounds. -/
theorem sound_afterRounds (rounds : List (Char × Reply)) : (afterRounds rounds).Sound := by
  have kept : ∀ stretch : Stretch, stretch.Sound →
      (rounds.foldl (fun stretch (character, reply) => stretch.round character reply)
        stretch).Sound := by
    induction rounds with
    | nil => exact fun _ sound => sound
    | cons round rest inductionHypothesis =>
      exact fun stretch sound => inductionHypothesis _ (sound.round round.1 round.2)
  exact kept empty (Nat.le_refl 0)

/-- A desk with a stretch typed between two texts: the cursor stands behind the stretch, and the
span begins behind the part of it that is settled. -/
structure On (before after : Text) (stretch : Stretch) (desk : Desk) : Prop where
  buffer : desk.buffer = ⟨before ++ stretch.text ++ after, (before ++ stretch.text).length, none⟩
  span : desk.completion.spanStart = before.length + stretch.settled
  gathering : desk.completion.inRegex = stretch.gathering
  sound : stretch.Sound

/-- When the engine has started over, the stretch is empty and begins at the cursor. -/
theorem on_acknowledged {before after : Text} {desk : Desk}
    (asked : desk.completion.lastRequest = some .start)
    (opened : desk.buffer = ⟨before ++ after, before.length, none⟩) :
    On before after empty (desk.step (.answered .ok)) := by
  rw [Desk.step_acknowledged asked opened]
  exact ⟨by simp [empty], rfl, rfl, Nat.le_refl 0⟩

variable {before after : Text} {stretch : Stretch} {desk : Desk}

/-- The buffer when a character has just been typed behind the stretch. -/
def typedBuffer (before after : Text) (stretch : Stretch) (character : Char) : Buffer :=
  ⟨before ++ stretch.text ++ [character] ++ after,
    (before ++ stretch.text ++ [character]).length, some (before ++ stretch.text).length⟩

/-- What a round makes of the desk, given what the reply does. -/
theorem On.answered (on : On before after stretch desk) (character : Char) {reply : Reply}
    {completion : Completion} {effects : List Effect}
    (applied : (desk.completion.sent (.advance character)).apply reply
      (before ++ stretch.text).length = (completion, effects)) :
    (desk.step (.typed character)).step (.answered reply) =
      ⟨completion, ((typedBuffer before after stretch character).afterAll
        (effects.filterMap Effect.operation?)).after .replyApplied⟩ := by
  have typed : desk.step (.typed character) =
      ⟨(desk.completion.sent (.advance character)).expireWait,
        typedBuffer before after stretch character⟩ := by
    rw [Desk.step, Buffer.after_type (by rw [on.buffer]) (by rw [on.buffer]) character]
    rfl
  rw [typed]
  exact Desk.step_answered rfl ((Completion.apply_expireWait _ _ _).trans applied)

/-- A reply that edits nothing lets the character stay. -/
theorem On.stays (on : On before after stretch desk) (character : Char) {reply : Reply}
    {completion : Completion} {effects : List Effect} {next : Stretch}
    (applied : (desk.completion.sent (.advance character)).apply reply
      (before ++ stretch.text).length = (completion, effects))
    (quiet : effects.filterMap Effect.operation? = [])
    (text : next.text = stretch.text ++ [character])
    (span : completion.spanStart = before.length + next.settled)
    (gathering : completion.inRegex = next.gathering) (sound : next.Sound) :
    On before after next ((desk.step (.typed character)).step (.answered reply)) := by
  rw [on.answered character applied, quiet]
  refine ⟨?_, span, gathering, sound⟩
  simp [Buffer.afterAll, Buffer.after, Buffer.perform, typedBuffer, text]

/-- A reply that puts a text for the end of what has been typed, up to the character or up to what
stands before it. -/
theorem On.edits (on : On before after stretch desk) (character : Char) {reply : Reply}
    {completion : Completion} {effect : Effect} {next : Stretch} {operation : Buffer.Operation}
    {start stop : Nat} {front gone between inserted : Text}
    (applied : (desk.completion.sent (.advance character)).apply reply
      (before ++ stretch.text).length = (completion, [effect]))
    (performs : effect.operation? = some operation)
    (puts : ∀ buffer : Buffer, buffer.after operation = buffer.after (.replace start stop inserted))
    (cut : stretch.text ++ [character] = front ++ gone ++ between)
    (first : start = (before ++ front).length) (last : stop = (before ++ front ++ gone).length)
    (text : next.text = front ++ inserted ++ between)
    (span : completion.spanStart = before.length + next.settled)
    (gathering : completion.inRegex = next.gathering) (sound : next.Sound) :
    On before after next ((desk.step (.typed character)).step (.answered reply)) := by
  have typed : before ++ stretch.text ++ [character] = before ++ front ++ gone ++ between := by
    rw [List.append_assoc, cut]
    simp only [List.append_assoc]
  have replaced : (typedBuffer before after stretch character).after (.replace start stop inserted) =
      ⟨before ++ front ++ inserted ++ between ++ after,
        (before ++ front ++ inserted ++ between).length, none⟩ :=
    Buffer.after_replace inserted (by rw [typedBuffer, typed]) (by rw [typedBuffer, typed]) first last
  have performed : (typedBuffer before after stretch character).afterAll
      ([effect].filterMap Effect.operation?) =
      (typedBuffer before after stretch character).after (.replace start stop inserted) := by
    rw [List.filterMap_cons, performs]
    exact puts _
  rw [on.answered character applied, performed, replaced]
  refine ⟨?_, span, gathering, sound⟩
  simp [Buffer.after, Buffer.perform, text]

/-- A round keeps buffer and completion in agreement. -/
theorem On.round (on : On before after stretch desk) (character : Char) (reply : Reply) :
    On before after (stretch.round character reply)
      ((desk.step (.typed character)).step (.answered reply)) := by
  have sound := on.sound.round character reply
  have size : (before ++ stretch.text).length = before.length + stretch.text.length :=
    List.length_append
  have within : stretch.settled ≤ stretch.text.length := on.sound
  let asked := desk.completion.sent (.advance character)
  have latest : asked.lastRequest = some .advance := rfl
  have gathers : asked.inRegex = stretch.gathering := on.gathering
  cases reply with
  | ok =>
    have applied := Completion.apply_ok_of_advance latest (before ++ stretch.text).length
    cases gathering : stretch.gathering with
    | true =>
      rw [if_pos (gathers.trans gathering)] at applied
      have settled : (stretch.round character .ok).settled = stretch.text.length := by
        simp [Stretch.round, gathering]
      exact on.stays character applied rfl rfl (settled ▸ size) on.gathering sound
    | false =>
      rw [if_neg (by simp [gathers, gathering])] at applied
      have settled : (stretch.round character .ok).settled = stretch.settled := by
        simp [Stretch.round, gathering]
      exact on.stays character applied rfl rfl (settled ▸ on.span) on.gathering sound
  | regexFull =>
    -- The space goes in before the character typed, which stays between it and the cursor.
    obtain ⟨applied, begins, left⟩ :=
      Completion.apply_regexFull_of_advance latest (before ++ stretch.text).length
    have cut : stretch.text ++ [character] = stretch.text ++ [] ++ [character] := by simp
    exact on.edits character applied rfl (fun _ => rfl) cut rfl (by simp) (by simp [Stretch.round])
      (begins.trans (congrArg (· + 1) size)) left sound
  | invalidChar =>
    have applied : asked.apply .invalidChar (before ++ stretch.text).length =
        (asked.expireWait,
          [.delete (before ++ stretch.text).length ((before ++ stretch.text).length + 1)]) := rfl
    have cut : stretch.text ++ [character] = stretch.text ++ [character] ++ [] := by simp
    exact on.edits character applied rfl (fun _ => rfl) cut rfl (by simp [Nat.add_assoc])
      (by simp [Stretch.round]) on.span on.gathering sound
  | expanded text =>
    -- All that is not settled gives way, the character typed included.
    have begins : asked.spanStart = before.length + stretch.settled := on.span
    have reaches : asked.spanStart ≤ (before ++ stretch.text).length + 1 := by
      rw [begins, size]
      omega
    obtain ⟨applied, further, gathering⟩ := Completion.apply_expanded_of_advance latest reaches text
    have cut : stretch.text ++ [character] =
        stretch.text.take stretch.settled ++ (stretch.text.drop stretch.settled ++ [character]) ++
          [] := by
      rw [← List.append_assoc, List.take_append_drop, List.append_nil]
    have span : (asked.expand text (before ++ stretch.text).length).1.spanStart =
        before.length + (stretch.settled + text.length) := by
      rw [further, begins, Nat.add_assoc]
    refine on.edits character applied rfl (fun _ => rfl) cut ?_ ?_ (by simp [Stretch.round]) span
      (gathering.trans gathers) sound
    · rw [begins, List.length_append, List.length_take, Nat.min_eq_left within]
    · simp only [List.append_assoc, List.length_append, List.length_take, List.length_drop,
        List.length_singleton]
      omega
  | error message => exact on.stays character rfl rfl rfl on.span on.gathering sound
  | capabilities names => exact on.stays character rfl rfl rfl on.span on.gathering sound
  | cursorHandle handle => exact on.stays character rfl rfl rfl on.span on.gathering sound
  | regexStart => exact on.stays character rfl rfl rfl on.span rfl sound

/-- The events of rounds, in order. -/
def events (rounds : List (Char × Reply)) : List Desk.Event :=
  rounds.flatMap fun (character, reply) => [.typed character, .answered reply]

/-- All rounds of a run keep buffer and completion in agreement. -/
theorem On.run (on : On before after stretch desk) (rounds : List (Char × Reply)) :
    On before after
      (rounds.foldl (fun stretch (character, reply) => stretch.round character reply) stretch)
      (desk.run (events rounds)) := by
  induction rounds generalizing stretch desk with
  | nil => exact on
  | cons round rest inductionHypothesis =>
    exact inductionHypothesis (on.round round.1 round.2)

/-- The last round, by kind of reply: an expansion takes the place of all that was not settled, a
rejected character is gone, and a pattern is left at the character with a space before it. -/
theorem afterRounds_last (earlier : List (Char × Reply)) (character : Char) (reply : Reply) :
    let previous := afterRounds earlier
    let stretch := afterRounds (earlier ++ [(character, reply)])
    (∀ text, reply = .expanded text →
      stretch.text = previous.text.take previous.settled ++ text ∧
        stretch.settled = stretch.text.length) ∧
      (reply = .invalidChar → stretch.text = previous.text) ∧
      (reply = .regexFull → stretch.text = previous.text ++ [' ', character] ∧
        stretch.settled = previous.text.length + 1) := by
  intro previous stretch
  have last : stretch = previous.round character reply := List.foldl_append
  have sound : previous.settled ≤ previous.text.length := sound_afterRounds earlier
  rw [last]
  refine ⟨?_, ?_, ?_⟩
  · rintro text rfl
    refine ⟨rfl, ?_⟩
    simp only [Stretch.round, List.length_append, List.length_take, Nat.min_eq_left sound]
  · rintro rfl
    rfl
  · rintro rfl
    exact ⟨rfl, rfl⟩

end Stretch

namespace Workspace

/-- A session's engine has started over with the cursor between two texts, and the user types on in
lock-step. After every round the text is what it was, with the stretch of the rounds in between; the
cursor stands behind the stretch, and the span begins within it. Every edit that the
session asks for is performed. What the last round does to the stretch is said for each kind of
reply that edits.

To the desk the run is its rounds, and each of them keeps buffer and completion in agreement. -/
theorem rounds_keep_surroundings {workspace : Workspace} {number : Nat} {document : DocumentId}
    {session : Session} {host : Host} (before after : Text)
    (attends : workspace.Attends number document session host)
    (resting : session.worker.isApplying = false)
    (asked : session.completion.lastRequest = some .start)
    (opened : host.buffer = ⟨before ++ after, before.length, none⟩) (moves : List Move)
    (typing : workspace.onlyTypes number document moves = true) (rounds : List (Char × Reply))
    (paced : workspace.deskLog number moves = .answered .ok :: Stretch.events rounds) :
    let stretch := Stretch.afterRounds rounds
    ∃ sessionAfter hostAfter,
      (workspace.run moves).Attends number document sessionAfter hostAfter ∧
      (sessionAfter.worker.isApplying = false →
        hostAfter.buffer =
            ⟨before ++ stretch.text ++ after, before.length + stretch.text.length, none⟩ ∧
          sessionAfter.completion.spanStart = before.length + stretch.settled ∧
          sessionAfter.completion.spanStart ≤ hostAfter.buffer.cursor) ∧
      (∀ operation due effects, sessionAfter.worker = .editing operation due effects →
        ∃ edited change, hostAfter.editFor operation = .ok (edited, change)) ∧
      ∀ earlier character reply, rounds = earlier ++ [(character, reply)] →
        let previous := Stretch.afterRounds earlier
        (∀ text, reply = .expanded text →
          stretch.text = previous.text.take previous.settled ++ text ∧
            stretch.settled = stretch.text.length) ∧
          (reply = .invalidChar → stretch.text = previous.text) ∧
          (reply = .regexFull → stretch.text = previous.text ++ [' ', character] ∧
            stretch.settled = previous.text.length + 1) := by
  intro stretch
  obtain ⟨sessionAfter, hostAfter, attended, done⟩ := attends.run moves typing
  have started : Stretch.On before after .empty ((session.desk host).step (.answered .ok)) := by
    rw [desk_of_resting resting]
    exact Stretch.on_acknowledged asked opened
  have on : Stretch.On before after stretch (sessionAfter.desk hostAfter) := by
    rw [done, paced]
    exact started.run rounds
  refine ⟨sessionAfter, hostAfter, attended, fun rests => ?_, fun operation due effects edits => ?_,
    ?_⟩
  · have within : stretch.settled ≤ stretch.text.length := on.sound
    have span : sessionAfter.completion.spanStart = before.length + stretch.settled := on.span
    have buffer : hostAfter.buffer =
        ⟨before ++ stretch.text ++ after, before.length + stretch.text.length, none⟩ := by
      have whole := on.buffer
      rw [desk_of_resting rests, List.length_append] at whole
      exact whole
    refine ⟨buffer, span, ?_⟩
    rw [span, buffer]
    exact Nat.add_le_add_left within _
  · have upright : operation.Upright := by
      apply attended.upright
      rw [edits]
      exact List.mem_cons_self
    rw [attended.obliges.editFor, Host.edit, hostAfter.buffer.perform_upright upright]
    exact ⟨_, _, rfl⟩
  · rintro earlier character reply rfl
    exact Stretch.afterRounds_last earlier character reply

/-- A client with one document, whose cursor stands between two characters. -/
def openBetween : Workspace :=
  (start .defaults [] [.fresh] (.noSession ⟨['d']⟩)).run
    [.openDocument (.ofBuffer ⟨['d']⟩ .direct ⟨['x', 'y'], 1, none⟩ true)]

/-- That document has just been connected. -/
def connectedBetween : Workspace :=
  openBetween.perform (.activate ⟨['d']⟩ 0 ['c'])

/-- The session just connected attends to its document, and the engine has still to say that it has
started over. -/
theorem connectedBetween_attends :
    ∃ session host, connectedBetween.Attends 0 ⟨['d']⟩ session host ∧
      session.worker.isApplying = false ∧ session.completion.lastRequest = some .start ∧
      host.buffer = ⟨['x'] ++ ['y'], ['x'].length, none⟩ := by
  have numbered : openBetween.Numbered := (numbered_start _ _ _ _).run _
  have usable : Request.start? ['c'] = .ok (.start ['c']) := rfl
  have given : openBetween.lines = [.fresh] := rfl
  have latest : openBetween.hostOf? ⟨['d']⟩ = some 0 := rfl
  have hosted : openBetween.hosts[0]? =
      some (.ofBuffer ⟨['d']⟩ .direct ⟨['x', 'y'], 1, none⟩ true) := rfl
  obtain ⟨session, attends, resting, asked⟩ := attends_connected numbered usable given latest hosted
    rfl ⟨by decide, fun _ => rfl, fun _ => rfl⟩
  exact ⟨session, _, attends, resting, asked, rfl⟩

/-- The engine writes some bytes, and they are read and applied. -/
def answeredBy (content : Bytes) : List Move :=
  .deliver 0 content :: List.replicate 4 (.act 0 .intake) ++ List.replicate 8 (.act 0 .worker)

/-- Three rounds: a pattern that is full, an expansion and a rejection. -/
def threeRounds : List Move :=
  answeredBy [0] ++ .edit ⟨['d']⟩ (.type 'a') :: answeredBy [2] ++
    .edit ⟨['d']⟩ (.type 'b') :: answeredBy [112, 113, 0] ++
    .edit ⟨['d']⟩ (.type 'c') :: answeredBy [5]

/-- What is typed and answered in these rounds. -/
def fullExpandedRejected : List (Char × Reply) :=
  [('a', .regexFull), ('b', .expanded ['p', 'q']), ('c', .invalidChar)]

/-- After these rounds a space and the expansion stand between the two characters. -/
theorem three_rounds_between :
    ∃ session host, connectedBetween.Attends 0 ⟨['d']⟩ session host ∧
      session.worker.isApplying = false ∧ session.completion.lastRequest = some .start ∧
      host.buffer = ⟨['x'] ++ ['y'], ['x'].length, none⟩ ∧
      connectedBetween.onlyTypes 0 ⟨['d']⟩ threeRounds = true ∧
      connectedBetween.deskLog 0 threeRounds =
        .answered .ok :: Stretch.events fullExpandedRejected ∧
      ∃ hostAfter, (connectedBetween.run threeRounds).hosts[0]? = some hostAfter ∧
        hostAfter.buffer = ⟨['x', ' ', 'p', 'q', 'y'], 4, none⟩ := by
  have typing : connectedBetween.onlyTypes 0 ⟨['d']⟩ threeRounds = true := by decide
  have paced : connectedBetween.deskLog 0 threeRounds =
      .answered .ok :: Stretch.events fullExpandedRejected := by decide
  have rests : (connectedBetween.run threeRounds).applying 0 = false := by decide
  have first : (connectedBetween.run threeRounds).hostOf? ⟨['d']⟩ = some 0 := by decide
  obtain ⟨session, host, attends, resting, asked, opened⟩ := connectedBetween_attends
  obtain ⟨sessionAfter, hostAfter, attended, kept, -⟩ :=
    rounds_keep_surroundings ['x'] ['y'] attends resting asked opened threeRounds typing
      fullExpandedRejected paced
  obtain ⟨buffer, -, -⟩ := kept (attended.busy.symm.trans rests)
  have place : sessionAfter.host = 0 := Option.some.inj (attended.latest.symm.trans first)
  exact ⟨session, host, attends, resting, asked, opened, typing, paced, hostAfter,
    place ▸ attended.hosted, buffer⟩

end Workspace

end Typeahead
