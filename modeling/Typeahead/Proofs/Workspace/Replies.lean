import Typeahead.Proofs.Session.Station
import Typeahead.Proofs.Workspace.Exchanges
import Typeahead.Proofs.Workspace.Rounds

/-!
# Replies that are applied

Three tasks pass the engine's bytes on: the inbound side reads and splits them, the queue
holds the replies, and the worker applies them, while the host takes its time. In a run in
which nobody else does anything to a session or its host, all of this comes down to a fold:
once everybody waits, the station of the session is what answering the replies of the whole
stream, one after another, makes of it (`replies_are_folded`). Into what pieces the stream is
cut, how the steps of the three are interleaved and how many replies wait makes no difference.
-/

namespace Typeahead

namespace Workspace

/-- The bytes that a move brings to a session. What the engine writes when either end of the
connection is gone is lost. -/
def written (number : Nat) (workspace : Workspace) : Move → Bytes
  | .deliver connection content =>
    if connection = number ∧ (workspace.deliver connection content).2 = true then content else []
  | .arrive other arrivals => if other = number then Arrival.contents arrivals else []
  | _ => []

/-- The bytes that a run brings to a session, in order. -/
def streamOf (number : Nat) : Workspace → List Move → Bytes
  | _, [] => []
  | workspace, move :: rest =>
    workspace.written number move ++ streamOf number (workspace.perform move) rest

/-- A move in which the engine writes to a session, one of the session's own actors takes a step, or
nothing happens to the session and its host. -/
inductive Quiet (workspace : Workspace) (number place : Nat) : Move → Prop where
  /-- The engine writes on the session's connection. -/
  | writes (content : Bytes) : Quiet workspace number place (.deliver number content)
  /-- Reads of the session's connection bring bytes. -/
  | brings {arrivals : List Arrival} (pieces : ∀ arrival ∈ arrivals, arrival.Brings) :
      Quiet workspace number place (.arrive number arrivals)
  /-- An actor of the session takes a step. -/
  | acts (actor : Actor) : Quiet workspace number place (.act number actor)
  /-- Something happens elsewhere. -/
  | elsewhere {move : Move} (nothing : workspace.written number move = [])
      (sessions : (workspace.perform move).sessions[number]? = workspace.sessions[number]?)
      (hosts : (workspace.perform move).hosts[place]? = workspace.hosts[place]?) :
      Quiet workspace number place move

/-- A run of quiet moves. -/
def QuietRun (number place : Nat) : Workspace → List Move → Prop
  | _, [] => True
  | workspace, move :: rest =>
    workspace.Quiet number place move ∧ QuietRun number place (workspace.perform move) rest

/-- A run is quiet if each of its moves is, wherever it is made. -/
theorem quietRun_of_forall {number place : Nat} {moves : List Move}
    (quiet : ∀ move ∈ moves, ∀ workspace : Workspace, workspace.Quiet number place move)
    (workspace : Workspace) : workspace.QuietRun number place moves := by
  induction moves generalizing workspace with
  | nil => trivial
  | cons move rest inductionHypothesis =>
    obtain ⟨first, others⟩ := List.forall_mem_cons.mp quiet
    exact ⟨first workspace, inductionHypothesis others _⟩

/-- Nothing is under way in a session: none of its actors can take a step, and it is not waiting for
its host in the middle of a reply. -/
def Idle (workspace : Workspace) (number : Nat) : Prop :=
  (∀ actor, workspace.act number actor = none) ∧ workspace.applying number = false

/-- In a workspace that came about, every session is sound, with the limit on frames that the
settings name. -/
theorem Reached.sound {workspace : Workspace} (reached : workspace.Reached) :
    workspace.Everywhere (Session.Sound workspace.settings.maxFrameBytes) := by
  refine @Reached.everywhere workspace (fun settings => Session.Sound settings.maxFrameBytes) ?_
    (fun settings => Session.Sound.turn settings.maxFrameBytes) reached
  intro workspace document host language line
  have begun := Intake.sound_start workspace.settings.maxFrameBytes Session.replyCapacity (by decide)
  have intake : (line.intake workspace.settings).Sound workspace.settings.maxFrameBytes := by
    unfold Line.intake
    simp only
    have written := begun.turn (Intake.Turn.written line.waiting : Intake.Turn false _ _)
    split
    · exact written
    · exact written.turn (Intake.Turn.closed : Intake.Turn false _ _)
  exact ⟨rfl, intake, nofun⟩

variable {workspace : Workspace} {number : Nat} {session : Session} {host : Host}

/-- A session that is locked does not answer to a report, whoever makes it. -/
theorem report_locked (present : workspace.sessions[number]? = some session)
    (locked : session.locked = true) (host : Host) (change : Option Change) :
    (workspace.report host change).sessions[number]? = some session := by
  have told : ∀ other change, (workspace.tellSession other change).1.sessions[number]? =
      some session := by
    intro other change
    unfold tellSession
    split
    · exact present
    · next acting acts =>
      by_cases same : other = number
      · subst same
        obtain rfl : acting = session := Option.some.inj (acts.symm.trans present)
        simpa [Session.handleChange, locked] using sessions_setSession present acting
      · exact (sessions_setSession_other _ same _).trans present
  unfold report
  split
  · split
    · unfold documentChanged
      split
      · exact present
      · exact told _ _
    · exact present
  · exact present

/-- A session at work on its host: from where it started, it has answered the replies given so far
of a stream. -/
structure Applies (workspace : Workspace) (number place limit : Nat) (skipping : Bool)
    (first : List Reply) (start : Station) (stream : Bytes) (given : List Reply)
    (session : Session) (host : Host) : Prop where
  present : workspace.sessions[number]? = some session
  hosted : workspace.hosts[place]? = some host
  place : session.host = place
  sound : session.Sound limit
  active : session.cancelled = false
  gives : session.intake.Gives limit skipping first stream given
  station : session.station host = start.answerAll given

section Applies

variable {place limit : Nat} {skipping : Bool} {first given : List Reply} {start : Station}
  {stream : Bytes}

/-- The worker of such a session has not stopped. -/
theorem Applies.running
    (applies : workspace.Applies number place limit skipping first start stream given session host) :
    session.worker ≠ .finished := by
  intro stopped
  rcases applies.sound.stops stopped with cancelled | finished
  · exact Bool.false_ne_true (applies.active.symm.trans cancelled)
  · exact Bool.false_ne_true (applies.gives.listens.active.symm.trans finished)

/-- The inbound side changes, and nothing else about the session does. -/
theorem Applies.setIntake
    (applies : workspace.Applies number place limit skipping first start stream given session host)
    {intake : Intake} {more : Bytes} (turn : session.intake.Turn session.cancelled intake)
    (gives : intake.Gives limit skipping first more given) :
    (workspace.setSession number { session with intake }).Applies number place limit skipping first
      start more given { session with intake } host := by
  exact ⟨sessions_setSession applies.present _, applies.hosted, applies.place,
    applies.sound.turn limit session [] _ (.inbound turn), applies.active, gives, applies.station⟩

/-- A step of the worker answers the reply that it takes. Its edit is reported while the session is
locked. -/
theorem Applies.worked
    (applies : workspace.Applies number place limit skipping first start stream given session host)
    {after : Session} {hostAfter : Host} {change : Option Change}
    (stepped : session.stepWorker host workspace.clock = some (after, hostAfter, change)) :
    (((workspace.setSession number after).setHost session.host hostAfter).report hostAfter
      change).Applies number place limit skipping first start stream
        (given ++ session.taking?.toList) after hostAfter := by
  have step := Session.stepWorker_cases stepped
  have sound := applies.sound.turn limit session _ _ (.worked stepped)
  have insideHosts := (List.getElem?_eq_some_iff.mp applies.hosted).1
  have placed : ((workspace.setSession number after).setHost session.host
      hostAfter).sessions[number]? = some after := sessions_setSession applies.present after
  obtain ⟨sameHost, sameOrders⟩ := step.kept
  have taken : after.intake.Gives limit skipping first stream (given ++ session.taking?.toList) := by
    rcases step.intake with ⟨nothing, same⟩ | ⟨reply, queue, takes, head, rest⟩
    · rw [nothing, same]
      simpa using applies.gives
    · rw [takes, rest]
      exact applies.gives.take head
  refine ⟨?_, ?_, sameHost.trans applies.place, sound, sameOrders.trans applies.active, taken, ?_⟩
  · cases change with
    | none => exact placed
    | some change =>
      have locked := sound.latched.trans (Session.stepWorker_applying stepped).2
      exact report_locked placed locked hostAfter (some change)
  · rw [(report_only _ _ _).hosts, applies.place]
    simp [setSession, setHost, insideHosts]
  · rw [step.station, applies.station]
    simp [Station.answerAll]

/-- Every quiet move gives some further replies, of the stream with what the move brings. -/
theorem Applies.perform
    (applies : workspace.Applies number place limit skipping first start stream given session host)
    {move : Move} (quiet : workspace.Quiet number place move) :
    ∃ given session host, (workspace.perform move).Applies number place limit skipping first start
      (stream ++ workspace.written number move) given session host := by
  cases quiet with
  | writes content =>
    simp only [written, Workspace.perform, deliver, applies.present]
    split
    · exact ⟨given, session, host, by simpa using applies⟩
    · refine ⟨given, { session with intake := session.intake.receiveBytes content }, host, ?_⟩
      simpa using applies.setIntake (.written content) (applies.gives.receiveBytes content)
  | @brings arrivals pieces =>
    refine ⟨given, { session with intake := session.intake.receive arrivals }, host, ?_⟩
    simpa [written, Workspace.perform, withIntake, applies.present] using
      applies.setIntake (.arrived arrivals) (applies.gives.receive pieces)
  | acts actor =>
    simp only [written, List.append_nil, Workspace.perform]
    cases acted : workspace.act number actor with
    | none => exact ⟨given, session, host, applies⟩
    | some next =>
      have step := act_acted_by applies.present acted
      cases step with
      | intake stepped =>
        obtain ⟨intake, worked, rfl⟩ := Option.map_eq_some_iff.mp stepped
        have running : (session.worker = .finished) = False := eq_false applies.running
        have work := worked
        simp only [applies.active, running, decide_false] at work
        exact ⟨given, _, host, applies.setIntake (.worked worked)
          (applies.gives.work (Intake.step_work work).2)⟩
      | outlet stepped =>
        obtain ⟨outlet, worked, rfl⟩ := Option.map_eq_some_iff.mp stepped
        refine ⟨given, { session with outlet }, host, ?_⟩
        exact ⟨sessions_setSession applies.present _, applies.hosted, applies.place,
          applies.sound.turn limit session [] _ (.outbound (.worked worked)), applies.active,
          applies.gives, applies.station⟩
      | worker hosted stepped =>
        have same := hosted
        rw [applies.place, applies.hosted] at same
        obtain rfl := Option.some.inj same
        exact ⟨_, _, _, applies.worked stepped⟩
  | elsewhere nothing sessions hosts =>
    rw [nothing, List.append_nil]
    exact ⟨given, session, host, sessions.trans applies.present, hosts.trans applies.hosted,
      applies.place, applies.sound, applies.active, applies.gives, applies.station⟩

/-- Every quiet run gives some further replies, of the stream with what the run brings. -/
theorem Applies.run
    (applies : workspace.Applies number place limit skipping first start stream given session host)
    (moves : List Move) (quiet : workspace.QuietRun number place moves) :
    ∃ given session host, (workspace.run moves).Applies number place limit skipping first start
      (stream ++ workspace.streamOf number moves) given session host := by
  induction moves generalizing workspace stream given session host with
  | nil => exact ⟨given, session, host, by simpa [Workspace.run, streamOf] using applies⟩
  | cons move rest inductionHypothesis =>
    obtain ⟨now, quietly⟩ := quiet
    obtain ⟨given, session, host, moved⟩ := applies.perform now
    obtain ⟨given, session, host, done⟩ := inductionHypothesis moved quietly
    refine ⟨given, session, host, ?_⟩
    rwa [List.append_assoc] at done

/-- Where nothing is under way, the worker waits with no reply left and the inbound side has nothing
to do. -/
theorem Applies.waits
    (applies : workspace.Applies number place limit skipping first start stream given session host)
    (idle : workspace.Idle number) :
    session.worker.isApplying = false ∧ session.intake.queue = [] ∧
      session.intake.step false false = none := by
  obtain ⟨waits, rests⟩ := idle
  have resting : session.worker.isApplying = false := by
    simpa [applying, applies.present] using rests
  have hosted : workspace.hosts[session.host]? = some host := applies.place ▸ applies.hosted
  have worker : session.stepWorker host workspace.clock = none := by
    have waiting := waits .worker
    cases stepped : session.stepWorker host workspace.clock with
    | none => rfl
    | some result => simp [act, applies.present, hosted, stepped] at waiting
  have intake : session.stepIntake = none := by
    have waiting := waits .intake
    cases stepped : session.stepIntake with
    | none => rfl
    | some after => simp [act, applies.present, stepped] at waiting
  refine ⟨resting, ?_, ?_⟩
  · cases stage : session.worker with
    | turning running => simp [Session.stepWorker, stage] at worker
    | parked deadline =>
      cases queue : session.intake.queue with
      | nil => rfl
      | cons reply rest =>
        simp [Session.stepWorker, stage, Session.stepParked, applies.active, queue] at worker
    | applying | editing =>
      rw [stage] at resting
      cases resting
    | finished => exact absurd stage applies.running
  · have running : (session.worker = .finished) = False := eq_false applies.running
    simpa [Session.stepIntake, applies.active, running] using intake

/-- Where nothing is under way, the session has answered every reply of the stream. -/
theorem Applies.settled
    (applies : workspace.Applies number place limit skipping first start stream given session host)
    (idle : workspace.Idle number)
    (fit : ∀ frame ∈ (Framing.ofStream (Framing.behind skipping stream)).frames,
      frame.length ≤ limit + 1) :
    (⟨session.completion.expireWait, host⟩ : Station) = start.answerAll
      (first ++ Reply.ofFrames (Framing.ofStream (Framing.behind skipping stream)).frames) := by
  obtain ⟨resting, empty, waits⟩ := applies.waits idle
  rw [← applies.gives.all applies.sound.intake.room empty waits fit, ← applies.station,
    Session.station_of_resting resting]

end Applies

/-- A session is at work on a connection that is open. The engine writes to it, and apart from the
session's own steps nothing happens to it and to its host. Once nothing is under way, completion and
host are what answering the replies makes of them, one after another: those that the session still
held at first, and those of the frames that come of all bytes not split by then, in order. A frame
that holds no reply counts for nothing. Only whether an answer is awaited is left open.

So it is the same for every other run that brings the same bytes: however they are cut into reads,
however the steps are interleaved, and also when more replies wait than the queue has places for.

At every moment of the run the replies taken so far have been answered and those that wait are the
next ones. -/
theorem replies_are_folded (reached : workspace.Reached)
    (present : workspace.sessions[number]? = some session)
    (hosted : workspace.hosts[session.host]? = some host) (active : session.cancelled = false)
    (listens : session.intake.Listens) (moves : List Move)
    (quiet : workspace.QuietRun number session.host moves)
    (fit : ∀ frame ∈ (Framing.ofStream
        (session.intake.remaining (workspace.streamOf number moves))).frames,
      frame.length ≤ workspace.settings.maxFrameBytes + 1)
    (idle : (workspace.run moves).Idle number) :
    let folded := (session.station host).answerAll
      (session.intake.owes (workspace.streamOf number moves))
    (∃ after hostAfter, (workspace.run moves).sessions[number]? = some after ∧
      (workspace.run moves).hosts[session.host]? = some hostAfter ∧
      ⟨after.completion.expireWait, hostAfter⟩ = folded) ∧
    ∀ others, workspace.QuietRun number session.host others →
      workspace.streamOf number others = workspace.streamOf number moves →
      (workspace.run others).Idle number →
      ∃ after hostAfter, (workspace.run others).sessions[number]? = some after ∧
        (workspace.run others).hosts[session.host]? = some hostAfter ∧
        ⟨after.completion.expireWait, hostAfter⟩ = folded := by
  intro folded
  have sound := reached.sound number session present
  have begun : workspace.Applies number session.host workspace.settings.maxFrameBytes
      session.intake.splitter.discarding (session.intake.queue ++ session.intake.inHand.toList)
      (session.station host) (session.intake.buffer ++ Arrival.contents session.intake.arrivals) []
      session host :=
    ⟨present, hosted, rfl, sound, active, sound.intake.gives listens, rfl⟩
  have folds : ∀ some, workspace.QuietRun number session.host some →
      workspace.streamOf number some = workspace.streamOf number moves →
      (workspace.run some).Idle number →
      ∃ after hostAfter, (workspace.run some).sessions[number]? = .some after ∧
        (workspace.run some).hosts[session.host]? = .some hostAfter ∧
        ⟨after.completion.expireWait, hostAfter⟩ = folded := by
    intro some quietly same waits
    obtain ⟨given, after, hostAfter, applies⟩ := begun.run some quietly
    rw [same] at applies
    exact ⟨after, hostAfter, applies.present, applies.hosted, applies.settled waits fit⟩
  exact ⟨folds moves quiet rfl idle, folds⟩

/-- A character is typed between two others when the engine has started over. -/
def typedBetween : Workspace :=
  connectedBetween.run (answeredBy [0] ++ [.edit ⟨['d']⟩ (.type 'a')])

/-- The engine sends text that is not well-formed and then an expansion, cut inside of both. -/
def expansionInPieces : List Move :=
  [.act 0 .outlet, .deliver 0 [255], .act 0 .intake, .act 0 .intake, .arrive 0 [.bytes [0, 112]],
    .act 0 .intake, .act 0 .intake, .act 0 .intake, .act 0 .worker, .deliver 0 [113, 0],
    .act 0 .outlet] ++
    List.replicate 5 (.act 0 .intake) ++ List.replicate 6 (.act 0 .worker)

/-- The expansion takes the place of the character. -/
theorem expansion_in_pieces_folded :
    ∃ session host, typedBetween.Reached ∧ typedBetween.sessions[0]? = some session ∧
      typedBetween.hosts[session.host]? = some host ∧ session.cancelled = false ∧
      session.intake.Listens ∧ typedBetween.QuietRun 0 session.host expansionInPieces ∧
      (∀ frame ∈ (Framing.ofStream (session.intake.remaining
          (typedBetween.streamOf 0 expansionInPieces))).frames,
        frame.length ≤ typedBetween.settings.maxFrameBytes + 1) ∧
      (typedBetween.run expansionInPieces).Idle 0 ∧
      ∃ hostAfter, (typedBetween.run expansionInPieces).hosts[session.host]? = some hostAfter ∧
        hostAfter.buffer = ⟨['x', 'p', 'q', 'y'], 3, none⟩ := by
  have opened : openBetween.Reached := ⟨_, _, _, _, _, rfl⟩
  have reached : typedBetween.Reached := (opened.run [.activate ⟨['d']⟩ 0 ['c']]).run _
  have stage : (typedBetween.sessions[0]?.bind fun session =>
      typedBetween.hosts[session.host]?.map fun host =>
        (session.cancelled, session.intake,
          ((session.station host).answerAll [.expanded ['p', 'q']]).host.buffer)) =
      some (false, .start typedBetween.settings.maxFrameBytes Session.replyCapacity,
        ⟨['x', 'p', 'q', 'y'], 3, none⟩) := by decide
  have brought : typedBetween.streamOf 0 expansionInPieces = [255, 0, 112, 113, 0] := by decide
  obtain ⟨session, present, hosted⟩ := Option.bind_eq_some_iff.mp stage
  obtain ⟨host, hosted, facts⟩ := Option.map_eq_some_iff.mp hosted
  simp only [Prod.mk.injEq] at facts
  obtain ⟨active, intake, folded⟩ := facts
  have listens : session.intake.Listens := by
    rw [intake]
    exact ⟨rfl, rfl, rfl, nofun⟩
  have quiet : typedBetween.QuietRun 0 session.host expansionInPieces := by
    apply quietRun_of_forall
    simp only [expansionInPieces, List.forall_mem_append, List.forall_mem_cons,
      List.forall_mem_replicate, List.not_mem_nil, false_implies, implies_true, and_true]
    have pieces : ∀ arrival ∈ [Arrival.bytes [0, 112]], arrival.Brings := by
      simpa using ⟨[0, 112], List.cons_ne_nil _ _, rfl⟩
    exact ⟨⟨⟨fun _ => .acts _, fun _ => .writes _, fun _ => .acts _, fun _ => .acts _,
      fun _ => .brings pieces, fun _ => .acts _, fun _ => .acts _, fun _ => .acts _,
      fun _ => .acts _, fun _ => .writes _, fun _ => .acts _⟩, .inr fun _ => .acts _⟩,
      .inr fun _ => .acts _⟩
  have frames : (Framing.ofStream (session.intake.remaining
      (typedBetween.streamOf 0 expansionInPieces))).frames = [[255, 0], [112, 113, 0]] := by
    have whole : session.intake.remaining [255, 0, 112, 113, 0] =
        [255] ++ terminator :: ([112, 113] ++ terminator :: []) := by
      rw [intake]
      rfl
    have first : Unfinished [255] := ⟨255, [], rfl, by decide, by decide⟩
    have second : Unfinished [112, 113] := ⟨112, [113], rfl, by decide, by decide⟩
    rw [brought, whole, Framing.ofStream_finished _ _ first, Framing.ofStream_finished _ _ second,
      Framing.ofStream]
    rfl
  have fit : ∀ frame ∈ (Framing.ofStream (session.intake.remaining
      (typedBetween.streamOf 0 expansionInPieces))).frames,
      frame.length ≤ typedBetween.settings.maxFrameBytes + 1 := by
    rw [frames]
    decide
  have idle : (typedBetween.run expansionInPieces).Idle 0 := by
    have waits : ((typedBetween.run expansionInPieces).act 0 .intake).isNone ∧
        ((typedBetween.run expansionInPieces).act 0 .outlet).isNone ∧
        ((typedBetween.run expansionInPieces).act 0 .worker).isNone := by decide +kernel
    obtain ⟨reads, writes, works⟩ := waits
    refine ⟨?_, by decide +kernel⟩
    rintro (_ | _ | _)
    · exact Option.isNone_iff_eq_none.mp reads
    · exact Option.isNone_iff_eq_none.mp writes
    · exact Option.isNone_iff_eq_none.mp works
  obtain ⟨⟨after, hostAfter, -, hostedAfter, same⟩, -⟩ := replies_are_folded reached present hosted
    active listens expansionInPieces quiet fit idle
  have owed : session.intake.owes (typedBetween.streamOf 0 expansionInPieces) =
      [.expanded ['p', 'q']] := by
    rw [Intake.owes, frames, intake]
    decide
  rw [owed] at same
  have buffer : hostAfter.buffer = ⟨['x', 'p', 'q', 'y'], 3, none⟩ :=
    (congrArg (fun station => station.host.buffer) same).trans folded
  exact ⟨session, host, reached, present, hosted, active, listens, quiet, fit, idle, hostAfter,
    hostedAfter, buffer⟩

end Workspace

end Typeahead
