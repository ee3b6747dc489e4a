import Typeahead.Engine.Intake
import Typeahead.Proofs.Engine.Looking

/-!
# What comes out of the inbound side

The inbound side reads what has arrived into its buffer, looks for frames, decodes them and
puts the replies into a queue of bounded length, a piece of work at a time. Whatever the
order of these pieces, and whenever replies are taken from the queue in between, what has
been taken, what waits in the queue and what waits for a place there are the decodable
frames found so far (`Gives`), and once nothing is left to do they are those of the whole
stream: `Gives.all`.

A stream may be taken up at any point, also inside a frame that is being given up. Then the
bytes through the next terminator belong to no frame (`Framing.behind`).
-/

namespace Typeahead

namespace Arrival

/-- The bytes that an arrival brings. -/
def content : Arrival → Bytes
  | .bytes content => content
  | .failure => []

/-- The bytes that several arrivals bring. -/
def contents (arrivals : List Arrival) : Bytes :=
  arrivals.flatMap content

/-- What arrives later is brought later. -/
theorem contents_append (first second : List Arrival) :
    contents (first ++ second) = contents first ++ contents second :=
  List.flatMap_append

/-- An arrival that brings bytes: neither the end of the stream nor a failure. -/
def Brings (arrival : Arrival) : Prop :=
  ∃ content, content ≠ [] ∧ arrival = .bytes content

end Arrival

/-- The replies that frames hold. A frame that holds none is left out. -/
def Reply.ofFrames (frames : List Bytes) : List Reply :=
  frames.filterMap fun frame => (Reply.decode frame).toOption

/-- The replies of some frames and of further ones. -/
theorem Reply.ofFrames_append (first second : List Bytes) :
    ofFrames (first ++ second) = ofFrames first ++ ofFrames second :=
  List.filterMap_append

namespace Framing

/-- The part of a stream that is split into frames: all of it, or what comes behind the first
terminator, when the stream begins inside a frame that is being given up. -/
def behind (skipping : Bool) (stream : Bytes) : Bytes :=
  if skipping then afterTerminator stream else stream

/-- The search for a terminator passes over bytes that are none. -/
theorem dropWhile_clear {before : Bytes} (clear : terminator ∉ before) (rest : Bytes) :
    (before ++ rest).dropWhile (· ≠ terminator) = rest.dropWhile (· ≠ terminator) := by
  apply List.dropWhile_append_of_pos
  intro byte member
  simpa using fun same : byte = terminator => clear (same ▸ member)

/-- Without a terminator nothing comes behind it. -/
theorem afterTerminator_clear {bytes : Bytes} (clear : terminator ∉ bytes) :
    afterTerminator bytes = [] := by
  rw [afterTerminator, ← List.append_nil bytes, dropWhile_clear clear]
  rfl

/-- The bytes behind the first terminator. -/
theorem afterTerminator_split {before : Bytes} (clear : terminator ∉ before) (rest : Bytes) :
    afterTerminator (before ++ terminator :: rest) = rest := by
  rw [afterTerminator, dropWhile_clear clear]
  simp

/-- What arrives later comes behind a terminator that is there already. -/
theorem behind_append {skipping : Bool} {read : Bytes}
    (passed : skipping = true → terminator ∈ read) (piece : Bytes) :
    behind skipping (read ++ piece) = behind skipping read ++ piece := by
  cases skipping with
  | false => rfl
  | true =>
    obtain ⟨before, rest, rfl, clear⟩ := List.eq_append_cons_of_mem (passed rfl)
    simp only [behind, if_true]
    rw [List.append_assoc, List.cons_append, afterTerminator_split clear,
      afterTerminator_split clear]

end Framing

namespace Splitter

/-- Splitter and buffer have come so far with the bytes read: these frames have been taken. A stream
that begins inside a frame that is being given up gives no frame before the next terminator; behind
it, and from the start of any other stream, `Tracks` holds. When no search is under way, nothing
that the buffer holds is complete. -/
inductive Follows (limit : Nat) (searching : Bool) :
    Bool → Bytes → List Bytes → Splitter → Bytes → Prop where
  /-- The terminator of the frame that is being given up has not been passed. -/
  | inside {splitter : Splitter} {gone buffer : Bytes} (sameLimit : splitter.limit = limit)
      (discarding : splitter.discarding = true) (unsearched : splitter.scanned = 0)
      (clear : terminator ∉ gone) (settled : searching = false → terminator ∉ buffer) :
      Follows limit searching true (gone ++ buffer) [] splitter buffer
  /-- The splitter is at work on frames that are to be found. -/
  | tracking {skipping : Bool} {read : Bytes} {frames : List Bytes} {splitter : Splitter}
      {buffer lost : Bytes} {passed : List Bytes} (begun : skipping = true → terminator ∈ read)
      (tracks : Tracks limit (Framing.behind skipping read) frames splitter buffer passed lost)
      (settled : searching = false → Settled limit lost buffer) :
      Follows limit searching skipping read frames splitter buffer

variable {limit : Nat} {searching skipping : Bool} {read buffer : Bytes} {frames : List Bytes}
  {splitter : Splitter}

/-- A piece of the stream joins the buffer, and there is something to search. -/
theorem Follows.arrive (follows : Follows limit searching skipping read frames splitter buffer)
    (piece : Bytes) :
    Follows limit true skipping (read ++ piece) frames splitter (buffer ++ piece) := by
  cases follows with
  | inside sameLimit discarding unsearched clear =>
    rw [List.append_assoc]
    exact .inside sameLimit discarding unsearched clear nofun
  | tracking begun tracks =>
    have further := tracks.arrive piece
    rw [← Framing.behind_append begun] at further
    exact .tracking (fun skips => List.mem_append_left _ (begun skips)) further nofun

/-- A splitter with nothing searched and nothing to give up tracks what its buffer holds. -/
theorem tracks_afresh (sameLimit : splitter.limit = limit) (active : splitter.discarding = false)
    (coherent : splitter.Coherent buffer) : Tracks limit buffer [] splitter buffer [] [] where
  sameLimit := sameLimit
  coherent := coherent
  thinned := .nil
  whole _ := rfl
  inside discarding := absurd (active.symm.trans discarding) Bool.false_ne_true
  split _ := rfl

/-- Every look takes the frame that it finds; when it finds none, there is none to find. The look
that comes to the terminator of a frame being given up goes on behind it. -/
theorem Follows.look (follows : Follows limit searching skipping read frames splitter buffer) :
    let cut := splitter.next buffer
    Follows limit cut.frame.isSome skipping read (frames ++ cut.frame.toList) cut.splitter
      cut.rest := by
  intro cut
  cases follows with
  | @inside _ gone _ sameLimit discarding unsearched clear =>
    by_cases present : terminator ∈ buffer
    · obtain ⟨before, rest, rfl, clearBefore⟩ := List.eq_append_cons_of_mem present
      have looks : cut = { splitter with discarding := false }.cutFrame rest :=
        (next_behind rest discarding clearBefore).trans (next_active rest rfl)
      have fresh : Tracks limit rest [] { splitter with discarding := false } rest [] [] :=
        tracks_afresh sameLimit rfl (.of_unsearched _ _ unsearched)
      obtain ⟨passed, lost, tracks, settled, -⟩ := fresh.look_whole rfl
      have whole : Framing.behind true (gone ++ (before ++ terminator :: rest)) = rest := by
        rw [Framing.behind, if_pos rfl, ← List.append_assoc]
        exact Framing.afterTerminator_split (by simp [clear, clearBefore]) rest
      rw [looks]
      refine .tracking (fun _ => by simp) (by rw [whole]; exact tracks) fun none => settled ?_
      simpa using none
    · have nothing : cut = ⟨none, splitter, []⟩ := next_inside discarding present
      rw [nothing]
      have further : Follows limit false true (gone ++ buffer ++ []) [] splitter [] :=
        .inside sameLimit discarding unsearched (by simp [clear, present])
          fun _ => List.not_mem_nil
      simpa using further
  | tracking begun tracks =>
    obtain ⟨passed, lost, after, settled, -⟩ := tracks.look
    exact .tracking begun after fun none => settled (by simpa using none)

/-- When nothing is left to search, the frames taken are those of the stream, as long as none of
these is oversized. -/
theorem Follows.all (follows : Follows limit false skipping read frames splitter buffer)
    (fit : ∀ frame ∈ (Framing.ofStream (Framing.behind skipping read)).frames,
      ¬ Oversized limit frame) :
    frames = (Framing.ofStream (Framing.behind skipping read)).frames := by
  cases follows with
  | @inside _ gone _ _ _ _ clear settled =>
    have none : terminator ∉ gone ++ buffer := by simp [clear, settled rfl]
    rw [Framing.behind, if_pos rfl, Framing.afterTerminator_clear none, Framing.ofStream]
  | tracking _ tracks settled =>
    have whole := tracks.atEnd (settled rfl)
    rw [whole] at fit ⊢
    exact tracks.thinned.eq_of_none_oversized fit

/-- A stream can be taken up wherever a reader of it has come. -/
theorem Tracks.follows {fed lost : Bytes} {taken passed : List Bytes}
    (tracks : Tracks limit fed taken splitter buffer passed lost)
    (settled : searching = false → Settled limit lost buffer) :
    Follows limit searching splitter.discarding buffer [] splitter buffer := by
  cases discarding : splitter.discarding with
  | false =>
    have fresh : Tracks limit buffer [] splitter buffer [] [] :=
      tracks_afresh tracks.sameLimit discarding tracks.coherent
    refine .tracking nofun fresh fun still => ?_
    have kept := settled still
    rwa [tracks.whole discarding] at kept
  | true =>
    obtain ⟨unfinished, -⟩ := tracks.inside discarding
    have unsearched := tracks.coherent.unsearched_of_discarding discarding
    have begun : Follows limit searching true ([] ++ buffer) [] splitter buffer := by
      refine .inside tracks.sameLimit discarding unsearched List.not_mem_nil ?_
      -- A terminator would end the frame being given up, and nothing would be undecided.
      intro still present
      obtain ⟨before, rest, rfl, clear⟩ := List.eq_append_cons_of_mem present
      have undecided := congrArg Framing.frames (settled still).undecided
      rw [← List.append_assoc, Framing.ofStream_finished _ rest (unfinished.append before clear)]
        at undecided
      cases undecided
    exact begun

end Splitter

namespace Intake

/-- A piece of work of the inbound side. -/
inductive Work (cancelled abandoned : Bool) (intake : Intake) : Intake → Prop where
  /-- The reply in hand is dropped, since nobody takes replies any more. -/
  | drops {reply : Reply} (held : intake.inHand = some reply) (left : abandoned = true) :
      Work cancelled abandoned intake { intake with inHand := none, finished := true }
  /-- The reply in hand finds a place in the queue. -/
  | puts {reply : Reply} (held : intake.inHand = some reply) (kept : abandoned = false)
      (room : intake.queue.length < intake.capacity) :
      Work cancelled abandoned intake
        { intake with inHand := none, queue := intake.queue ++ [reply] }
  /-- The inbound side was told to stop. -/
  | stops (empty : intake.inHand = none) (told : cancelled = true) :
      Work cancelled abandoned intake { intake with finished := true }
  /-- A frame is found, and it holds a reply. -/
  | finds {frame rest : Bytes} {splitter : Splitter} {reply : Reply}
      (empty : intake.inHand = none) (searching : intake.searching = true)
      (found : intake.splitter.next intake.buffer = ⟨some frame, splitter, rest⟩)
      (decoded : Reply.decode frame = .ok reply) :
      Work cancelled abandoned intake { intake with splitter, buffer := rest, inHand := some reply }
  /-- A frame is found, and it holds none. -/
  | skips {frame rest : Bytes} {splitter : Splitter} {fault : Reply.Malformed}
      (empty : intake.inHand = none) (searching : intake.searching = true)
      (found : intake.splitter.next intake.buffer = ⟨some frame, splitter, rest⟩)
      (undecodable : Reply.decode frame = .error fault) :
      Work cancelled abandoned intake { intake with splitter, buffer := rest }
  /-- No frame is found; at the end of the stream, none will be. -/
  | runsOut {rest : Bytes} {splitter : Splitter} (empty : intake.inHand = none)
      (found : intake.ended = false → intake.splitter.next intake.buffer = ⟨none, splitter, rest⟩)
      (searching : intake.searching = true) (shorter : rest.length ≤ intake.buffer.length) :
      Work cancelled abandoned intake
        { intake with splitter, buffer := rest, searching := false, finished := intake.ended }
  /-- Some bytes are read. -/
  | reads {content : Bytes} {rest : List Arrival} (empty : intake.inHand = none)
      (arrived : intake.arrivals = .bytes content :: rest) (piece : content ≠ [])
      (searched : intake.searching = false) (untold : cancelled = false) :
      Work cancelled abandoned intake
        { intake with buffer := intake.buffer ++ content, arrivals := rest, searching := true }
  /-- The end of the stream is read. -/
  | ends {rest : List Arrival} (empty : intake.inHand = none)
      (exhausted : intake.arrivals = .bytes [] :: rest ∨
        intake.arrivals = [] ∧ rest = [] ∧ intake.closed = true)
      (searched : intake.searching = false) (untold : cancelled = false) :
      Work cancelled abandoned intake
        { intake with arrivals := rest, ended := true, searching := true }
  /-- A read fails. -/
  | fails {rest : List Arrival} (empty : intake.inHand = none)
      (failure : intake.arrivals = .failure :: rest) (searched : intake.searching = false)
      (untold : cancelled = false) :
      Work cancelled abandoned intake { intake with arrivals := rest, finished := true }

variable {intake next : Intake} {cancelled abandoned : Bool}

/-- A look for a frame is a piece of work. -/
theorem search_work (empty : intake.inHand = none) (searching : intake.searching = true) :
    intake.Work cancelled abandoned intake.search := by
  unfold search
  generalize looks : (if intake.ended then intake.splitter.nextAtEnd intake.buffer
    else intake.splitter.next intake.buffer) = cut
  obtain ⟨frame, splitter, rest⟩ := cut
  cases frame with
  | none =>
    refine .runsOut empty ?_ searching ?_
    · intro open'
      rwa [if_neg (by simp [open'])] at looks
    · split at looks
      · exact looks ▸ (Splitter.nextAtEnd_shortens intake.splitter intake.buffer).le
      · exact looks ▸ (Splitter.next_shortens intake.splitter intake.buffer).le
  | some frame =>
    have found : intake.splitter.next intake.buffer = ⟨some frame, splitter, rest⟩ := by
      split at looks
      · rw [← Splitter.nextAtEnd_found (congrArg Splitter.Cut.frame looks), looks]
      · exact looks
    cases decoded : Reply.decode frame with
    | ok reply =>
      simp only [decoded]
      exact .finds empty searching found decoded
    | error fault =>
      simp only [decoded]
      exact .skips empty searching found decoded

/-- A read is a piece of work. -/
theorem read_work (empty : intake.inHand = none) (searched : intake.searching = false)
    (untold : cancelled = false) (read : intake.read = some next) :
    intake.Work cancelled abandoned next := by
  unfold Intake.read at read
  cases arrived : intake.arrivals with
  | nil =>
    simp only [arrived] at read
    split at read
    · next closed =>
      cases read
      exact .ends empty (.inr ⟨arrived, rfl, closed⟩) searched untold
    · cases read
  | cons arrival rest =>
    cases arrival with
    | failure =>
      simp only [arrived, Option.some.injEq] at read
      subst read
      exact .fails empty arrived searched untold
    | bytes content =>
      cases content with
      | nil =>
        simp only [arrived, Option.some.injEq] at read
        subst read
        exact .ends empty (.inl arrived) searched untold
      | cons byte more =>
        simp only [arrived, Option.some.injEq] at read
        subst read
        exact .reads empty arrived (List.cons_ne_nil _ _) searched untold

/-- Every piece of work is one of these. -/
theorem step_work (stepped : intake.step cancelled abandoned = some next) :
    intake.finished = false ∧ intake.Work cancelled abandoned next := by
  unfold step at stepped
  split at stepped
  · cases stepped
  · next active =>
    refine ⟨by simpa using active, ?_⟩
    split at stepped
    · next reply held =>
      unfold offer at stepped
      split at stepped
      · next left =>
        cases stepped
        exact .drops held left
      · next taken =>
        split at stepped
        · next room =>
          cases stepped
          exact .puts held (eq_false_of_ne_true taken) room
        · cases stepped
    · next empty =>
      split at stepped
      · next told =>
        cases stepped
        exact .stops empty told
      · next untold =>
        split at stepped
        · next searching =>
          cases stepped
          exact search_work empty searching
        · next searched =>
          exact read_work empty (eq_false_of_ne_true searched) (eq_false_of_ne_true untold) stepped

/-- An inbound side that goes on reading: it has not finished, and neither the end of the stream nor
a failure has arrived. -/
structure Listens (intake : Intake) : Prop where
  active : intake.finished = false
  unended : intake.ended = false
  unclosed : intake.closed = false
  pieces : ∀ arrival ∈ intake.arrivals, arrival.Brings

/-- The replies that an inbound side has put out and those that it still holds are, behind those
that it held at first, the replies of the frames that it has found in a stream of which it has read
all but what waits to be read. -/
structure Gives (limit : Nat) (skipping : Bool) (first : List Reply) (stream : Bytes)
    (given : List Reply) (intake : Intake) : Prop where
  listens : intake.Listens
  reading : ∃ read frames, stream = read ++ Arrival.contents intake.arrivals ∧
    Splitter.Follows limit intake.searching skipping read frames intake.splitter intake.buffer ∧
    given ++ intake.queue ++ intake.inHand.toList = first ++ Reply.ofFrames frames

namespace Gives

variable {limit : Nat} {skipping : Bool} {first given : List Reply} {stream : Bytes}

/-- More of the stream arrives. -/
theorem receive (gives : Gives limit skipping first stream given intake) {arrivals : List Arrival}
    (brings : ∀ arrival ∈ arrivals, arrival.Brings) :
    Gives limit skipping first (stream ++ Arrival.contents arrivals) given
      (intake.receive arrivals) := by
  obtain ⟨listens, read, frames, whole, follows, holds⟩ := gives
  rw [Intake.receive, if_neg (by simp [listens.active])]
  refine ⟨⟨listens.active, listens.unended, listens.unclosed, ?_⟩, read, frames, ?_, follows, holds⟩
  · intro arrival member
    rcases List.mem_append.mp member with before | behind
    · exact listens.pieces arrival before
    · exact brings arrival behind
  · rw [whole, Arrival.contents_append, List.append_assoc]

/-- The engine writes more of the stream; where the bytes join what waits to be read, they do so at
its end. -/
theorem receiveBytes (gives : Gives limit skipping first stream given intake) (content : Bytes) :
    Gives limit skipping first (stream ++ content) given (intake.receiveBytes content) := by
  by_cases nothing : content = []
  · rw [Intake.receiveBytes, if_pos (.inr nothing), nothing, List.append_nil]
    exact gives
  · have writes : ¬ (intake.finished = true ∨ content = []) := by
      simp [gives.listens.active, nothing]
    have brought : Arrival.contents [.bytes content] = content := List.append_nil content
    rw [Intake.receiveBytes, if_neg writes]
    split
    · next waiting last =>
      obtain ⟨listens, read, frames, whole, follows, holds⟩ := gives
      obtain ⟨earlier, arrivals⟩ := List.getLast?_eq_some_iff.mp last
      refine ⟨⟨listens.active, listens.unended, listens.unclosed, ?_⟩, read, frames, ?_, follows,
        holds⟩
      · intro arrival member
        rw [arrivals, List.dropLast_concat] at member
        rcases List.mem_append.mp member with before | joined
        · exact listens.pieces arrival (by simp [arrivals, before])
        · obtain rfl := List.mem_singleton.mp joined
          exact ⟨waiting ++ content, by simp [nothing], rfl⟩
      · rw [whole, arrivals, List.dropLast_concat]
        simp [Arrival.contents, Arrival.content]
    · have brings : ∀ arrival ∈ [Arrival.bytes content], arrival.Brings := by
        simpa using ⟨content, nothing, rfl⟩
      have more := gives.receive brings
      rwa [brought] at more

/-- Every piece of work keeps account of the replies. -/
theorem work (gives : Gives limit skipping first stream given intake)
    (work : intake.Work false false next) : Gives limit skipping first stream given next := by
  obtain ⟨listens, read, frames, whole, follows, holds⟩ := gives
  cases work with
  | drops held left => cases left
  | stops empty told => cases told
  | puts held =>
    refine ⟨⟨listens.active, listens.unended, listens.unclosed, listens.pieces⟩, read, frames,
      whole, follows, ?_⟩
    simpa [held] using holds
  | @finds frame _ _ reply empty searching found decoded =>
    have looked := follows.look
    simp only [found, Option.isSome_some, ← searching] at looked
    refine ⟨⟨listens.active, listens.unended, listens.unclosed, listens.pieces⟩, read,
      frames ++ [frame], whole, looked, ?_⟩
    have reads : Reply.ofFrames [frame] = [reply] := by
      simp [Reply.ofFrames, decoded, Except.toOption]
    rw [Reply.ofFrames_append, reads, ← List.append_assoc, ← holds, empty]
    simp
  | @skips frame _ _ fault empty searching found undecodable =>
    have looked := follows.look
    simp only [found, Option.isSome_some, ← searching] at looked
    refine ⟨⟨listens.active, listens.unended, listens.unclosed, listens.pieces⟩, read,
      frames ++ [frame], whole, looked, ?_⟩
    have reads : Reply.ofFrames [frame] = [] := by
      simp [Reply.ofFrames, undecodable, Except.toOption]
    rw [Reply.ofFrames_append, reads, List.append_nil, ← holds]
  | runsOut empty found =>
    have looked := follows.look
    simp only [found listens.unended, Option.isSome_none, Option.toList_none, List.append_nil]
      at looked
    exact ⟨⟨listens.unended, listens.unended, listens.unclosed, listens.pieces⟩, read, frames,
      whole, looked, holds⟩
  | @reads content rest empty arrived =>
    obtain ⟨-, later⟩ := List.forall_mem_cons.mp (arrived ▸ listens.pieces)
    refine ⟨⟨listens.active, listens.unended, listens.unclosed, later⟩, read ++ content, frames, ?_,
      follows.arrive content, holds⟩
    rw [whole, arrived]
    simp [Arrival.contents, Arrival.content]
  | ends empty exhausted =>
    rcases exhausted with arrived | ⟨-, -, closed⟩
    · obtain ⟨⟨content, some, same⟩, -⟩ := List.forall_mem_cons.mp (arrived ▸ listens.pieces)
      cases same
      exact absurd rfl some
    · exact absurd (listens.unclosed.symm.trans closed) Bool.false_ne_true
  | fails empty failure =>
    obtain ⟨⟨_, _, same⟩, -⟩ := List.forall_mem_cons.mp (failure ▸ listens.pieces)
    cases same

/-- A reply is taken from the queue. -/
theorem take (gives : Gives limit skipping first stream given intake) {reply : Reply}
    {queue : List Reply} (head : intake.queue = reply :: queue) :
    Gives limit skipping first stream (given ++ [reply]) { intake with queue } := by
  obtain ⟨listens, read, frames, whole, follows, holds⟩ := gives
  refine ⟨⟨listens.active, listens.unended, listens.unclosed, listens.pieces⟩, read, frames, whole,
    follows, ?_⟩
  simpa [head] using holds

/-- Once nothing is left to do and every reply has been taken, these are the replies of the stream,
as long as its frames fit the limit. -/
theorem all (gives : Gives limit skipping first stream given intake) (room : 0 < intake.capacity)
    (empty : intake.queue = []) (idle : intake.step false false = none)
    (fit : ∀ frame ∈ (Framing.ofStream (Framing.behind skipping stream)).frames,
      frame.length ≤ limit + 1) :
    given =
      first ++ Reply.ofFrames (Framing.ofStream (Framing.behind skipping stream)).frames := by
  obtain ⟨listens, read, frames, whole, follows, holds⟩ := gives
  have waits := idle
  simp only [step, listens.active, Bool.false_eq_true, if_false] at waits
  cases held : intake.inHand with
  | some reply =>
    simp [held, offer, empty, room] at waits
  | none =>
    simp only [held] at waits
    cases searching : intake.searching with
    | true => simp [searching] at waits
    | false =>
      simp only [searching, Bool.false_eq_true, if_false, Intake.read] at waits
      cases arrived : intake.arrivals with
      | cons arrival rest =>
        obtain ⟨⟨content, some, rfl⟩, -⟩ := List.forall_mem_cons.mp (arrived ▸ listens.pieces)
        cases content with
        | nil => exact absurd rfl some
        | cons byte more => simp [arrived] at waits
      | nil =>
        rw [arrived] at whole
        have complete : stream = read := whole.trans (List.append_nil read)
        rw [searching] at follows
        have frames_eq := follows.all fun frame member =>
          Splitter.not_oversized (fit frame (complete ▸ member))
        rw [complete, ← frames_eq, ← holds, empty, held]
        simp

end Gives

/-- What arrives waits to be read, and nothing else changes. -/
theorem receive_arrivals (intake : Intake) (arrivals : List Arrival) :
    ∃ later, intake.receive arrivals = { intake with arrivals := later } := by
  unfold receive
  split
  · exact ⟨intake.arrivals, rfl⟩
  · exact ⟨_, rfl⟩

/-- So does what the engine writes. -/
theorem receiveBytes_arrivals (intake : Intake) (content : Bytes) :
    ∃ later, intake.receiveBytes content = { intake with arrivals := later } := by
  unfold receiveBytes
  split
  · exact ⟨intake.arrivals, rfl⟩
  · split
    · exact ⟨_, rfl⟩
    · exact intake.receive_arrivals _

/-- What can happen to the inbound side of a connection. -/
inductive Turn (cancelled : Bool) (intake : Intake) : Intake → Prop where
  /-- Reads have something to bring. -/
  | arrived (arrivals : List Arrival) : Turn cancelled intake (intake.receive arrivals)
  /-- The engine has written. -/
  | written (content : Bytes) : Turn cancelled intake (intake.receiveBytes content)
  /-- The engine writes no more. -/
  | closed : Turn cancelled intake intake.close
  /-- A piece of work is done. -/
  | worked {abandoned : Bool} {next : Intake}
      (stepped : intake.step cancelled abandoned = some next) : Turn cancelled intake next

/-- What is known of an inbound side whatever has happened to it: as long as it has not finished,
splitter and buffer are those of a reader who has come so far in some stream. -/
structure Sound (limit : Nat) (intake : Intake) : Prop where
  room : 0 < intake.capacity
  reading : intake.finished = false → ∃ fed taken passed lost,
    Splitter.Tracks limit fed taken intake.splitter intake.buffer passed lost ∧
      (intake.searching = false → Splitter.Settled limit lost intake.buffer)

/-- An inbound side is sound from the start. -/
theorem sound_start (limit capacity : Nat) (room : 0 < capacity) :
    (start limit capacity).Sound limit :=
  ⟨room, fun _ => ⟨[], [], [], [], .start limit, nofun⟩⟩

variable {limit : Nat}

/-- Whatever happens to an inbound side, it stays sound. -/
theorem Sound.turn (sound : intake.Sound limit) (turn : intake.Turn cancelled next) :
    next.Sound limit := by
  cases turn with
  | arrived arrivals =>
    unfold receive
    split
    · exact sound
    · exact ⟨sound.room, sound.reading⟩
  | written content =>
    unfold receiveBytes
    split
    · exact sound
    · split
      · exact ⟨sound.room, sound.reading⟩
      · unfold receive
        split
        · exact sound
        · exact ⟨sound.room, sound.reading⟩
  | closed => exact ⟨sound.room, sound.reading⟩
  | worked stepped =>
    obtain ⟨active, work⟩ := step_work stepped
    obtain ⟨fed, taken, passed, lost, tracks, settled⟩ := sound.reading active
    cases work with
    | drops | stops | fails => exact ⟨sound.room, nofun⟩
    | puts => exact ⟨sound.room, fun _ => ⟨fed, taken, passed, lost, tracks, settled⟩⟩
    | finds empty searching found | skips empty searching found =>
      obtain ⟨passedOn, lostOn, looked, -⟩ := tracks.look
      rw [found] at looked
      exact ⟨sound.room, fun _ => ⟨fed, _, passedOn, lostOn, looked,
        fun still => absurd (searching.symm.trans still) Bool.noConfusion⟩⟩
    | runsOut empty found =>
      refine ⟨sound.room, fun unended => ?_⟩
      obtain ⟨passedOn, lostOn, looked, settledOn, -⟩ := tracks.look
      rw [found unended] at looked settledOn
      exact ⟨fed, _, passedOn, lostOn, looked, fun _ => settledOn rfl⟩
    | reads => exact ⟨sound.room, fun _ => ⟨_, taken, passed, lost, tracks.arrive _, nofun⟩⟩
    | ends => exact ⟨sound.room, fun _ => ⟨fed, taken, passed, lost, tracks, nofun⟩⟩

/-- An inbound side that has finished stays so, whatever happens to it. -/
theorem Turn.finished (turn : intake.Turn cancelled next) (finished : intake.finished = true) :
    next.finished = true := by
  cases turn with
  | arrived => simp [receive, finished]
  | written => simp [receiveBytes, finished]
  | closed => exact finished
  | worked stepped => exact absurd ((step_work stepped).1.symm.trans finished) Bool.false_ne_true

/-- The stream of an inbound side from now on, as it is split into frames, when these bytes follow
all that has arrived. -/
def remaining (intake : Intake) (more : Bytes) : Bytes :=
  Framing.behind intake.splitter.discarding
    (intake.buffer ++ Arrival.contents intake.arrivals ++ more)

/-- The replies that an inbound side still has to give when these bytes follow all that has arrived:
those that it holds, and those of the frames to come. -/
def owes (intake : Intake) (more : Bytes) : List Reply :=
  intake.queue ++ intake.inHand.toList ++
    Reply.ofFrames (Framing.ofStream (intake.remaining more)).frames

/-- Any moment is a beginning: a sound inbound side that goes on reading gives what it holds, and
then the replies of what it has still to split. -/
theorem Sound.gives (sound : intake.Sound limit) (listens : intake.Listens) :
    Gives limit intake.splitter.discarding (intake.queue ++ intake.inHand.toList)
      (intake.buffer ++ Arrival.contents intake.arrivals) [] intake := by
  obtain ⟨_, _, _, _, tracks, settled⟩ := sound.reading listens.active
  exact ⟨listens, intake.buffer, [], rfl, tracks.follows settled, by simp [Reply.ofFrames]⟩

end Intake

end Typeahead
