import Typeahead.Engine.Reply
import Typeahead.Engine.Splitter

/-!
# The inbound side of a connection

The intake reads the engine's stream, splits it into frames, decodes each frame and
queues the replies in the order in which they came. Frames that hold no reply are
skipped. The queue is bounded: while it is full the intake waits with one reply in hand
and reads nothing.

`step` does the next small piece of work, if there is one: it looks for a frame while
there may be one, then reads what the stream has next. Cancellation is noticed between
two pieces, but not with a reply in hand. An intake that finishes closes its queue.
-/

namespace Typeahead

/-- What one read of a stream brings. -/
inductive Arrival where
  /-- These bytes; none of them mean that the stream has ended. -/
  | bytes (content : Bytes)
  /-- The read fails. -/
  | failure
deriving Repr, DecidableEq

/-- The inbound side of a connection. -/
structure Intake where
  splitter : Splitter
  /-- Bytes read and not yet split off. -/
  buffer : Bytes
  /-- What the next reads bring, as far as it has arrived. -/
  arrivals : List Arrival
  /-- Whether the stream ends behind all that arrives. -/
  closed : Bool
  /-- Whether the buffer may hold a complete frame. -/
  searching : Bool
  /-- Whether the end of the stream has been read. -/
  ended : Bool
  /-- A reply that waits for a place in the queue. -/
  inHand : Option Reply
  /-- Replies that have not been taken, oldest first. -/
  queue : List Reply
  /-- Most replies in the queue. -/
  capacity : Nat
  finished : Bool
deriving Repr, DecidableEq

namespace Intake

/-- An intake at the start of a stream. -/
def start (limit capacity : Nat) : Intake where
  splitter := .ofLimit limit
  buffer := []
  arrivals := []
  closed := false
  searching := true
  ended := false
  inHand := none
  queue := []
  capacity
  finished := false

/-- More arrives on the stream; it goes unread once the intake has finished. -/
def receive (intake : Intake) (arrivals : List Arrival) : Intake :=
  if intake.finished then intake else { intake with arrivals := intake.arrivals ++ arrivals }

/-- Bytes arrive on a stream that does not keep the bounds of what was written: they
    join the bytes that already wait to be read. -/
def receiveBytes (intake : Intake) (content : Bytes) : Intake :=
  if intake.finished ∨ content = [] then intake
  else
    match intake.arrivals.getLast? with
    | some (.bytes waiting) =>
      { intake with arrivals := intake.arrivals.dropLast ++ [.bytes (waiting ++ content)] }
    | _ => intake.receive [.bytes content]

/-- The writer of the stream closes it. What has arrived, or arrives later all the same, is
    read before the end. -/
def close (intake : Intake) : Intake :=
  { intake with closed := true }

/-- The intake without the first `count` replies of its queue, and those replies. -/
def take (intake : Intake) (count : Nat) : List Reply × Intake :=
  (intake.queue.take count, { intake with queue := intake.queue.drop count })

/-- Offer the reply in hand to the queue. It waits for a place, unless nobody will ever
    take from the queue again. -/
def offer (intake : Intake) (reply : Reply) (abandoned : Bool) : Option Intake :=
  if abandoned then some { intake with inHand := none, finished := true }
  else if intake.queue.length < intake.capacity then
    some { intake with inHand := none, queue := intake.queue ++ [reply] }
  else none

/-- Look for a frame at the head of the buffer. -/
def search (intake : Intake) : Intake :=
  let cut :=
    if intake.ended then intake.splitter.nextAtEnd intake.buffer
    else intake.splitter.next intake.buffer
  let after := { intake with splitter := cut.splitter, buffer := cut.rest }
  match cut.frame with
  | none => { after with searching := false, finished := intake.ended }
  | some frame =>
    match Reply.decode frame with
    | .ok reply => { after with inHand := some reply }
    | .error _ => after

/-- Read once from the stream, if anything has arrived or the end has come. A read that
    brings no bytes means that the stream has ended. -/
def read (intake : Intake) : Option Intake :=
  match intake.arrivals with
  | [] => if intake.closed then some { intake with ended := true, searching := true } else none
  | .bytes [] :: rest => some { intake with arrivals := rest, ended := true, searching := true }
  | .bytes content :: rest =>
    some { intake with buffer := intake.buffer ++ content, arrivals := rest, searching := true }
  | .failure :: rest => some { intake with arrivals := rest, finished := true }

/-- The next piece of work. `abandoned` says that nobody takes from the queue any more. -/
def step (cancelled abandoned : Bool) (intake : Intake) : Option Intake :=
  if intake.finished then none
  else
    match intake.inHand with
    | some reply => intake.offer reply abandoned
    | none =>
      if cancelled then some { intake with finished := true }
      else if intake.searching then some intake.search
      else intake.read

/-- A bound on the pieces of work left: two for each byte, since a byte can end a frame
    whose reply is then offered, three for each arrival, and a few for the end. -/
def effort (intake : Intake) : Nat :=
  2 * (intake.buffer.length + (intake.arrivals.map size).foldr (· + ·) 0) + 3 * intake.arrivals.length + 6
where
  /-- The bytes in an arrival. -/
  size : Arrival → Nat
    | .bytes content => content.length
    | _ => 0

/-- Work until nothing is left to do for now. -/
def settle (cancelled abandoned : Bool) (intake : Intake) : Intake :=
  go intake.effort intake
where
  /-- At most `count` pieces of work. -/
  go : Nat → Intake → Intake
    | 0, intake => intake
    | count + 1, intake =>
      match intake.step cancelled abandoned with
      | none => intake
      | some next => go count next

end Intake

end Typeahead
