import Typeahead.Engine.Request

/-!
# The outbound side of a connection

The outlet takes requests from a queue and writes each of them to the engine, by way of
a buffer that serves for one request after another. A stream takes as many bytes at a
time as it likes, so a request is offered until nothing of it is left or a write fails;
then the rest of the request is dropped, and the next one starts afresh. When the outlet
is cancelled, or its queue is closed and empty, it shuts the stream down, once, and
finishes, whether or not the shutdown succeeds.
-/

namespace Typeahead

/-- The stream to the engine, as seen by its writer. -/
structure Sink where
  /-- Most bytes taken by the write of a given number, 0 for any number of them. -/
  grant : Nat → Nat
  /-- How many writes there have been. -/
  writes : Nat
  /-- Bytes taken before every write fails, if there is such a point. -/
  budget : Option Nat
  /-- Whether shutting the stream down fails. -/
  shutdownFails : Bool
  /-- All bytes taken so far. -/
  written : Bytes
  /-- How often the stream has been shut down. -/
  shutdowns : Nat
  /-- Whether the engine has read the end of the stream. -/
  endSeen : Bool

namespace Sink

/-- A stream that takes everything at once. -/
def unlimited : Sink :=
  ⟨fun _ => 0, 0, none, false, [], 0, false⟩

/-- The stream after the engine dropped its end: every write fails. -/
def cut (sink : Sink) : Sink :=
  { sink with budget := some 0 }

/-- Whether every write fails. -/
def isCut (sink : Sink) : Bool :=
  sink.budget = some 0

/-- The stream after its writer has tried to shut it down, and whether that went well.
    The writer lets go of the stream in any case, so the engine reads the end unless it
    has dropped its own end before. -/
def shutDown (sink : Sink) : Sink × Bool :=
  ({ sink with shutdowns := sink.shutdowns + 1, endSeen := sink.endSeen || !sink.isCut },
    !sink.shutdownFails)

/-- How many bytes of an offer the next write takes, at least one, or nothing if it
    fails. -/
def accepts? (sink : Sink) (offer : Nat) : Option Nat :=
  let granted := if sink.grant sink.writes = 0 then offer else min offer (sink.grant sink.writes)
  match sink.budget with
  | none => some granted
  | some budget => if budget = 0 then none else some (min granted budget)

/-- The stream after a write that took `bytes`. -/
def took (sink : Sink) (bytes : Bytes) : Sink :=
  { sink with
    writes := sink.writes + 1
    budget := sink.budget.map (· - bytes.length)
    written := sink.written ++ bytes }

/-- Write until every byte is taken or a write fails, at most `count` times. -/
def writeUpTo : Nat → Sink → Bytes → Sink
  | 0, sink, _ => sink
  | count + 1, sink, bytes =>
    if bytes = [] then sink
    else
      match sink.accepts? bytes.length with
      | none => { sink with writes := sink.writes + 1 }
      | some size => writeUpTo count (sink.took (bytes.take size)) (bytes.drop size)

/-- Write all bytes as far as the stream takes them. Each write takes at least one. -/
def writeAll (sink : Sink) (bytes : Bytes) : Sink :=
  writeUpTo bytes.length sink bytes

end Sink

/-- The outbound side of a connection. -/
structure Outlet where
  sink : Sink
  /-- Where requests are encoded. -/
  buffer : Bytes
  /-- Requests still to be written, oldest first. -/
  queue : List Request
  /-- Whether no more requests will come. -/
  closed : Bool
  finished : Bool

namespace Outlet

/-- An outlet with nothing to write yet. -/
def start (sink : Sink) : Outlet :=
  ⟨sink, [], [], false, false⟩

/-- The outlet with one more request, unless it takes none any more. -/
def send? (outlet : Outlet) (request : Request) : Option Outlet :=
  if outlet.closed ∨ outlet.finished then none
  else some { outlet with queue := outlet.queue ++ [request] }

/-- Shut the stream down and stop, also when the shutdown fails. -/
def finish (outlet : Outlet) : Outlet :=
  let (sink, _) := outlet.sink.shutDown
  { outlet with sink, finished := true }

/-- Write a request. The buffer is emptied for it, and the bytes that a failed write has
    left over are given up with it. -/
def write (outlet : Outlet) (request : Request) : Outlet :=
  let buffer := request.encodeInto (outlet.buffer.take 0)
  { outlet with sink := outlet.sink.writeAll buffer, buffer }

/-- The next piece of work: one request, or the end. -/
def step (cancelled : Bool) (outlet : Outlet) : Option Outlet :=
  if outlet.finished then none
  else if cancelled then some outlet.finish
  else
    match outlet.queue with
    | request :: rest =>
      some { outlet.write request with queue := rest }
    | [] => if outlet.closed then some outlet.finish else none

/-- Work until nothing is left to do for now: one piece for each request and one for the
    end are enough. -/
def settle (cancelled : Bool) (outlet : Outlet) : Outlet :=
  go (outlet.queue.length + 1) outlet
where
  /-- At most `count` pieces of work. -/
  go : Nat → Outlet → Outlet
    | 0, outlet => outlet
    | count + 1, outlet =>
      match outlet.step cancelled with
      | none => outlet
      | some next => go count next

end Outlet

end Typeahead
