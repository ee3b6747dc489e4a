import Typeahead.Text.Basic

/-!
# Splitting the engine's stream into frames

Replies arrive as one run of bytes without lengths. The first byte of a frame tells
where it ends:

| first byte    | frame                                      |
|---------------|--------------------------------------------|
| 00 02 05 06   | that byte alone                            |
| 04            | that byte and the next one                 |
| 01 03         | through the next 00 after the first byte   |
| 07            | noise, dropped                             |
| 08 to FF      | through the next 00                        |

A `Splitter` takes frames off the head of a buffer to which the reader of the
stream appends. It remembers how far the pending frame has been searched for its
terminator, and it gives up a frame that outgrows the limit: what is buffered is
dropped, and so is everything through the next 00.
-/

namespace Typeahead

/-- What the first byte of a frame says about its extent. -/
inductive Lead where
  /-- The byte is the whole frame. -/
  | single
  /-- One more byte belongs to the frame. -/
  | pair
  /-- A tag; the frame runs through the first terminator after it. -/
  | tagged
  /-- Text; the frame runs through the first terminator. -/
  | text
  /-- Not the beginning of a frame. -/
  | noise
deriving Repr, DecidableEq

/-- The frame table. -/
def Lead.ofByte (byte : UInt8) : Lead :=
  if byte = 0 ∨ byte = 2 ∨ byte = 5 ∨ byte = 6 then .single
  else if byte = 4 then .pair
  else if byte = 1 ∨ byte = 3 then .tagged
  else if byte < 8 then .noise
  else .text

/-- The state that splitting keeps between two looks at the buffer. -/
structure Splitter where
  /-- Most bytes that a frame without its terminator may hold. -/
  limit : Nat
  /-- Bytes of the buffer already known to hold no terminator of the pending frame. -/
  scanned : Nat
  /-- Whether the bytes through the next terminator belong to a frame given up. -/
  discarding : Bool
deriving Repr, DecidableEq

namespace Splitter

/-- The limit used when nothing else is asked for, 1 MiB. -/
def defaultLimit : Nat := 1048576

/-- A splitter at the start of a stream. -/
def ofLimit (limit : Nat) : Splitter :=
  ⟨limit, 0, false⟩

/-- What one look at the buffer gives. -/
structure Cut where
  /-- The frame at the head, if it is complete. -/
  frame : Option Bytes
  /-- The state for the next look. -/
  splitter : Splitter
  /-- The buffer without the frame and without what was dropped. -/
  rest : Bytes
deriving Repr, DecidableEq

/-- Take a frame that runs through the first terminator at or after `bodyStart`. The
    search resumes where the last one stopped. -/
def cutTerminated (splitter : Splitter) (bodyStart : Nat) (buffer : Bytes) : Cut :=
  let start := max splitter.scanned bodyStart
  match (buffer.drop start).idxOf? terminator with
  | some offset =>
    let size := start + offset + 1
    ⟨some (buffer.take size), { splitter with scanned := 0 }, buffer.drop size⟩
  | none =>
    if splitter.limit < buffer.length then
      ⟨none, { splitter with scanned := 0, discarding := true }, []⟩
    else
      ⟨none, { splitter with scanned := buffer.length }, buffer⟩

/-- Take the frame at the head of a buffer that is not being discarded. -/
def cutFrame (splitter : Splitter) (buffer : Bytes) : Cut :=
  match buffer.dropWhile (fun byte => Lead.ofByte byte = .noise) with
  | [] => ⟨none, splitter, []⟩
  | lead :: body =>
    match Lead.ofByte lead with
    | .single => ⟨some [lead], splitter, body⟩
    | .pair =>
      match body with
      | [] => ⟨none, splitter, [lead]⟩
      | second :: rest => ⟨some [lead, second], splitter, rest⟩
    | .tagged => splitter.cutTerminated 1 (lead :: body)
    | _ => splitter.cutTerminated 0 (lead :: body)

/-- Look at the buffer for the next complete frame. -/
def next (splitter : Splitter) (buffer : Bytes) : Cut :=
  if splitter.discarding then
    match buffer.idxOf? terminator with
    | some offset => { splitter with discarding := false }.cutFrame (buffer.drop (offset + 1))
    | none => ⟨none, splitter, []⟩
  else splitter.cutFrame buffer

/-- Look at the buffer once the stream has ended: an incomplete frame can no longer
    be completed and is dropped. -/
def nextAtEnd (splitter : Splitter) (buffer : Bytes) : Cut :=
  let cut := splitter.next buffer
  if cut.frame.isNone ∧ cut.rest ≠ [] then
    ⟨none, { cut.splitter with scanned := 0 }, []⟩
  else cut

/-- Look again and again until no frame is complete, or until `most` frames have been
    taken; the frames come in stream order. -/
def take (look : Splitter → Bytes → Cut) (most : Nat) (splitter : Splitter) (buffer : Bytes) :
    List Bytes × Splitter × Bytes :=
  match most with
  | 0 => ([], splitter, buffer)
  | most + 1 =>
    let cut := look splitter buffer
    match cut.frame with
    | none => ([], cut.splitter, cut.rest)
    | some frame =>
      let (frames, splitter, rest) := take look most cut.splitter cut.rest
      (frame :: frames, splitter, rest)

/-- Take every complete frame. A frame holds at least one byte, so one look more than
    there are bytes comes to the point where none is complete. -/
def drain (look : Splitter → Bytes → Cut) (splitter : Splitter) (buffer : Bytes) :
    List Bytes × Splitter × Bytes :=
  take look (buffer.length + 1) splitter buffer

end Splitter

end Typeahead
