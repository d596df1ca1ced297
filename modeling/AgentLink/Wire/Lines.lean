import AgentLink.Wire.MessageReader
import AgentLink.Text.Utf8
import AgentLink.Text.Blank

/-!
# Line framing

The agent's output is a byte stream of newline-terminated JSON lines. `LineReader` cuts lines
from a growing buffer. It looks for a newline only within the first `maxLine + 1` bytes and
remembers how far it has already looked (`searched`). A line ends at the newline, which is
dropped with one carriage return before it; a buffer of more than `maxLine` bytes with no
newline in that window is refused as too long, and the reader then discards bytes up to and
including the next newline, across as many later reads as that takes, without refusing again.
At the end of the stream the bytes left form a last line, unless they are nothing or a single
carriage return.

`Inbox` turns lines into frames: a line that is not UTF-8 is refused, a line is trimmed of
Unicode white space, a blank line gives no frame, and any other line is read as an envelope
or, when that fails, reported with the reader's fault.

The inbox's bytes sit in a storage of `inboxStorage` bytes at first. Framing a line frees its
bytes at the front, but a read only fills the room after the unframed bytes; when there is
none, the unframed bytes move to the front if at least as many bytes have been framed before
them, and otherwise the storage grows to twice its size. How much one read may take therefore
depends on the history of the stream, which decides how many reads a burst of lines takes.
-/

namespace AgentLink

/-- The longest line accepted, in bytes. -/
def maxLine : Nat := 1048576

/-- What cutting a line gave. -/
inductive Cut where
  /-- A line's bytes, without the newline and one carriage return before it. -/
  | line (bytes : List UInt8)
  /-- A line longer than `maxLine` bytes; the reader now discards up to the next newline. -/
  | tooLong
  /-- No complete line is buffered. -/
  | pending
  deriving Inhabited

/-- The line cutter's memory between reads. -/
structure LineReader where
  /-- How far the buffer has been searched for a newline. -/
  searched : Nat := 0
  /-- Whether the rest of a too-long line is being discarded. -/
  discarding : Bool := false
  deriving Inhabited, DecidableEq

/-- The index of the first newline in a byte list. -/
def newlineIndex (bytes : List UInt8) : Option Nat := bytes.findIdx? (· == 10)

/-- Drop one carriage return at the end. -/
def dropCarriageReturn (bytes : List UInt8) : List UInt8 :=
  if bytes.getLast? = some 13 then bytes.dropLast else bytes

namespace LineReader

/-- Cut the next line from `buf`: the reader after, the buffer after, and what was cut. The
fuel bounds the discarding rounds; the buffer's length is enough. -/
def cut (r : LineReader) (buf : List UInt8) : Nat → LineReader × List UInt8 × Cut
  | 0 => (r, buf, .pending)
  | fuel + 1 =>
    let readTo := min (maxLine + 1) buf.length
    let window := (buf.take readTo).drop r.searched
    match r.discarding, newlineIndex window with
    | true, some off => cut ⟨0, false⟩ (buf.drop (off + r.searched + 1)) fuel
    | true, none =>
      let buf' := buf.drop readTo
      if buf'.isEmpty then (⟨0, true⟩, buf', .pending) else cut ⟨0, true⟩ buf' fuel
    | false, some off =>
      let stop := off + r.searched
      (⟨0, false⟩, buf.drop (stop + 1), .line (dropCarriageReturn (buf.take stop)))
    | false, none =>
      if maxLine < buf.length then ({ r with discarding := true }, buf, .tooLong)
      else ({ r with searched := readTo }, buf, .pending)

/-- Cut the next line at the end of the stream: what is left is a last line, unless it is
nothing or a lone carriage return. -/
def cutAtEnd (r : LineReader) (buf : List UInt8) : LineReader × List UInt8 × Cut :=
  match r.cut buf (buf.length + 1) with
  | (r', buf', .pending) =>
    let r'' := { r' with searched := 0 }
    if buf'.isEmpty ∨ buf' = [13] then (r'', buf', .pending)
    else (r'', [], .line (dropCarriageReturn buf'))
  | other => other

end LineReader

/-- One frame read from the agent. -/
inductive Frame where
  /-- A well-formed envelope. -/
  | message (m : Message)
  /-- A line that is not an envelope: the trimmed line (empty when it was too long or not
  UTF-8) and why. -/
  | malformed (line : String) (reason : String)
  deriving Inhabited

/-- The frame for a non-blank trimmed line. -/
def Frame.ofLine (line : String) : Frame :=
  match Message.parseText line with
  | .ok m => .message m
  | .error reason => .malformed line reason

/-- The reason given for a line that is too long. -/
def tooLongReason : String := "line too long: exceeded " ++ toString maxLine ++ " bytes"

/-- The reason given for a line that is not UTF-8. -/
def notUtf8Reason : String := "invalid UTF-8: Unable to decode input as UTF8"

/-- The size of the inbox's storage at first, in bytes. -/
def inboxStorage : Nat := 8192

/-- Bytes received from the agent and not yet framed, with the line cutter's memory, the size of
the storage and how many bytes at its front have been framed. -/
structure Inbox where
  reader : LineReader := {}
  buffer : List UInt8 := []
  storage : Nat := inboxStorage
  framed : Nat := 0
  deriving Inhabited

namespace Inbox

/-- Append received bytes. -/
def push (ib : Inbox) (bytes : List UInt8) : Inbox := { ib with buffer := ib.buffer ++ bytes }

/-- Make room for at least one more byte: with none left, move the unframed bytes to the front
when at least as many have been framed, or else grow the storage to twice its size. -/
def makeRoom (ib : Inbox) : Inbox :=
  let held := ib.buffer.length
  if ib.framed + held < ib.storage then ib
  else if held < ib.storage ∧ held ≤ ib.framed then { ib with framed := 0 }
  else { ib with storage := max (2 * ib.storage) (ib.framed + held + 1) }

/-- How many bytes a read may take: the room after the unframed bytes. -/
def room (ib : Inbox) : Nat := ib.storage - ib.framed - ib.buffer.length

/-- The next frame, skipping blank lines; `atEnd` when no more bytes will come. -/
def next (ib : Inbox) (atEnd : Bool) : Nat → Inbox × Option Frame
  | 0 => (ib, none)
  | fuel + 1 =>
    let (r, buf, c) := if atEnd then ib.reader.cutAtEnd ib.buffer
      else ib.reader.cut ib.buffer (ib.buffer.length + 1)
    let ib' : Inbox := ⟨r, buf, ib.storage, ib.framed + (ib.buffer.length - buf.length)⟩
    match c with
    | .pending => (ib', none)
    | .tooLong => (ib', some (.malformed "" tooLongReason))
    | .line bytes =>
      match utf8Decode bytes with
      | none => (ib', some (.malformed "" notUtf8Reason))
      | some s =>
        let t := trimBlanks s
        if t.isEmpty then next ib' atEnd fuel else (ib', some (Frame.ofLine t))

/-- The next frame, with fuel enough for the buffer. -/
def nextFrame (ib : Inbox) (atEnd : Bool) : Inbox × Option Frame :=
  ib.next atEnd (ib.buffer.length + 2)

/-- All frames available now, in order; `atEnd` when no more bytes will come. -/
def drain (ib : Inbox) (atEnd : Bool) : Nat → Inbox × List Frame
  | 0 => (ib, [])
  | fuel + 1 =>
    match ib.nextFrame atEnd with
    | (ib', some f) =>
      let (ib'', fs) := drain ib' atEnd fuel
      (ib'', f :: fs)
    | (ib', none) => (ib', [])

/-- All frames available now, with fuel enough for the buffer. -/
def drainAll (ib : Inbox) (atEnd : Bool) : Inbox × List Frame :=
  ib.drain atEnd (ib.buffer.length + 2)

end Inbox

/-- Where the framed reading of a stream stands: the inbox, whether it may still hold a frame
(false before the first read and once a look found none), and whether the last read found the
end of the stream, after which the last frames are cut and the reading is over. -/
structure Framer where
  inbox : Inbox := {}
  framing : Bool := false
  atEnd : Bool := false
  deriving Inhabited

/-- The bytes of an outbound message: its wire text and a newline. -/
def Message.line (m : Message) : String := m.render ++ "\n"

end AgentLink
