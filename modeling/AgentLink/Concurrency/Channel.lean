import AgentLink.Failure

/-!
# Pipes and one-shot cells

A `Pipe` is one direction of an in-memory byte stream between the bridge and an agent: the
writer appends bytes, the reader takes what has arrived. Closing the writing end lets the
reader see the end of the stream once it has taken everything; closing the reading end makes
every later write fail, as writing to a broken pipe does. A pipe whose reading has failed
(`fault`) gives that error to every later read instead of bytes.

A `Cell` carries one answer from one task to another: it is empty until it is filled once, or
abandoned when its filling end goes away unused.
-/

namespace AgentLink.Concurrency

/-- One direction of a byte stream. -/
structure Pipe where
  /-- Bytes written and not yet taken. -/
  unread : List UInt8
  /-- The writing end is open. -/
  writing : Bool
  /-- The reading end is open. -/
  reading : Bool
  /-- The error every read now meets, once reading the pipe has failed. -/
  fault : Option String
  deriving Inhabited

namespace Pipe

/-- A pipe with both ends open and nothing in it. -/
def fresh : Pipe := ⟨[], true, true, none⟩

/-- Append bytes; none when the reading end is closed. -/
def write (p : Pipe) (bytes : List UInt8) : Option Pipe :=
  if p.reading then some { p with unread := p.unread ++ bytes } else none

/-- Take everything that has arrived. -/
def take (p : Pipe) : List UInt8 × Pipe := (p.unread, { p with unread := [] })

/-- Take at most `n` of the bytes that have arrived, the first ones. -/
def takeAtMost (p : Pipe) (n : Nat) : List UInt8 × Pipe :=
  (p.unread.take n, { p with unread := p.unread.drop n })

/-- Whether the reader has seen the end: the writer is gone and nothing is left. -/
def ended (p : Pipe) : Bool := !p.writing && p.unread.isEmpty

/-- Whether a read would not have to wait: there are bytes, the end, or a failure. -/
def readable (p : Pipe) : Bool := !p.unread.isEmpty || !p.writing || p.fault.isSome

/-- Close the writing end. -/
def closeWriter (p : Pipe) : Pipe := { p with writing := false }

/-- Close the reading end; what was not taken is lost. -/
def closeReader (p : Pipe) : Pipe := { p with reading := false, unread := [] }

end Pipe

/-- A one-shot cell carrying the outcome of a call. -/
inductive Cell where
  /-- Nothing yet. -/
  | empty
  /-- The answer. -/
  | filled (outcome : Except Failure Json.Value)
  /-- The filling end went away without answering. -/
  | abandoned
  deriving Inhabited

namespace Cell

/-- Whether the cell holds its last state. -/
def isSettled : Cell → Bool
  | .empty => false
  | _ => true

/-- Fill an empty cell; a settled cell stays as it is. -/
def fill (c : Cell) (outcome : Except Failure Json.Value) : Cell :=
  match c with
  | .empty => .filled outcome
  | other => other

/-- Abandon an empty cell; a settled cell stays as it is. -/
def abandon : Cell → Cell
  | .empty => .abandoned
  | other => other

end Cell

end AgentLink.Concurrency
