import TableAsm.Fault.Basic

namespace TableAsm

/-- An output with a limited or unlimited number of writes left. -/
structure Sink where
  /-- The writes left; none means no limit. -/
  budget : Option Nat := none
  refusal : Text := []
  /-- The chunks accepted, latest first. -/
  chunks : List Text := []
  deriving DecidableEq, Repr

namespace Sink

def write (s : Sink) (chunk : Text) : Sink × Option Failure :=
  match s.budget with
  | some 0 => (s, some (.ofMessage s.refusal))
  | some (n + 1) => ({ s with budget := some n, chunks := chunk :: s.chunks }, none)
  | none => ({ s with chunks := chunk :: s.chunks }, none)

def accepted (s : Sink) : List Text := s.chunks.reverse

def bytes (s : Sink) : Text := s.accepted.flatten

end Sink

def bufferSize : Nat := 4096

structure Buffered where
  sink : Sink
  /-- The bytes that wait, latest first. -/
  pending : Text := []
  waiting : Nat := 0
  failure : Option Failure := none
  deriving DecidableEq, Repr

namespace Buffered

def flush (b : Buffered) : Buffered :=
  if b.failure.isSome || b.waiting == 0 then b
  else
    match b.sink.write b.pending.reverse with
    | (sink, none) => { sink }
    | (sink, some failure) => { b with sink, failure := some failure }

def put (b : Buffered) (byte : UInt8) : Buffered :=
  let b := if b.waiting = bufferSize then b.flush else b
  if b.failure.isSome then b
  else { b with pending := byte :: b.pending, waiting := b.waiting + 1 }

def write (b : Buffered) (bytes : Text) : Buffered × Option Failure :=
  let b := bytes.foldl put b
  (b, b.failure)

def writeLine (b : Buffered) (line : Text) : Buffered × Option Failure :=
  b.write (line ++ [Text.newline])

end Buffered

end TableAsm
