import TableAsm.Fault.Basic

/-!
Inputs. A byte input yields its bytes and then ends or fails. A line reader with a buffer of limited
size delivers lines from it: a line and its terminator must fit in the buffer, and an unterminated
last line must leave room in it.
-/
namespace TableAsm

/-- An error that a reader gives in place of more bytes. It may wrap another one, so that it counts as
the end of the input, or as an end inside a block, whatever it says. -/
structure ReadError where
  message : Text
  isEnd : Bool := false
  isUnexpectedEnd : Bool := false
  deriving DecidableEq, Repr

instance : Coe Text ReadError := ⟨fun message => { message }⟩

/-- Bytes that can be read, and the read error after them, if one comes. -/
structure ByteInput where
  bytes : Text
  failure? : Option ReadError := none
  deriving DecidableEq, Repr

/-- Lines that can be read, and the message of the read error after them, if one comes. -/
structure LineInput where
  lines : List Text
  failure? : Option Text := none
  deriving DecidableEq, Repr

def plainLineLimit : Nat := 65536

def bufferedLineLimit : Nat := 1048576

def lineTooLong : Text := "bufio.Scanner: token too long"

def rawLines (t : Text) : List Text :=
  let parts := t.splitAt Text.newline
  if parts.getLast? = some [] then parts.dropLast else parts

namespace LineInput

/-- The lines of a byte input up to the first that does not fit. One carriage return at the end of
a line is dropped. -/
def ofBytes (limit : Nat) (input : ByteInput) : LineInput :=
  let lines := rawLines input.bytes
  let fitting := lines.takeWhile fun line => line.length < limit
  { lines := fitting.map Text.dropCarriageReturn
    failure? := if fitting.length < lines.length then some lineTooLong
      else input.failure?.map ReadError.message }

end LineInput

end TableAsm
