import TableAsm.Fault.Basic
import TableAsm.Text.Capital
import TableAsm.Text.Quoted

namespace TableAsm

abbrev Level := Int

namespace Level

def debug : Level := -4
def info : Level := 0
def warn : Level := 4
def error : Level := 8

def trace : Level := 1

def signed (n : Int) : Text := if n < 0 then Text.signedDecimal n else "+" ++ Text.signedDecimal n

def text (l : Level) : Text :=
  let (name, base) : Text × Int :=
    if l < info then ("DEBUG", debug)
    else if l < warn then ("INFO", info)
    else if l < error then ("WARN", warn)
    else ("ERROR", error)
  if l = base then name else name ++ signed (l - base)

def ofName? (name : Text) : Option Level :=
  [(Text.ofString "DEBUG", debug), ("INFO", info), ("WARN", warn), ("ERROR", error)].lookup
    name.capitals

/-- Reads a sign and a number that together fit in 64 bits. The digits are read to their end as
long as they fit without the sign. -/
def readOffset : Text → Except Text.NumeralProblem Int
  | [] => .error .malformed
  | sign :: digits =>
    match Text.readNatural 10 Text.max64 digits with
    | .error problem => .error problem
    | .ok n =>
      let offset : Int := if sign = 0x2d then -n else n
      if Text.fitsSigned offset then .ok offset else .error .outOfRange

/-- Reads a level: a name, then possibly a signed distance. Case does not matter, and a level beyond
64 bits comes round from the other end. -/
def ofText? (t : Text) : Except Failure Level :=
  let fail := fun (words : Text) =>
    (((Failure.ofMessage words).inContext ("slog: level string " ++ t.quoted)).inContext
      ("invalid log level " ++ t.quoted))
  let isSign := fun (b : UInt8) => b == 0x2b || b == 0x2d
  let name : Text := t.takeWhile fun b => !isSign b
  let offsetText : Text := t.dropWhile fun b => !isSign b
  if t.sameName "trace" then .ok trace
  else
    let offset : Except Text.NumeralProblem Int :=
      if offsetText.isEmpty then .ok 0 else readOffset offsetText
    match offset with
    | .error .malformed =>
      .error (fail ("strconv.Atoi: parsing " ++ offsetText.quoted ++ ": invalid syntax"))
    | .error .outOfRange =>
      .error (fail ("strconv.Atoi: parsing " ++ offsetText.quoted ++ ": value out of range"))
    | .ok offset =>
      match ofName? name with
      | none => .error (fail "unknown name")
      | some level => .ok ((level + offset).bmod (Text.max64 + 1))

end Level

end TableAsm
