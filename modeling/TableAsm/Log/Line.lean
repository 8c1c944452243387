import TableAsm.Assembly.Event
import TableAsm.Log.Level
import TableAsm.Text.Blank

namespace TableAsm.Log

def needsQuotes (r : Rune) : Bool :=
  if r.code < 0x80 then r.code ≤ 0x20 || r.code == 0x22 || r.code == 0x3d
  else r.code == Rune.replacementCode || r.isBlank || !r.isPrintable

def value (t : Text) : Text :=
  if t.isEmpty || t.runes.any needsQuotes then t.quoted else t

def line (level : Level) (message : Text) (values : List (Text × Text)) : Text :=
  let pairs := (("level" : Text), level.text) :: ("msg", message) :: values
  Text.joined " " (pairs.map fun (key, v) => key ++ "=" ++ value v) ++ "\n"

def kept (least level : Level) (text : Text) : Text := if least ≤ level then text else []

def events (least : Level) (events : List Event) : Text :=
  kept least .trace <| events.flatMap fun event =>
    line .trace event.name [("item", event.item)]

end TableAsm.Log
