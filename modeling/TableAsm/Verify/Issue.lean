import TableAsm.Definition.Document
import TableAsm.Word.Fields

namespace TableAsm

inductive Stage where
  | table
  | roundTrip
  | word
  | other (name : Text)
  deriving DecidableEq, Repr

namespace Stage

def name : Stage → Text
  | table => "TABLE"
  | roundTrip => "ROUNDTRIP"
  | word => "WORD"
  | other name => name

end Stage

inductive Detail where
  | text (t : Text)
  | fields (f : Fields)
  | entry (e : FormatEntry)
  deriving DecidableEq, Repr

def Detail.plain : Detail → Text
  | text t => t
  | fields f => f.text
  | entry e => e.text

structure Issue where
  stage : Stage
  kind : Option Kind := none
  line : Int := 0
  offset : Int := -1
  token : Text := []
  message : Text := []
  details : Option (List (Text × Detail)) := none
  deriving DecidableEq, Repr

def Failure.causeText? (e : Failure) : Option Text :=
  let below := (e.links.dropWhile fun link => link.fault?.isNone).drop 1
  if below.isEmpty && e.root == .silent then none
  else some (Failure.text { links := below, root := e.root })

namespace Issue

def ofFailure (stage : Stage) (e : Failure) : Issue :=
  match e.fault? with
  | none => { stage, message := e.text }
  | some f =>
    { stage
      kind := some f.kind
      line := f.line
      offset := f.offset
      token := f.token
      message :=
        match e.causeText? with
        | none => f.message
        | some cause => f.message ++ ": " ++ cause }

def text (i : Issue) : Text :=
  let place : Text :=
    if 0 < i.line then " line " ++ Text.signedDecimal i.line
    else if 0 ≤ i.offset then " offset 0x" ++ Text.hex i.offset.toNat
    else []
  "[" ++ i.stage.name ++ place ++ "] " ++ i.message

end Issue

namespace Dump

def string (t : Text) : Text :=
  let size : Text := if t.isEmpty then [] else "(len=" ++ Text.decimal t.length ++ ") "
  "(string) " ++ size ++ t.quoted

def byte (b : UInt8) : Text := "(uint8) " ++ Text.decimal b.toNat

def detail : Detail → List Text
  | .text t => [string t]
  | .fields f => ["(core.Fields) " ++ f.text]
  | .entry e =>
    ["(config.FormatDef) \x7b",
     "  Mnemonic: " ++ string e.mnemonic ++ ",",
     "  Fields: " ++ string e.fields ++ ",",
     "  Group: " ++ byte e.group ++ ",",
     "  Opcode: " ++ byte e.opcode,
     "\x7d"]

def pair (last : Bool) (key : Text) (value : Detail) : List Text :=
  let body : List Text :=
    match detail value with
    | [] => []
    | first :: rest => (string key ++ ": " ++ first) :: rest
  let closed : List Text :=
    if last then body else body.dropLast ++ (body.getLast?.toList.map fun (line : Text) => line ++ ",")
  closed.map fun line => ("  " : Text) ++ line

def details (pairs : List (Text × Detail)) : List Text :=
  let sorted := pairs.mergeSort fun a b => Text.precedes a.1 b.1
  let size : Text := if pairs.isEmpty then [] else "(len=" ++ Text.decimal pairs.length ++ ") "
  let body := sorted.zipIdx.flatMap fun ((key, value), i) => pair (i + 1 == sorted.length) key value
  let opening : Text := "(map[string]interface \x7b\x7d) " ++ size ++ "\x7b"
  let closing : Text := "\x7d"
  opening :: body ++ [closing]

end Dump

end TableAsm
