import TableAsm.Assembly.Listing
import TableAsm.Command.Invocation
import TableAsm.Command.Outcome
import TableAsm.Definition.Load
import TableAsm.Isa.Mu
import TableAsm.Log.Line
import TableAsm.Stream.Pipeline
import TableAsm.Word.Explain

namespace TableAsm.Command

def setText (t : Table) : Text :=
  let formats : Grid :=
    { title := "Instruction set " ++ t.name
      header := ["Mnemonic", "Fields", "Group", "Opcode"]
      rows := t.formats.map fun f =>
        [f.mnemonic, f.fields.text, Text.decimal f.group.toNat, Text.decimal f.opcode.toNat]
      numeric := [false, true, true, true] }
  let registers : Grid :=
    { title := "Registers"
      header := ["Index", "Name"]
      rows := t.registers.names.zipIdx.map fun (name, i) => [Text.decimal i, name]
      numeric := [true] }
  formats.text ++ "\n\n" ++ registers.text ++ "\n"

def usage : Text :=
  "usage: muasm [-d] [-i FILE] [-o FILE] [--listing] [--isa FILE] [--log-level LEVEL]\n" ++
  "       muasm isa [--format table|yaml|toml] [--isa FILE]\n" ++
  "       muasm explain WORD...\n"

def stopped (d : Directory) (words : Text) : Outcome :=
  { status := failed, messages := programName ++ ": " ++ words ++ "\n", directory := d }

def tableAt (d : Directory) (path : Text) : Except Failure Table :=
  if path.isEmpty then .ok Mu.table else d.table path

/-- An opened output: where it stands, unless it is the standard one. -/
structure OpenOutput where
  place : Option Path
  directory : Directory

def openOutput (d : Directory) (path : Text) : Except Failure OpenOutput :=
  if path = standardStream then .ok { place := none, directory := d }
  else
    match d.create path with
    | .ok (place, directory) => .ok { place := some place, directory }
    | .error failure => .error (failure.inContext "creating output")

def openInput (d : Directory) (standard : Text) (path : Text) : Except Failure ByteInput :=
  if path = standardStream then .ok { bytes := standard }
  else
    match d.input path with
    | .ok input => .ok input
    | .error failure => .error (failure.inContext "opening input")

def startLine (t : Table) (o : Conversion) : Text :=
  Log.line .debug "starting"
    [("isa", t.name), ("disassemble", if o.disassemble then "true" else "false"),
     ("input", o.input), ("output", o.output)]

def Conversion.run (t : Table) (o : Conversion) (input : ByteInput) : Run Buffered :=
  if o.disassemble then t.disassembleBuffered input {} else t.assembleBuffered input {}

/-- Converts one stream into another. The input is opened before the output is created, and read
after: an output that is also the input is read as empty. -/
def convert (d : Directory) (standard : Text) (t : Table) (least : Level) (o : Conversion) :
    Outcome :=
  match openInput d standard o.input with
  | .error failure => stopped d failure.text
  | .ok opened =>
    match openOutput d o.output with
    | .error failure => stopped d failure.text
    | .ok out =>
      let input := (openInput out.directory standard o.input).toOption.getD opened
      let run := o.run t input
      let bytes := run.out.sink.bytes
      let log : Text := Log.kept least .debug (startLine t o) ++ Log.events least run.events
      let listing : Text :=
        if o.listing && !o.disassemble then (({} : Listing).record run.events).text else []
      let ending : Text := (run.failure.map fun e => programName ++ ": " ++ e.text ++ "\n").getD []
      { status := if run.failure.isSome then failed else 0
        output := if out.place.isSome then [] else bytes
        messages := log ++ listing ++ ending
        directory := (out.place.map fun p => out.directory.put p bytes).getD out.directory }

def showSet (d : Directory) (t : Table) (format : Text) : Outcome :=
  if format = "table" then { output := setText t, directory := d }
  else
    match DocumentFormat.ofUserName format with
    | .ok format => { output := t.written format, directory := d }
    | .error failure => stopped d failure.text

def wordOf (t : Text) : Except Failure Word :=
  let digits : Text := (Text.after? "0x" t).getD t
  let problem := fun (words : Text) =>
    (Failure.ofMessage ("strconv.ParseUint: parsing " ++ digits.quoted ++ ": " ++ words)).inContext
      (t.quoted ++ " is not a hexadecimal word")
  match Text.readNatural 16 Text.max64 digits with
  | .ok n => .ok (BitVec.ofNat 64 n)
  | .error .malformed => .error (problem "invalid syntax")
  | .error .outOfRange => .error (problem "value out of range")

def explainWords (d : Directory) : List Text → Outcome
  | [] => { directory := d }
  | t :: rest =>
    match wordOf t with
    | .error failure => stopped d failure.text
    | .ok word =>
      let others := explainWords d rest
      { others with output := word.explain ++ "\n" ++ others.output }

def assembler (d : Directory) (standard : Text) (words : List Text) : Outcome :=
  match Invocation.ofWords words with
  | .error problem => stopped d problem.text
  | .ok { task := .help, .. } => { output := usage, directory := d }
  | .ok invocation =>
    match Level.ofText? invocation.level with
    | .error failure => stopped d failure.text
    | .ok least =>
      match invocation.task with
      | .help => { output := usage, directory := d }
      | .explain words => explainWords d words
      | .showSet format =>
        match tableAt d invocation.isa with
        | .error failure => stopped d failure.text
        | .ok table => showSet d table format
      | .convert options =>
        match tableAt d invocation.isa with
        | .error failure => stopped d failure.text
        | .ok table => convert d standard table least options

end TableAsm.Command
