import TableAsm.Command.Flag

namespace TableAsm.Command

def programName : Text := "muasm"

def standardStream : Text := "-"

structure Conversion where
  disassemble : Bool := false
  input : Text := standardStream
  output : Text := standardStream
  listing : Bool := false
  deriving DecidableEq, Repr

inductive Task where
  | convert (t : Conversion)
  /-- Show the instruction set, as a table or in a definition language. -/
  | showSet (format : Text)
  | explain (words : List Text)
  | help
  deriving DecidableEq, Repr

/-- A task with the settings that all tasks share. An empty path stands for the built-in set. -/
structure Invocation where
  task : Task
  isa : Text := []
  level : Text := "warn"
  deriving DecidableEq, Repr

def sharedFlags : List Flag := [{ name := "isa" }, { name := "log-level" }]

def helpFlag : Flag := { name := "help", letter := some 'h', isSwitch := true }

def conversionFlags : FlagSet where
  flags :=
    [{ name := "disassemble", letter := some 'd', isSwitch := true },
     { name := "input-file", letter := some 'i' },
     { name := "output-file", letter := some 'o' },
     { name := "listing", isSwitch := true },
     { name := "force", isSwitch := true }] ++ sharedFlags
  otherNames := [("input", "input-file"), ("output", "output-file")]

def showSetFlags : FlagSet where
  flags := { name := "format" } :: sharedFlags

def explainFlags : FlagSet where
  flags := sharedFlags

inductive CommandName where
  | convert
  | showSet
  | explain
  | help
  deriving DecidableEq, Repr

namespace CommandName

def ofText? (name : Text) : Option CommandName :=
  if name = "isa" then some showSet
  else if name = "explain" then some explain
  else if name = "help" ∨ name = "completion" then some help
  else none

def flags : CommandName → FlagSet
  | convert => conversionFlags
  | showSet => showSetFlags
  | explain => explainFlags
  | help => { flags := [] }

def title : CommandName → Text
  | convert => programName
  | showSet => programName ++ " isa"
  | explain => programName ++ " explain"
  | help => programName ++ " help"

def argumentProblem? : CommandName → List Text → Option UsageProblem
  | explain, [] => some (.tooFewArguments 1 0)
  | explain, _ | help, _ => none
  | command, argument :: _ => some (.unknownCommand argument command.title)
  | _, [] => none

def task (c : CommandLine) : CommandName → Task
  | convert =>
    .convert
      { disassemble := c.isOn "disassemble"
        input := (c.value? "input-file").getD standardStream
        output := (c.value? "output-file").getD standardStream
        listing := c.isOn "listing" }
  | showSet => .showSet ((c.value? "format").getD "table")
  | explain => .explain c.arguments
  | help => .help

end CommandName

namespace Invocation

def command (words : List Text) : CommandName × List Text :=
  match conversionFlags.commandName? words with
  | none => (.convert, words)
  | some (name, others) =>
    match CommandName.ofText? name with
    | some command => (command, others)
    | none => (.convert, words)

def ofWords (words : List Text) : Except UsageProblem Invocation :=
  match command words with
  | (.help, _) => .ok { task := .help }
  | (command, words) =>
    let known : FlagSet := { command.flags with flags := command.flags.flags ++ [helpFlag] }
    match CommandLine.ofWords known {} words with
    | .error problem => .error problem
    | .ok line =>
      if line.isOn helpFlag.name then .ok { task := .help }
      else
        match command.argumentProblem? line.arguments with
        | some problem => .error problem
        | none =>
          .ok
            { task := command.task line
              isa := (line.value? "isa").getD []
              level := (line.value? "log-level").getD "warn" }

def paths (i : Invocation) : List Text :=
  let named : List Text :=
    match i.task with
    | .convert t => [t.input, t.output].filter (· != standardStream)
    | _ => []
  if i.isa.isEmpty then named else i.isa :: named

def readsStandard (i : Invocation) : Bool :=
  match i.task with
  | .convert t => t.input == standardStream
  | _ => false

end Invocation

end TableAsm.Command
