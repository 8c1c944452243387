import TableAsm.Command.Outcome
import TableAsm.Definition.Load
import TableAsm.Isa.Mu
import TableAsm.Verify.Report

namespace TableAsm.Command

def verifierUsage : Text := "usage: verify-roundtrip <source.s> [isa.yaml|isa.toml]\n"

def abandoned (d : Directory) (words : Text) (failure : Failure) : Outcome :=
  { status := failed, messages := words ++ ": " ++ failure.text ++ "\n", directory := d }

def issueLines (path : Text) (issues : List Issue) : Text :=
  let lines : Text := issues.flatMap fun issue => ("  " : Text) ++ issue.text ++ "\n"
  "ISA definition " ++ path ++ " has " ++ Text.decimal issues.length ++ " issues:\n" ++ lines

def checkedTable (d : Directory) (path : Text) : Except Outcome Table :=
  match d.document path with
  | .error failure => .error (abandoned d "Failed to read ISA definition" failure)
  | .ok document =>
    let issues := document.lint
    if !issues.isEmpty then
      .error { status := failed, output := issueLines path issues, directory := d }
    else
      match document.build with
      | .error failure => .error (abandoned d "Failed to build ISA" failure)
      | .ok table => .ok table

def verifySource (d : Directory) (table : Table) (path : Text) : Outcome :=
  match d.input path with
  | .error failure => abandoned d "Failed to open source" failure
  | .ok input =>
    match Report.generate table path input with
    | .error failure => abandoned d "Verification failed" failure
    | .ok report =>
      { status := if report.ok then 0 else failed, output := report.text, directory := d }

def verifier (d : Directory) : List Text → Outcome
  | [source] => verifySource d Mu.table source
  | [source, isa] =>
    match checkedTable d isa with
    | .error outcome => outcome
    | .ok table => verifySource d table source
  | _ => { status := misused, messages := verifierUsage, directory := d }

end TableAsm.Command
