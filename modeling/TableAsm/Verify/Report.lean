import TableAsm.Directory.Basic
import TableAsm.Layout.Grid
import TableAsm.Verify.Lint
import TableAsm.Verify.RoundTrip

namespace TableAsm

structure Report where
  isa : Text := []
  source : Text := []
  instructions : Int := 0
  labels : Int := 0
  bytes : Int := 0
  tableIssues : List Issue := []
  roundTripIssues : List Issue := []
  wordIssues : List Issue := []
  assembleFailure : Option Failure := none

namespace Report

def issues (r : Report) : List Issue := r.tableIssues ++ r.roundTripIssues ++ r.wordIssues

def ok (r : Report) : Bool := r.assembleFailure.isNone && r.issues.isEmpty

def generate (t : Table) (name : Text) (input : ByteInput) : Except Failure Report :=
  match input.failure? with
  | some cause => .error ((Failure.ofMessage cause.message).inContext ("reading " ++ name))
  | none =>
    let base : Report := { isa := t.name, source := name, tableIssues := t.lint }
    match t.checkRoundTrip (.ofBytes plainLineLimit input) with
    | .error failure => .ok { base with assembleFailure := some failure }
    | .ok (p, issues) =>
      let r := t.emitProgram p Sink.write {}
      let (wordIssues, _) := t.checkWords { bytes := r.out.bytes }
      .ok
        { base with
          instructions := p.instructions.length
          labels := p.labels.length
          bytes := r.out.bytes.length
          roundTripIssues := issues
          wordIssues
          assembleFailure := r.failure }

def issueRow (number : Nat) (i : Issue) : List Text :=
  let kind : Text := (i.kind.map Kind.name).getD "-"
  let place : Text :=
    if 0 < i.line then "line " ++ Text.signedDecimal i.line
    else if 0 ≤ i.offset then "0x" ++ Text.hex i.offset.toNat
    else "-"
  let details : Text := (i.details.map fun pairs => Text.joined "\n" (Dump.details pairs)).getD []
  [Text.decimal number, kind, place, i.message, details]

def stageText (title : String) (issues : List Issue) : Text :=
  let body : Text :=
    if issues.isEmpty then "No issues found."
    else
      Grid.text
        { header := ["#", "Kind", "Where", "Message", "Details"]
          rows := issues.zipIdx.map fun (issue, i) => issueRow (i + 1) issue
          numeric := [true] }
  "\n" ++ title ++ "\n" ++ body ++ "\n"

def summary (r : Report) : Text :=
  let assembly : Text :=
    match r.assembleFailure with
    | none => "SUCCESS"
    | some failure => "FAILED: " ++ failure.text
  Grid.text
    { title := "Summary"
      rows :=
        [["Instructions", Text.signedDecimal r.instructions],
         ["Labels", Text.signedDecimal r.labels],
         ["Bytes", Text.signedDecimal r.bytes],
         ["Table issues", Text.decimal r.tableIssues.length],
         ["Round-trip issues", Text.decimal r.roundTripIssues.length],
         ["Word issues", Text.decimal r.wordIssues.length],
         ["Assembly", assembly]] }

def text (r : Report) : Text :=
  let separator : Text := List.replicate 60 0x3d ++ [Text.newline]
  let verdict : Text := if r.ok then "PASSED ALL CHECKS\n" else "CHECKS FAILED\n"
  separator ++ "VERIFICATION REPORT: " ++ r.source ++ " against " ++ r.isa ++ "\n" ++ separator ++
    stageText "STAGE 1: TABLE LINT" r.tableIssues ++
    stageText "STAGE 2: ROUND TRIP" r.roundTripIssues ++
    stageText "STAGE 3: WORD CHECK" r.wordIssues ++
    r.summary ++ "\n" ++ verdict

def save (r : Report) (d : Directory) (path : Text) : Except Failure Directory :=
  match d.create path with
  | .ok (place, d) => .ok (d.put place r.text)
  | .error failure => .error (failure.inContext "failed to create report file")

end Report

end TableAsm
