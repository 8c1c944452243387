import TableAsm.Verify.Issue

namespace TableAsm

def lintDraft (d : Draft) : List Issue :=
  d.problems.map fun fault => Issue.ofFailure .table (.ofFault fault)

def Table.lint (t : Table) : List Issue :=
  lintDraft { formats := t.formats, registers := t.registers.names }

def fieldListIssue (i : Nat) (e : FormatEntry) (problem : FieldMask.ListProblem) : Issue :=
  { stage := .table
    token := e.mnemonic
    message := e.title i ++ ": " ++ problem.text
    details := some [("format", .entry e)] }

/-- The issues of a document: field lists that do not parse first, then the problems of the formats
that do. -/
def Document.lint (d : Document) : List Issue :=
  let unparsed := d.formats.zipIdx.filterMap fun (e, i) =>
    match e.format with
    | .ok _ => none
    | .error problem => some (fieldListIssue i e problem)
  let formats := d.formats.filterMap fun e => e.format.toOption
  unparsed ++ lintDraft { formats, registers := d.registers }

end TableAsm
