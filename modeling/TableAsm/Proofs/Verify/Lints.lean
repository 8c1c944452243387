import TableAsm.Proofs.Definition.Documents
import TableAsm.Proofs.Isa.Lookups
import TableAsm.Verify.Lint

/-!
The lint of a definition against its building. Building stops at the first field list that does not
parse and reports the problems of a draft all at once; the lint goes through all field lists and leaves
those that do not parse out of the draft. Both accept the same documents, and where the building fails,
the lint starts with the same complaint.
-/
namespace TableAsm

/-- The issue says what a fault of a definition says. -/
structure Issue.Reports (fault : Fault) (issue : Issue) : Prop where
  stage : issue.stage = .table
  kind : issue.kind = some fault.kind
  token : issue.token = fault.token
  message : issue.message = fault.message

theorem lintDraft_reports (d : Draft) : List.Forall₂ Issue.Reports d.problems (lintDraft d) := by
  rw [lintDraft, List.forall₂_map_right_iff, List.forall₂_same]
  intro fault _
  exact ⟨rfl, rfl, rfl, rfl⟩

theorem lintDraft_eq_nil_iff {d : Draft} : lintDraft d = [] ↔ d.problems = [] := by
  rw [lintDraft, List.map_eq_nil_iff]

theorem Table.lint_built {t : Table} (sound : t.Sound) : t.lint = [] := by
  rw [lint, lintDraft_eq_nil_iff, Draft.problems_eq_nil_iff]
  exact ⟨sound.names, sound.formats⟩

namespace Document

/-- The issues of the field lists that do not parse, for entries from an index on. -/
def listIssues (i : Nat) (entries : List FormatEntry) : List Issue :=
  (entries.zipIdx i).filterMap fun (e, i) =>
    match e.format with
    | .ok _ => none
    | .error problem => some (fieldListIssue i e problem)

theorem lint_eq (d : Document) :
    d.lint = listIssues 0 d.formats ++
      lintDraft
        { formats := d.formats.filterMap fun e => e.format.toOption
          registers := d.registers } := rfl

theorem listIssues_parsed {e : FormatEntry} {f : Format} (parsed : e.Parses f) (i : Nat)
    (rest : List FormatEntry) : listIssues i (e :: rest) = listIssues (i + 1) rest := by
  unfold FormatEntry.Parses at parsed
  simp [listIssues, parsed]

theorem listIssues_unparsed {e : FormatEntry} {problem : FieldMask.ListProblem}
    (bad : e.format = .error problem) (i : Nat) (rest : List FormatEntry) :
    listIssues i (e :: rest) = fieldListIssue i e problem :: listIssues (i + 1) rest := by
  simp [listIssues, bad]

theorem listIssues_first {front : List FormatEntry} (fine : ∀ other ∈ front, ∃ f, other.Parses f)
    {e : FormatEntry} {problem : FieldMask.ListProblem} (bad : e.format = .error problem) (i : Nat)
    (rest : List FormatEntry) :
    ∃ others, listIssues i (front ++ e :: rest) = fieldListIssue (i + front.length) e problem :: others := by
  induction front generalizing i with
  | nil => exact ⟨_, listIssues_unparsed bad i rest⟩
  | cons first front ih =>
    obtain ⟨⟨f, parsed⟩, later⟩ := List.forall_mem_cons.mp fine
    obtain ⟨others, found⟩ := ih later (i + 1)
    refine ⟨others, ?_⟩
    rw [List.cons_append, listIssues_parsed parsed, found, List.length_cons]
    congr 2
    omega

section

variable {entries : List FormatEntry} {formats : List Format}
  (parses : List.Forall₂ FormatEntry.Parses entries formats)

include parses

theorem listIssues_of_parses (i : Nat) : listIssues i entries = [] := by
  induction parses generalizing i with
  | nil => rfl
  | cons first _ ih => exact (listIssues_parsed first i _).trans (ih (i + 1))

theorem formats_of_parses : entries.filterMap (fun e => e.format.toOption) = formats := by
  induction parses with
  | nil => rfl
  | cons first _ ih =>
    unfold FormatEntry.Parses at first
    rw [List.filterMap_cons, first]
    exact congrArg _ ih

end

theorem lint_of_parses {d : Document} {formats : List Format}
    (parses : List.Forall₂ FormatEntry.Parses d.formats formats) :
    d.lint = lintDraft (d.draft formats) := by
  rw [lint_eq, listIssues_of_parses parses, formats_of_parses parses, List.nil_append]
  rfl

theorem lint_of_unparsed {d : Document} {front rest : List FormatEntry} {e : FormatEntry}
    (whole : d.formats = front ++ e :: rest) (fine : ∀ other ∈ front, ∃ f, other.Parses f)
    {problem : FieldMask.ListProblem} (bad : e.format = .error problem) :
    ∃ others, d.lint = fieldListIssue front.length e problem :: others := by
  obtain ⟨others, found⟩ := listIssues_first fine bad 0 rest
  rw [Nat.zero_add] at found
  rw [lint_eq, whole, found]
  exact ⟨_, rfl⟩

/-- Linting decides building. A document without issues has a table, and one with issues has none. A
document that fails for the problems of its draft has one issue for each of them, in order, which says
the same; one that fails at a field list has the issue of that list first. The table of a document has
no issues. -/
theorem lint_decides_build (d : Document) :
    (d.lint = [] ↔ ∃ t, d.build = .ok t) ∧
      (∀ t, d.build = .ok t → t.lint = []) ∧
      ∀ failure, d.build = .error failure →
        (∃ faults, failure = { root := .problems faults } ∧ faults ≠ [] ∧
          List.Forall₂ Issue.Reports faults d.lint) ∨
        ∃ front e rest problem, d.formats = front ++ e :: rest ∧
          (∀ other ∈ front, ∃ f, other.format = .ok f) ∧ e.format = .error problem ∧
          failure = (Failure.ofMessage problem.text).inContext (e.title front.length) ∧
          ∃ first others, d.lint = first :: others ∧ first.token = e.mnemonic ∧
            first.message = failure.text ∧ first.details = some [(("format" : Text), .entry e)] := by
  rcases d.build_cases with ⟨formats, parses, build⟩ | ⟨front, e, rest, problem, whole, fine, bad, build⟩
  · have lint := lint_of_parses parses
    rw [lint, build, lintDraft_eq_nil_iff]
    refine ⟨?_, ?_, ?_⟩
    · rw [Draft.problems_eq_nil_iff]
      constructor
      · intro sound
        exact ⟨_, Draft.build_eq_ok_iff.mpr ⟨sound.1, sound.2, rfl⟩⟩
      · intro ⟨t, built⟩
        obtain ⟨names, formats, -⟩ := Draft.build_eq_ok_iff.mp built
        exact ⟨names, formats⟩
    · intro t built
      exact Table.lint_built (Table.sound_of_build built)
    · intro failure failed
      obtain ⟨some, rfl⟩ := Draft.build_eq_error_iff.mp failed
      exact .inl ⟨_, rfl, some, lintDraft_reports _⟩
  · obtain ⟨others, lint⟩ := lint_of_unparsed whole fine bad
    rw [build]
    refine ⟨by simp [lint], by simp, ?_⟩
    intro failure failed
    cases failed
    exact .inr ⟨front, e, rest, problem, whole, fine, bad, rfl, _, others, lint, rfl, rfl, rfl⟩

end Document

end TableAsm
