import Mathlib.Data.List.Forall2
import TableAsm.Definition.Document
import TableAsm.Proofs.Isa.Drafts

namespace TableAsm

namespace FormatEntry

/-- The field list of the entry parses, and the format is what the entry says. -/
def Parses (e : FormatEntry) (f : Format) : Prop := e.format = .ok f

def listFailure (e : FormatEntry) (i : Nat) (problem : FieldMask.ListProblem) : Failure :=
  (Failure.ofMessage problem.text).inContext (e.title i)

end FormatEntry

namespace Document

theorem formatsFrom_eq_ok_iff {i : Nat} {entries : List FormatEntry} {formats : List Format} :
    formatsFrom i entries = .ok formats ↔ List.Forall₂ FormatEntry.Parses entries formats := by
  induction entries generalizing i formats with
  | nil => simp [formatsFrom, eq_comm]
  | cons e rest ih =>
    rw [formatsFrom, List.forall₂_cons_left_iff]
    simp only [← ih (i := i + 1), FormatEntry.Parses]
    cases e.format with
    | error problem => simp
    | ok format => cases formatsFrom (i + 1) rest <;> simp [eq_comm]

theorem formatsFrom_eq_error {i : Nat} {entries : List FormatEntry} {failure : Failure}
    (refused : formatsFrom i entries = .error failure) :
    ∃ front e rest problem, entries = front ++ e :: rest ∧ (∀ other ∈ front, ∃ f, other.Parses f) ∧
      e.format = .error problem ∧ failure = e.listFailure (i + front.length) problem := by
  induction entries generalizing i failure with
  | nil => cases refused
  | cons e rest ih =>
    rw [formatsFrom] at refused
    cases parsed : e.format with
    | error problem =>
      rw [parsed] at refused
      cases refused
      exact ⟨[], e, rest, problem, rfl, by simp, parsed, rfl⟩
    | ok format =>
      cases later : formatsFrom (i + 1) rest with
      | ok formats => simp [parsed, later] at refused
      | error cause =>
        simp only [parsed, later, Except.error.injEq] at refused
        obtain ⟨front, other, others, problem, rfl, fine, bad, same⟩ := ih later
        refine ⟨e :: front, other, others, problem, rfl, ?_, bad, ?_⟩
        · exact List.forall_mem_cons.mpr ⟨⟨format, parsed⟩, fine⟩
        · rw [← refused, same, List.length_cons, Nat.add_assoc, Nat.add_comm 1]

/-- The draft that a document is built from, given its formats. -/
def draft (d : Document) (formats : List Format) : Draft :=
  { name := if d.name.isEmpty then unnamed else d.name, formats, registers := d.registers }

theorem build_of_parses {d : Document} {formats : List Format}
    (parses : List.Forall₂ FormatEntry.Parses d.formats formats) :
    d.build = (d.draft formats).build := by
  rw [build, formatsFrom_eq_ok_iff.mpr parses]
  rfl

theorem build_cases (d : Document) :
    (∃ formats, List.Forall₂ FormatEntry.Parses d.formats formats ∧
      d.build = (d.draft formats).build) ∨
    ∃ front e rest problem, d.formats = front ++ e :: rest ∧
      (∀ other ∈ front, ∃ f, other.Parses f) ∧ e.format = .error problem ∧
      d.build = .error (e.listFailure front.length problem) := by
  cases read : formatsFrom 0 d.formats with
  | ok formats =>
    have parses := formatsFrom_eq_ok_iff.mp read
    exact .inl ⟨formats, parses, build_of_parses parses⟩
  | error failure =>
    obtain ⟨front, e, rest, problem, whole, fine, bad, same⟩ := formatsFrom_eq_error read
    refine .inr ⟨front, e, rest, problem, whole, fine, bad, ?_⟩
    rw [build, read, same, Nat.zero_add]

end Document

end TableAsm
