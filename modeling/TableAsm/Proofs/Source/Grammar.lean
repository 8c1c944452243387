import TableAsm.Proofs.Source.Layouts

namespace TableAsm

/-- These are the runs of bytes that are no gap, in order, each as long as it can be. -/
inductive MaximalRuns : Text → List Text → Prop
  | none {t : Text} (gaps : Gaps t) : MaximalRuns t []
  | next {gap run rest : Text} {runs : List Text} (gaps : Gaps gap) (unbroken : Unbroken run)
      (ends : ∀ c ∈ rest.head?, isGap c = true) (later : MaximalRuns rest runs) :
      MaximalRuns (gap ++ (run ++ rest)) (run :: runs)

theorem MaximalRuns.gap_append {gap t : Text} {runs : List Text} (gaps : Gaps gap)
    (maximal : MaximalRuns t runs) : MaximalRuns (gap ++ t) runs := by
  cases maximal with
  | none others => exact .none (List.forall_mem_append.mpr ⟨gaps, others⟩)
  | next others unbroken ends later =>
    rw [← List.append_assoc]
    exact .next (List.forall_mem_append.mpr ⟨gaps, others⟩) unbroken ends later

theorem maximalRuns_gapSeparated (t : Text) : MaximalRuns t (gapSeparated t) := by
  induction t using Text.gap_induction with
  | nil => exact .none (by simp [Gaps])
  | gap run rest _ gaps _ ih =>
    rw [gapSeparated_gap gaps]
    exact ih.gap_append gaps
  | piece run rest unbroken ends ih =>
    have front : Gaps [] := by simp [Gaps]
    rw [gapSeparated_piece unbroken ends]
    exact MaximalRuns.next front unbroken ends ih

theorem maximalRuns_iff {t : Text} {runs : List Text} : MaximalRuns t runs ↔ runs = gapSeparated t := by
  constructor
  · intro maximal
    induction maximal with
    | none gaps =>
      have alone := gapSeparated_gap gaps []
      rw [List.append_nil] at alone
      exact alone.symm
    | next gaps unbroken ends _ ih => rw [gapSeparated_gap gaps, gapSeparated_piece unbroken ends, ih]
  · rintro rfl
    exact maximalRuns_gapSeparated t

/-- The only run is the sigil with a name behind it. -/
structure LabelRuns (runs : List Text) (name : Text) : Prop where
  alone : runs = [name]
  named : 2 ≤ name.length
  sigil : name.head? = some labelSigil

/-- A word, then words and labels; none is a bare sigil. -/
structure InstructionRuns (runs : List Text) (mnemonic : Text) (operands : List Text) : Prop where
  whole : runs = mnemonic :: operands
  unlabelled : mnemonic.head? ≠ some labelSigil
  named : [labelSigil] ∉ runs

theorem linePieces_eq_nil_iff {raw : Text} : linePieces raw = [] ↔ stripComment raw = [] := by
  constructor
  · intro none
    by_contra nonempty
    exact Text.not_endsSolid_of_gaps nonempty (gapSeparated_eq_nil none) (Text.endsSolid_trim _)
  · intro empty
    rw [linePieces, empty, gapSeparated_nil]

theorem parseLine_eq_none_iff {raw : Text} : parseLine raw = .ok none ↔ stripComment raw = [] := by
  rw [parseLine_eq_ok_iff, ← linePieces_eq_nil_iff]
  constructor
  · intro read
    obtain ⟨-, ⟨pieces, -⟩ | ⟨name, -, -, label⟩ | ⟨first, rest, -, -, word⟩⟩ :=
      Statement.ofPieces?_cases read
    · exact pieces
    · cases label
    · cases word
  · intro pieces
    rw [pieces]
    rfl

theorem parseLine_eq_label_iff {raw name : Text} :
    parseLine raw = .ok (some (.label name)) ↔ LabelRuns (linePieces raw) name := by
  rw [parseLine_eq_ok_iff]
  constructor
  · intro read
    obtain ⟨named, ⟨-, none⟩ | ⟨found, pieces, sigil, label⟩ | ⟨first, rest, -, -, word⟩⟩ :=
      Statement.ofPieces?_cases read
    · cases none
    · cases label
      refine ⟨pieces, ?_, sigil⟩
      obtain ⟨rest, rfl⟩ := List.head?_eq_some_iff.mp sigil
      have behind : rest ≠ [] := by
        rintro rfl
        exact named (by rw [pieces]; exact List.mem_singleton_self _)
      have positive := List.length_pos_of_ne_nil behind
      rw [List.length_cons]
      omega
    · cases word
  · rintro ⟨alone, long, sigil⟩
    have named : [labelSigil] ∉ [name] := by
      intro member
      rw [← List.mem_singleton.mp member] at long
      exact absurd long (by decide)
    unfold Statement.ofPieces?
    rw [alone, if_neg named]
    simp only [if_pos sigil, if_true]

theorem parseLine_eq_instruction_runs_iff {raw mnemonic : Text} {operands : List Text} :
    parseLine raw = .ok (some (.instruction mnemonic operands)) ↔
      InstructionRuns (linePieces raw) mnemonic operands := by
  rw [parseLine_eq_instruction_iff, ← linePieces]
  constructor
  · rintro ⟨whole, unlabelled, named⟩
    exact ⟨whole, unlabelled, whole ▸ named⟩
  · rintro ⟨whole, unlabelled, named⟩
    exact ⟨whole, unlabelled, whole ▸ named⟩

theorem parseLine_comment (raw remark : Text) :
    parseLine (raw ++ commentMark :: remark) = parseLine raw := by
  have same : stripComment (raw ++ commentMark :: remark) = stripComment raw :=
    congrArg Text.trim (beforeComment_comment raw remark)
  simp only [parseLine, same]

/-- A line is read by the maximal runs of what is left of it, and refused exactly if they are no
statement. A comment behind the line makes no difference. -/
theorem parseLine_grammar (raw : Text) :
    (let text := Text.trim (raw.takeWhile (· != commentMark))
      ∃ tokens, (∀ runs, MaximalRuns text runs ↔ runs = tokens) ∧
        (parseLine raw = .ok none ↔ text = []) ∧
        (∀ name, parseLine raw = .ok (some (.label name)) ↔ LabelRuns tokens name) ∧
        (∀ mnemonic operands, parseLine raw = .ok (some (.instruction mnemonic operands)) ↔
          InstructionRuns tokens mnemonic operands) ∧
        ((∃ failure, parseLine raw = .error failure ∧ failure.kind? = some .malformedLine) ↔
          text ≠ [] ∧ (∀ name, ¬ LabelRuns tokens name) ∧
            ∀ mnemonic operands, ¬ InstructionRuns tokens mnemonic operands)) ∧
      ∀ remark, parseLine (raw ++ commentMark :: remark) = parseLine raw := by
  refine ⟨⟨linePieces raw, fun runs => maximalRuns_iff, parseLine_eq_none_iff,
    fun name => parseLine_eq_label_iff, fun mnemonic operands => parseLine_eq_instruction_runs_iff, ?_⟩,
    parseLine_comment raw⟩
  constructor
  · rintro ⟨failure, refused, -⟩
    refine ⟨fun empty => ?_, fun name label => ?_, fun mnemonic operands instruction => ?_⟩
    · rw [parseLine_eq_none_iff.mpr empty] at refused
      cases refused
    · rw [parseLine_eq_label_iff.mpr label] at refused
      cases refused
    · rw [parseLine_eq_instruction_runs_iff.mpr instruction] at refused
      cases refused
  · rintro ⟨nonempty, notLabel, notInstruction⟩
    cases parsed : parseLine raw with
    | error failure =>
      obtain ⟨problem, rfl⟩ := parseLine_eq_error parsed
      exact ⟨_, rfl, rfl⟩
    | ok statement =>
      match statement with
      | .none => exact absurd (parseLine_eq_none_iff.mp parsed) nonempty
      | some (.label name) => exact absurd (parseLine_eq_label_iff.mp parsed) (notLabel name)
      | some (.instruction mnemonic operands) =>
        exact absurd (parseLine_eq_instruction_runs_iff.mp parsed) (notInstruction mnemonic operands)

end TableAsm
