import TableAsm.Isa.Mu
import TableAsm.Proofs.Isa.Lookups
import TableAsm.Proofs.Source.RegisterNames

namespace TableAsm

/-- Each mnemonic is an instruction line by itself, and each register name a register operand. -/
structure Table.Readable (t : Table) : Prop where
  mnemonics : ∀ f ∈ t.formats, parseLine f.mnemonic = .ok (some (.instruction f.mnemonic []))
  registers : ∀ name ∈ t.registers.names, ∃ operand,
    classify name [] t.registers.index? = .ok operand ∧ operand.kind = .register

namespace Table.Readable

variable {t : Table}

theorem loneWord (readable : t.Readable) {f : Format} (member : f ∈ t.formats) : LoneWord f.mnemonic :=
  parseLine_self_iff.mp (readable.mnemonics f member)

theorem nameLike (readable : t.Readable) : ∀ name ∈ t.registers.names, NameLike name := by
  intro name member
  obtain ⟨operand, classified, kind⟩ := readable.registers name member
  exact (classify_register classified kind).1

end Table.Readable

theorem nameLike_of_short_numbers {names : List Text} (sound : SoundNames names)
    (short : ∀ name ∈ names, leadingNumber name ≤ Text.max32) : ∀ name ∈ names, NameLike name :=
  fun name member => nameLike_of_flawless (sound.flawless name member) (short name member)

namespace Mu

theorem draft_problems : draft.problems = [] := by decide +kernel

theorem build_draft : draft.build = .ok table := by
  obtain ⟨names, formats⟩ := Draft.problems_eq_nil_iff.mp draft_problems
  exact Draft.build_eq_ok_iff.mpr ⟨names, formats, rfl⟩

theorem mnemonics_visible : ∀ f ∈ formats,
    f.mnemonic ≠ [] ∧ (∀ b ∈ f.mnemonic, 0x21 ≤ b ∧ b < 0x7f) ∧ commentMark ∉ f.mnemonic ∧
      f.mnemonic.head? ≠ some labelSigil := by
  decide +kernel

theorem registers_short : ∀ name ∈ registerNames, leadingNumber name ≤ Text.max32 := by
  decide +kernel

theorem table_readable : table.Readable := by
  have sound := Table.sound_of_build build_draft
  refine ⟨?_, ?_⟩
  · intro f member
    obtain ⟨nonempty, visible, plain, unlabelled⟩ := mnemonics_visible f member
    exact parseLine_self_iff.mpr
      (loneWord_of_no_blank nonempty (Text.no_blank_of_visible visible) plain unlabelled)
  · intro name member
    have like := nameLike_of_short_numbers sound.names registers_short name member
    obtain ⟨i, inside, rfl⟩ := List.getElem_of_mem member
    exact ⟨_, classify_of_nameLike like [] (sound.names.index?_getElem inside), rfl⟩

end Mu

end TableAsm
