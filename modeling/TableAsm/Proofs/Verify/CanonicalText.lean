import TableAsm.Proofs.Assembly.Scanning
import TableAsm.Proofs.Disassembly.Decoding
import TableAsm.Verify.RoundTrip

namespace TableAsm

namespace Table

variable {t : Table} {symbols : SymbolTable}

theorem canonicalOperands_spare {spare : List Text} (empty : ∀ token ∈ spare, token = []) :
    t.canonicalOperands symbols spare = .ok [] := by
  induction spare with
  | nil => rfl
  | cons token spare ih =>
    obtain ⟨rfl, others⟩ := List.forall_mem_cons.mp empty
    simp [canonicalOperands, classify, ih others]

theorem canonicalOperands_cons {slot : Slot} {v : UInt32} {token text : Text}
    (carried : Carried symbols t.registers.index? slot v token)
    (shown : Shows t.registers slot v text) {rest texts : List Text}
    (others : t.canonicalOperands symbols rest = .ok texts) :
    t.canonicalOperands symbols (token :: rest) = .ok (text :: texts) := by
  obtain ⟨-, operand, classified, kind, rfl⟩ := carried
  unfold Shows at shown
  unfold Slot.operandKind at kind
  by_cases register : slot.isRegister = true
  · rw [if_pos register] at shown kind
    have named := Registers.name_eq_ok_iff.mpr shown
    simp [canonicalOperands, classified, kind, named, others, Except.map]
  · rw [if_neg register] at shown kind
    simp [canonicalOperands, classified, kind, shown, others]

theorem canonicalOperands_carried (sound : t.Sound) {f : Fields} {slots : List Slot}
    {used spare : List Text}
    (carried : List.Forall₂ (fun slot token => Carried symbols t.registers.index? slot (f.value slot) token)
      slots used) (empty : ∀ token ∈ spare, token = []) :
    ∃ texts, t.canonicalOperands symbols (used ++ spare) = .ok texts ∧
      LegibleAll t.registers f slots texts := by
  induction carried with
  | nil => exact ⟨[], canonicalOperands_spare empty, .nil⟩
  | cons first _ ih =>
    obtain ⟨texts, others, legible⟩ := ih
    have shown := first.legible sound.names
    exact ⟨_, canonicalOperands_cons first shown.shown others, .cons shown legible⟩

theorem no_operands {instruction : Instruction} {operands : List Text} {raw : Text}
    (parsed : parseLine raw = .ok (some (.instruction instruction.mnemonic operands)))
    (listed : instruction.operands = .ofList operands)
    (empty : ∀ token ∈ instruction.operands.toList, token = []) : operands = [] := by
  cases operands with
  | nil => rfl
  | cons operand rest =>
    have first : operand = [] := by
      apply empty
      rw [listed]
      exact List.mem_cons_self
    exact absurd first (parseLine_token parsed (List.mem_cons_of_mem _ List.mem_cons_self)).nonempty

theorem canonicalText_of_word (sound : t.Sound) {instruction : Instruction} {word : Word}
    (encoded : t.encodeInstruction instruction symbols = .ok word) :
    ∃ text, t.canonicalText instruction symbols = .ok text ∧
      (∃ decoded, t.decodeWord word = .ok decoded ∧ decoded.text = text) ∧
      ∀ raw, Stems raw instruction → t.Denotes text word := by
  obtain ⟨format, f, found, bound, rfl⟩ := encodeInstruction_eq_ok_iff.mp encoded
  obtain ⟨listed, mnemonic⟩ := ofMnemonic_eq_ok found
  have fits := bind_fits sound listed bound
  obtain ⟨slots, layout, ⟨used, spare, whole, carried, empty⟩, keys, canonical⟩ := bind_eq_ok_iff.mp bound
  obtain ⟨texts, operands, legible⟩ := canonicalOperands_carried sound carried empty
  refine ⟨Text.joined " " (format.mnemonic :: texts), ?_, ?_, ?_⟩
  · simp [canonicalText, whole, operands, mnemonic]
  · exact ⟨_, decodeWord_encode sound listed layout fits keys legible.shown, rfl⟩
  · rintro raw ⟨tokens, parsed, -, listing⟩
    obtain ⟨word, starts, ends⟩ := parseLine_mnemonic parsed
    rw [← mnemonic] at word starts ends
    rw [← canonical]
    refine denotes_joined sound listed layout keys legible word starts ?_
    -- A line without operands was trimmed behind its mnemonic.
    rintro rfl
    cases legible
    cases carried
    exact ends (no_operands parsed listing (whole ▸ empty))

end Table

end TableAsm
