import TableAsm.Proofs.Disassembly.Decoding
import TableAsm.Proofs.Source.ReadableTables
import TableAsm.Proofs.Word.Codec

namespace TableAsm

namespace Table

variable {t : Table} {key : Encoding}

theorem decodeWord_ambiguous_iff {word : Word} :
    (∃ e, t.decodeWord word = .error e ∧ e.kind? = some .ambiguousEncoding) ↔
      ∃ i j, i < j ∧ t.HoldsKey (Fields.decode word).key i ∧ t.HoldsKey (Fields.decode word).key j := by
  rw [← ofKey_ambiguous_iff]
  constructor
  · rintro ⟨e, refused, kind⟩
    rcases decodeWord_eq_error_iff.mp refused with several | ⟨format, -, unrendered⟩
    · exact ⟨e, several, kind⟩
    · obtain ⟨f, states, unknown, -⟩ := render_eq_error unrendered
      rw [Failure.kind?, states.fault?, Option.map_some, unknown] at kind
      cases kind
  · rintro ⟨e, several, kind⟩
    exact ⟨e, decodeWord_eq_error_iff.mpr (.inl several), kind⟩

theorem exists_word_key_iff :
    (∃ word, (Fields.decode word).key = key) ↔ key.fields.bits ≤ 15 ∧ key.group ≤ 31 := by
  have below {value most bound : UInt8} (next : bound.toNat = most.toNat + 1) :
      value ≤ most ↔ value < bound := by
    rw [UInt8.le_iff_toNat_le, UInt8.lt_iff_toNat_lt, next, Nat.lt_succ_iff]
  have mask : key.fields.bits ≤ 15 ↔ key.fields.bits < 16 := below rfl
  have group : key.group ≤ 31 ↔ key.group < 32 := below rfl
  rw [mask, group]
  constructor
  · rintro ⟨word, rfl⟩
    have fits := Fields.decode_fits word
    exact ⟨fits.mask, fits.group⟩
  · rintro ⟨mask, group⟩
    let f : Fields := { mask := key.fields, group := key.group, opcode := key.opcode }
    have zero : (0 : UInt8) < 32 := by decide
    have fits : f.Fits := ⟨mask, group, zero, zero, zero⟩
    exact ⟨f.encode, by rw [Fields.decode_encode fits]; rfl⟩

/-- Looking formats up. A key finds a format exactly if one position holds it, and is ambiguous or
unknown exactly if several or none do; a mnemonic finds its first format. In a table that was built
the two undo each other. A word is ambiguous exactly if it can carry a key that two positions hold. -/
theorem lookups_agree (t : Table) :
    (∀ key f, t.ofKey key = .ok f ↔ ∃ i, t.formats[i]? = some f ∧ ∀ j, t.HoldsKey key j ↔ j = i) ∧
      (∀ key, (∃ e, t.ofKey key = .error e ∧ e.kind? = some .ambiguousEncoding) ↔
        ∃ i j, i < j ∧ t.HoldsKey key i ∧ t.HoldsKey key j) ∧
      (∀ key, (∃ e, t.ofKey key = .error e ∧ e.kind? = some .unknownEncoding) ↔
        ∀ i, ¬ t.HoldsKey key i) ∧
      (∀ mnemonic f, t.ofMnemonic mnemonic = .ok f ↔
        ∃ i : Nat, t.formats[i]? = some f ∧ f.mnemonic = mnemonic ∧
          ∀ j < i, ∀ g : Format, t.formats[j]? = some g → g.mnemonic ≠ mnemonic) ∧
      (∀ mnemonic, (∃ e, t.ofMnemonic mnemonic = .error e) ↔
        ∀ f ∈ t.formats, f.mnemonic ≠ mnemonic) ∧
      (∀ d : Draft, d.build = .ok t →
        (∀ f ∈ t.formats, t.ofMnemonic f.mnemonic = .ok f ∧ t.ofKey f.key = .ok f) ∧
        (∀ mnemonic f, t.ofMnemonic mnemonic = .ok f → f.mnemonic = mnemonic ∧ t.ofKey f.key = .ok f) ∧
        ∀ key f, t.ofKey key = .ok f → f.key = key ∧ t.ofMnemonic f.mnemonic = .ok f) ∧
      ((∃ word e, t.decodeWord word = .error e ∧ e.kind? = some .ambiguousEncoding) ↔
        ∃ key i j, i < j ∧ t.HoldsKey key i ∧ t.HoldsKey key j ∧
          key.fields.bits ≤ 15 ∧ key.group ≤ 31) := by
  refine ⟨fun _ _ => ofKey_eq_ok_iff, fun _ => ofKey_ambiguous_iff, fun _ => ofKey_unknown_iff,
    fun _ _ => ofMnemonic_eq_ok_iff, fun _ => ofMnemonic_unknown_iff, ?_, ?_⟩
  · intro d built
    have sound := sound_of_build built
    refine ⟨fun f listed => ⟨ofMnemonic_mnemonic sound listed, ofKey_key sound listed⟩, ?_, ?_⟩
    · intro mnemonic f found
      obtain ⟨listed, same⟩ := ofMnemonic_eq_ok found
      exact ⟨same, ofKey_key sound listed⟩
    · intro key f found
      obtain ⟨listed, same⟩ := ofKey_eq_ok found
      exact ⟨same, ofMnemonic_mnemonic sound listed⟩
  · simp only [decodeWord_ambiguous_iff]
    constructor
    · rintro ⟨word, i, j, before, first, second⟩
      exact ⟨_, i, j, before, first, second, exists_word_key_iff.mp ⟨word, rfl⟩⟩
    · rintro ⟨key, i, j, before, first, second, fits⟩
      obtain ⟨word, rfl⟩ := exists_word_key_iff.mpr fits
      exact ⟨word, i, j, before, first, second⟩

/-- The built-in table finds a format both ways; two formats with one key make a word ambiguous. -/
theorem lookups_agree_twins :
    let call : Format := ⟨"CALL", .imm, 10, 7⟩
    let twins : Table :=
      { name := "twins"
        formats := [⟨"A", ⟨15⟩, 31, 255⟩, ⟨"B", .rd, 0, 0⟩, ⟨"C", ⟨15⟩, 31, 255⟩]
        registers := ⟨[]⟩ }
    call ∈ Mu.table.formats ∧ Mu.table.ofMnemonic "CALL" = .ok call ∧ Mu.table.ofKey call.key = .ok call ∧
      ∃ word e, twins.decodeWord word = .error e ∧ e.kind? = some .ambiguousEncoding := by
  intro call twins
  have listed : call ∈ Mu.table.formats := by decide +kernel
  obtain ⟨-, -, -, -, -, built, -⟩ := lookups_agree Mu.table
  obtain ⟨byMnemonic, byKey⟩ := (built Mu.draft Mu.build_draft).1 call listed
  obtain ⟨-, -, -, -, -, -, ambiguous⟩ := lookups_agree twins
  refine ⟨listed, byMnemonic, byKey, ambiguous.mpr ⟨⟨⟨15⟩, 31, 255⟩, 0, 2, by decide, ?_⟩⟩
  exact ⟨⟨_, rfl, rfl⟩, ⟨_, rfl, rfl⟩, by decide, by decide⟩

end Table

end TableAsm
