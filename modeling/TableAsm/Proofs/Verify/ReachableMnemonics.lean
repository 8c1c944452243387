import TableAsm.Proofs.Source.ReadableTables
import TableAsm.Proofs.Stream.Runs
import TableAsm.Proofs.Verify.CanonicalWords

namespace TableAsm

theorem blank_shows {registers : Registers} {f : Format} {slots : List Slot}
    (armed : ∀ slot ∈ slots, slot.isRegister = true → registers.names ≠ []) :
    ∃ texts, ShowsAll registers f.blank slots texts := by
  induction slots with
  | nil => exact ⟨[], .nil⟩
  | cons slot slots ih =>
    obtain ⟨first, others⟩ := List.forall_mem_cons.mp armed
    obtain ⟨texts, shown⟩ := ih others
    have each : ∃ text, Shows registers slot (f.blank.value slot) text := by
      rw [f.blank_value]
      unfold Shows
      by_cases register : slot.isRegister = true
      · obtain ⟨name, rest, names⟩ := List.exists_cons_of_ne_nil (first register)
        refine ⟨name, ?_⟩
        rw [if_pos register, Registers.name?, names]
        rfl
      · exact ⟨Text.literal32 0, if_neg register ▸ rfl⟩
    obtain ⟨text, shows⟩ := each
    exact ⟨text :: texts, .cons shows shown⟩

namespace Table

variable {t : Table}

theorem blank_decodes (sound : t.Sound) {f : Format} (listed : f ∈ t.formats)
    (armed : ∀ slot : Slot, slot.isRegister = true → f.fields.has slot.field = true →
      t.registers.names ≠ []) :
    f.blank.encode.canonical = f.blank.encode ∧
      ∃ decoded, t.decodeWord f.blank.encode = .ok decoded ∧ decoded.format = f := by
  obtain ⟨slots, layout⟩ := sound.formats.laidOut f listed
  have fits : f.blank.Fits := by
    have zero : (0 : UInt8) < 32 := by decide
    refine ⟨FieldMask.layout?_small layout, ?_, zero, zero, zero⟩
    exact UInt8.lt_of_le_of_lt (sound.formats.grouped f listed) (by decide)
  have needed : ∀ slot ∈ slots, slot.isRegister = true → t.registers.names ≠ [] :=
    fun slot member register => armed slot register ((FieldMask.mem_layout?_iff layout slot).mp member)
  obtain ⟨texts, shown⟩ := blank_shows (f := f) needed
  refine ⟨?_, _, decodeWord_encode sound listed layout fits rfl shown, rfl⟩
  rw [Word.canonical, Fields.decode_encode fits, f.blank_canonical]

theorem assemble_rendered (sound : t.Sound) (like : ∀ name ∈ t.registers.names, NameLike name)
    {word : Word} {decoded : Decoded} (ok : t.decodeWord word = .ok decoded)
    (mnemonic : LoneWord decoded.format.mnemonic) :
    (t.assemble { lines := [decoded.text] } Sink.write {}).Wrote [word.canonical.bytes] := by
  have denotes := decodeWord_denotes sound like ok mnemonic
  exact assemble_denotes (List.Forall₂.cons denotes .nil)

end Table

/-- A mnemonic is an instruction line by itself exactly if it is one word with no white space around
it. Where register names are readable too, some line assembles to its format then, and every line
that is rendered for the format assembles to the canonical word. -/
theorem mnemonic_alone_iff {d : Draft} (valid : d.problems = []) {f : Format} (listed : f ∈ d.formats) :
    (parseLine f.mnemonic = .ok (some (.instruction f.mnemonic [])) ↔ LoneWord f.mnemonic) ∧
      (LoneWord f.mnemonic → (∀ name ∈ d.registers, leadingNumber name ≤ Text.max32) →
        ∃ t, d.build = .ok t ∧
          (∀ word decoded, t.decodeWord word = .ok decoded → decoded.format = f →
            (t.assemble { lines := [decoded.text] } Sink.write {}).Wrote [word.canonical.bytes]) ∧
          ((∀ slot : Slot, slot.isRegister = true → f.fields.has slot.field = true → d.registers ≠ []) →
            ∃ line word decoded, (t.assemble { lines := [line] } Sink.write {}).Wrote [Word.bytes word] ∧
              t.decodeWord word = .ok decoded ∧ decoded.format = f)) := by
  obtain ⟨names, formats⟩ := Draft.problems_eq_nil_iff.mp valid
  refine ⟨parseLine_self_iff, ?_⟩
  intro mnemonic short
  have built := Draft.build_eq_ok_iff.mpr ⟨names, formats, rfl⟩
  have sound := Table.sound_of_build built
  have like := nameLike_of_short_numbers names short
  refine ⟨_, built, ?_, ?_⟩
  · rintro word decoded ok rfl
    exact Table.assemble_rendered sound like ok mnemonic
  · intro armed
    obtain ⟨canonical, decoded, ok, rfl⟩ := Table.blank_decodes sound listed armed
    have wrote := Table.assemble_rendered sound like ok mnemonic
    rw [canonical] at wrote
    exact ⟨decoded.text, _, decoded, wrote, ok, rfl⟩

/-- White space that does not divide words is no obstacle inside a mnemonic. -/
theorem mnemonic_alone_inner_blank :
    let f : Format := ⟨"A\u00a0B", .imm, 0, 1⟩
    let d : Draft := { name := "t", formats := [f], registers := [] }
    d.problems = [] ∧ parseLine f.mnemonic = .ok (some (.instruction f.mnemonic [])) ∧
      ∃ t line word decoded, d.build = .ok t ∧
        (t.assemble { lines := [line] } Sink.write {}).Wrote [Word.bytes word] ∧
        t.decodeWord word = .ok decoded ∧ decoded.format = f := by
  intro f d
  have valid : d.problems = [] := by decide +kernel
  have parsed : parseLine f.mnemonic = .ok (some (.instruction f.mnemonic [])) := by decide +kernel
  obtain ⟨alone, reached⟩ := mnemonic_alone_iff valid (List.mem_singleton_self f)
  obtain ⟨t, built, -, assembled⟩ := reached (alone.mp parsed) (by decide)
  have armed : ∀ slot : Slot, slot.isRegister = true → f.fields.has slot.field = true →
      d.registers ≠ [] := by
    rintro (_ | _ | _ | _) <;> decide
  obtain ⟨line, word, decoded, wrote, ok, same⟩ := assembled armed
  exact ⟨valid, parsed, t, line, word, decoded, built, wrote, ok, same⟩

/-- A draft without problems whose only mnemonic is read as another mnemonic and an operand. -/
theorem mnemonic_of_two_words :
    let f : Format := ⟨"A B", .empty, 0, 1⟩
    let d : Draft := { name := "t", formats := [f], registers := [] }
    d.problems = [] ∧ parseLine f.mnemonic = .ok (some (.instruction "A" ["B"])) ∧
      parseLine f.mnemonic ≠ .ok (some (.instruction f.mnemonic [])) := by
  intro f d
  have parsed : parseLine f.mnemonic = .ok (some (.instruction "A" ["B"])) := by decide +kernel
  refine ⟨by decide +kernel, parsed, ?_⟩
  rw [parsed]
  simp

end TableAsm
