import TableAsm.Proofs.Disassembly.Decoding
import TableAsm.Proofs.Source.ReadableTables
import TableAsm.Proofs.Word.StrayBits

namespace TableAsm

section

variable {format : Format} {f g : Fields} {registers : Registers}

theorem renderRegisters_congr {slots : List Slot}
    (same : ∀ slot ∈ slots, format.fields.has slot.field = true → f.registerIn slot = g.registerIn slot) :
    renderRegisters format f registers slots = renderRegisters format g registers slots := by
  induction slots with
  | nil => rfl
  | cons slot slots ih =>
    have rest := ih fun other member => same other (List.mem_cons_of_mem slot member)
    rw [renderRegisters, renderRegisters, rest]
    by_cases named : format.fields.has slot.field = true
    · rw [if_pos named, if_pos named, same slot List.mem_cons_self named]
    · rw [if_neg named, if_neg named]

theorem render_congr (mask : format.fields = f.mask) (same : f.SameNamed g) :
    render format f registers = render format g registers := by
  have registersOnly : ∀ slot ∈ [Slot.rd, .rs1, .rs2], slot.isRegister = true := by decide
  have names : renderRegisters format f registers [.rd, .rs1, .rs2] =
      renderRegisters format g registers [.rd, .rs1, .rs2] := by
    apply renderRegisters_congr
    intro slot member named
    have register := registersOnly slot member
    rw [← f.toUInt8_value register, ← g.toUInt8_value register, same.values slot (mask ▸ named)]
  rw [render, render, names]
  by_cases named : format.fields.has .imm = true
  · have immediate : f.imm = g.imm := same.values .imm (mask ▸ named)
    rw [immediate]
  · simp only [if_neg named]

end

namespace Table

variable {t : Table}

/-- Both words decode, to one format and one line, or both are refused for the same reason. -/
def SameReading : Except Failure Decoded → Except Failure Decoded → Prop
  | .ok a, .ok b => a.format = b.format ∧ a.text = b.text
  | .error a, .error b => a = b
  | _, _ => False

theorem decodeWord_sameNamed {v w : Word} (same : (Fields.decode v).SameNamed (Fields.decode w)) :
    SameReading (t.decodeWord v) (t.decodeWord w) := by
  simp only [decodeWord, ← same.keys]
  cases found : t.ofKey (Fields.decode v).key with
  | error failure => rfl
  | ok format =>
    have mask : format.fields = (Fields.decode v).mask := congrArg Encoding.fields (ofKey_eq_ok found).2
    simp only [render_congr mask same]
    cases render format (.decode w) t.registers with
    | error failure => rfl
    | ok text => exact ⟨rfl, rfl⟩

end Table

theorem Text.joined_injective {parts others : List Text} (parted : ∀ part ∈ parts, Text.space ∉ part)
    (divided : ∀ other ∈ others, Text.space ∉ other) (present : parts ≠ []) (existing : others ≠ [])
    (same : Text.joined " " parts = Text.joined " " others) : parts = others := by
  rw [space_eq, Text.joined, Text.joined] at same
  rw [← List.splitOn_intercalate Text.space parted present, same,
    List.splitOn_intercalate Text.space divided existing]

theorem literal32_injective {u v : UInt32} (same : Text.literal32 u = Text.literal32 v) : u = v := by
  have read := classify_literal32 u {} fun _ => none
  rw [same, classify_literal32 v {} fun _ => none] at read
  simpa using read.symm

theorem ShowsAll.no_space {names : List Text} (sound : SoundNames names) {f : Fields}
    {slots : List Slot} {texts : List Text} (shown : ShowsAll ⟨names⟩ f slots texts) :
    ∀ text ∈ texts, Text.space ∉ text := by
  intro text listed member
  have solid := (shown.words sound text listed).solid Text.space member
  exact absurd solid (by decide)

theorem Shows.injective {names : List Text} (sound : SoundNames names) {slot : Slot} {f g : Fields}
    {text : Text} (left : Shows ⟨names⟩ slot (f.value slot) text)
    (right : Shows ⟨names⟩ slot (g.value slot) text) : f.value slot = g.value slot := by
  unfold Shows at left right
  by_cases register : slot.isRegister = true
  · rw [if_pos register] at left right
    have index := sound.index?_of_name? left
    rw [sound.index?_of_name? right, Option.some.injEq] at index
    rw [← f.byte_value register, ← g.byte_value register, index]
  · rw [if_neg register] at left right
    exact literal32_injective (left.symm.trans right)

theorem ShowsAll.injective {names : List Text} (sound : SoundNames names) {f g : Fields}
    {slots : List Slot} {texts : List Text} (left : ShowsAll ⟨names⟩ f slots texts)
    (right : ShowsAll ⟨names⟩ g slots texts) : ∀ slot ∈ slots, f.value slot = g.value slot := by
  induction left with
  | nil => simp
  | cons first _ ih =>
    cases right with
    | cons second rest => exact List.forall_mem_cons.mpr ⟨first.injective sound second, ih rest⟩

namespace Table

variable {t : Table}

theorem sameNamed_of_text (sound : t.Sound) (unspaced : ∀ f ∈ t.formats, Text.space ∉ f.mnemonic)
    {v w : Word} {a b : Decoded} (left : t.decodeWord v = .ok a) (right : t.decodeWord w = .ok b)
    (same : a.text = b.text) : (Fields.decode v).SameNamed (Fields.decode w) := by
  obtain ⟨listed, -, keys, slots, texts, layout, shown, text⟩ := decodeWord_shows sound left
  obtain ⟨listed', -, keys', slots', texts', layout', shown', text'⟩ := decodeWord_shows sound right
  have parted : ∀ part ∈ a.format.mnemonic :: texts, Text.space ∉ part :=
    List.forall_mem_cons.mpr ⟨unspaced _ listed, shown.no_space sound.names⟩
  have divided : ∀ part ∈ b.format.mnemonic :: texts', Text.space ∉ part :=
    List.forall_mem_cons.mpr ⟨unspaced _ listed', shown'.no_space sound.names⟩
  rw [text, text'] at same
  obtain ⟨mnemonics, operands⟩ := List.cons.inj
    (Text.joined_injective parted divided (List.cons_ne_nil _ _) (List.cons_ne_nil _ _) same)
  -- One mnemonic is one format, so that the operands stand in the same slots.
  have formats := List.inj_on_of_nodup_map sound.formats.mnemonics listed listed' mnemonics
  rw [formats, layout', Option.some.injEq] at layout
  subst layout operands
  refine ⟨by rw [keys, keys', formats], ?_⟩
  intro slot named
  have mask : (Fields.decode v).mask = b.format.fields := by
    rw [← formats]
    exact congrArg Encoding.fields keys
  rw [mask] at named
  exact shown.injective sound.names shown' slot ((FieldMask.mem_layout?_iff layout' slot).mpr named)

end Table

/-- Stray bits are unseen. For any table, words that have one key and agree on the slots that their
mask names are decoded alike, or refused alike; so a word reads as its canonical word does, which has
no bit that the word has not and is canonical itself. The other way round, if the table was built and
no mnemonic has a space in it, words with the same line have the same canonical word. -/
theorem Table.stray_bits_unseen (t : Table) :
    (∀ v w : Word,
      let f := Fields.decode v
      let g := Fields.decode w
      f.mask = g.mask → f.group = g.group → f.opcode = g.opcode →
        (∀ slot : Slot, f.mask.has slot.field = true → f.value slot = g.value slot) →
        SameReading (t.decodeWord v) (t.decodeWord w)) ∧
      (∀ w : Word, SameReading (t.decodeWord w.canonical) (t.decodeWord w)) ∧
      (∀ w : Word, w.canonical &&& w = w.canonical ∧ w.canonical.canonical = w.canonical) ∧
      ∀ d : Draft, d.build = .ok t → (∀ f ∈ t.formats, Text.space ∉ f.mnemonic) →
        ∀ (v w : Word) (a b : Decoded), t.decodeWord v = .ok a → t.decodeWord w = .ok b →
          a.text = b.text → v.canonical = w.canonical := by
  refine ⟨?_, ?_, fun w => ⟨w.canonical_and_self, w.canonical_canonical⟩, ?_⟩
  · intro v w f g mask group opcode values
    have keys : f.key = g.key := by rw [Fields.key, Fields.key, mask, group, opcode]
    exact decodeWord_sameNamed ⟨keys, values⟩
  · intro w
    exact decodeWord_sameNamed (Word.canonical_eq_iff.mp w.canonical_canonical)
  · intro d built unspaced v w a b left right same
    exact Word.canonical_eq_iff.mpr (sameNamed_of_text (sound_of_build built) unspaced left right same)

/-- Two words of `OUT R3` with a bit in a different stray slot each. -/
theorem Table.stray_bits_unseen_out :
    let out : Fields := { mask := .rs1, group := 12, opcode := 2, rs1 := 3 }
    let v := Fields.encode { out with imm := 5 }
    let w := Fields.encode { out with rd := 1 }
    v ≠ w ∧ SameReading (Mu.table.decodeWord v) (Mu.table.decodeWord w) ∧
      ∃ a b, Mu.table.decodeWord v = .ok a ∧ Mu.table.decodeWord w = .ok b ∧ a.text = b.text ∧
        v.canonical = w.canonical := by
  intro out v w
  have unspaced : ∀ f ∈ Mu.table.formats, Text.space ∉ f.mnemonic := by decide +kernel
  have decodes : (Mu.table.decodeWord v).toOption.isSome = true := by decide +kernel
  have named : ∀ slot ∈ FieldMask.printed, (Fields.decode v).mask.has slot.field = true →
      (Fields.decode v).value slot = (Fields.decode w).value slot := by decide +kernel
  obtain ⟨unseen, -, -, injective⟩ := stray_bits_unseen Mu.table
  have same : SameReading (Mu.table.decodeWord v) (Mu.table.decodeWord w) :=
    unseen v w (by decide +kernel) (by decide +kernel) (by decide +kernel)
      fun slot => named slot (by cases slot <;> decide)
  refine ⟨by decide +kernel, same, ?_⟩
  cases left : Mu.table.decodeWord v with
  | error failure =>
    rw [left] at decodes
    cases decodes
  | ok a =>
    cases right : Mu.table.decodeWord w with
    | error failure =>
      rw [left, right] at same
      exact same.elim
    | ok b =>
      rw [left, right] at same
      exact ⟨a, b, rfl, rfl, same.2,
        injective Mu.draft Mu.build_draft unspaced v w a b left right same.2⟩

end TableAsm
