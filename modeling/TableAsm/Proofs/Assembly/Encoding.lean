import TableAsm.Proofs.Disassembly.Rendering
import TableAsm.Proofs.Isa.Lookups
import TableAsm.Proofs.Word.Packing

namespace TableAsm

theorem Operands.toList_ofList {tokens : List Text} (few : tokens.length ≤ capacity) :
    ∃ spare, (ofList tokens).toList = tokens ++ spare ∧ ∀ token ∈ spare, token = [] := by
  match tokens, few with
  | [], _ => exact ⟨[[], [], []], rfl, by simp⟩
  | [_], _ => exact ⟨[[], []], rfl, by simp⟩
  | [_, _], _ => exact ⟨[[]], rfl, by simp⟩
  | [_, _, _], _ => exact ⟨[], rfl, by simp⟩

namespace Table

theorem encodeInstruction_eq_ok_iff {t : Table} {instruction : Instruction} {symbols : SymbolTable}
    {word : Word} :
    t.encodeInstruction instruction symbols = .ok word ↔
      ∃ format fields, t.ofMnemonic instruction.mnemonic = .ok format ∧
        bind instruction format symbols t.registers.index? = .ok fields ∧ word = fields.encode := by
  unfold encodeInstruction
  cases t.ofMnemonic instruction.mnemonic with
  | error failure => simp
  | ok format =>
    simp only [Except.ok.injEq, exists_and_left, exists_eq_left']
    cases bind instruction format symbols t.registers.index? with
    | error failure => simp
    | ok fields => simp [eq_comm]

/-- Each instruction has the word in its place. -/
def EncodesAll (t : Table) (symbols : SymbolTable) (instructions : List Instruction)
    (words : List Word) : Prop :=
  List.Forall₂ (fun i word => t.encodeInstruction i symbols = .ok word) instructions words

end Table

theorem bound_fits {instruction : Instruction} {format : Format} {symbols : SymbolTable}
    {register? : Text → Option UInt8} {f : Fields} (grouped : format.group ≤ Format.maxGroup)
    (indexed : ∀ name index, register? name = some index → index < 32)
    (bound : bind instruction format symbols register? = .ok f) : f.Fits := by
  obtain ⟨slots, layout, ⟨used, spare, -, carried, -⟩, keys, canonical⟩ := bind_eq_ok_iff.mp bound
  have mask : f.mask = format.fields := congrArg Encoding.fields keys
  have group : f.group = format.group := congrArg Encoding.group keys
  have zero := (Fields.canonical_eq_self_iff f).mp canonical
  have small (slot : Slot) (register : slot.isRegister = true) : f.registerIn slot < 32 := by
    rw [← f.toUInt8_value register]
    cases named : f.mask.has slot.field with
    | false =>
      rw [zero slot named]
      decide
    | true =>
      rw [mask] at named
      have filled := (FieldMask.mem_layout?_iff layout slot).mpr named
      obtain ⟨token, -, carried⟩ := exists_of_forall₂ carried filled
      obtain ⟨-, index, found, value⟩ := carried.register register
      rw [value, UInt8.toUInt8_toUInt32]
      exact indexed token index found
  refine ⟨?_, ?_, small .rd rfl, small .rs1 rfl, small .rs2 rfl⟩
  · rw [mask]
    exact FieldMask.layout?_small layout
  · rw [group]
    exact UInt8.lt_of_le_of_lt grouped (by decide)

theorem bind_fits {t : Table} (sound : t.Sound) {instruction : Instruction} {format : Format}
    (listed : format ∈ t.formats) {symbols : SymbolTable} {f : Fields}
    (bound : bind instruction format symbols t.registers.index? = .ok f) : f.Fits :=
  bound_fits (sound.formats.grouped format listed) (fun _ _ => sound.names.index?_small) bound

/-- The line is an instruction with the given word, whatever the labels around it are. -/
def Table.Denotes (t : Table) (line : Text) (word : Word) : Prop :=
  ∃ mnemonic operands, parseLine line = .ok (some (.instruction mnemonic operands)) ∧
    operands.length ≤ Operands.capacity ∧
    ∀ (instruction : Instruction) (symbols : SymbolTable), instruction.mnemonic = mnemonic →
      instruction.operands = .ofList operands → t.encodeInstruction instruction symbols = .ok word

section

variable {t : Table} {format : Format} {slots : List Slot} {f : Fields} {texts : List Text}

theorem carries_legible (sound : SoundNames t.registers.names)
    (layout : format.fields.layout? = some slots) (keys : f.key = format.key)
    (legible : LegibleAll t.registers f slots texts) (symbols : SymbolTable) {tokens spare : List Text} (whole : tokens = texts ++ spare)
    (empty : ∀ token ∈ spare, token = []) :
    Carries symbols t.registers.index? f.canonical slots tokens := by
  have mask : f.mask = format.fields := congrArg Encoding.fields keys
  have named : ∀ slot ∈ slots, f.canonical.value slot = f.value slot := by
    intro slot member
    rw [Fields.value_canonical, mask, if_pos ((FieldMask.mem_layout?_iff layout slot).mp member)]
  refine ⟨texts, spare, whole, ?_, empty⟩
  refine ((List.forall₂_and_left _ _).mpr ⟨named, legible⟩).imp ?_
  rintro slot text ⟨same, legible⟩
  rw [same]
  exact legible.carried sound (f.byte_value ·) symbols

theorem Table.denotes_joined (sound : t.Sound) (listed : format ∈ t.formats)
    (layout : format.fields.layout? = some slots) (keys : f.key = format.key)
    (legible : LegibleAll t.registers f slots texts) (word : SourceWord format.mnemonic) (starts : format.mnemonic.StartsSolid)
    (ends : texts = [] → format.mnemonic.EndsSolid) :
    t.Denotes (Text.joined " " (format.mnemonic :: texts)) f.canonical.encode := by
  have few : texts.length ≤ Operands.capacity := by
    rw [← List.Forall₂.length_eq legible]
    exact FieldMask.layout?_length layout
  have words := legible.shown.words sound.names
  refine ⟨format.mnemonic, texts, parseLine_joined word starts ends words, few, ?_⟩
  intro instruction symbols mnemonic operands
  obtain ⟨spare, whole, empty⟩ := Operands.toList_ofList few
  rw [← operands] at whole
  have bound : bind instruction format symbols t.registers.index? = .ok f.canonical :=
    bind_eq_ok_iff.mpr ⟨slots, layout, carries_legible sound.names layout keys legible symbols whole empty,
      keys, f.canonical_canonical⟩
  refine Table.encodeInstruction_eq_ok_iff.mpr ⟨format, f.canonical, ?_, bound, rfl⟩
  rw [mnemonic]
  exact Table.ofMnemonic_mnemonic sound listed

end

end TableAsm
