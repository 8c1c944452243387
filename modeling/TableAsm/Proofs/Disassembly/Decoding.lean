import TableAsm.Proofs.Assembly.Encoding
import TableAsm.Proofs.Fault.Positions

namespace TableAsm

namespace Table

variable {t : Table}

def DecodesAll (t : Table) (words : List Word) (decoded : List Decoded) : Prop :=
  List.Forall₂ (fun word d => t.decodeWord word = .ok d) words decoded

theorem decodeWord_eq_ok_iff {word : Word} {decoded : Decoded} :
    t.decodeWord word = .ok decoded ↔
      ∃ format text, t.ofKey (Fields.decode word).key = .ok format ∧
        render format (.decode word) t.registers = .ok text ∧
        decoded = { word, format, fields := .decode word, text } := by
  simp only [decodeWord]
  cases t.ofKey (Fields.decode word).key with
  | error failure => simp
  | ok format =>
    simp only [Except.ok.injEq, exists_and_left, exists_eq_left']
    cases render format (.decode word) t.registers with
    | error failure => simp
    | ok text => simp [eq_comm]

theorem decodeWord_shows (sound : t.Sound) {word : Word} {decoded : Decoded}
    (ok : t.decodeWord word = .ok decoded) :
    decoded.format ∈ t.formats ∧ decoded.fields = .decode word ∧
      (Fields.decode word).key = decoded.format.key ∧
      ∃ slots texts, decoded.format.fields.layout? = some slots ∧
        ShowsAll t.registers (.decode word) slots texts ∧
        decoded.text = Text.joined " " (decoded.format.mnemonic :: texts) := by
  obtain ⟨format, text, found, rendered, rfl⟩ := decodeWord_eq_ok_iff.mp ok
  obtain ⟨listed, keys⟩ := ofKey_eq_ok found
  obtain ⟨slots, layout⟩ := sound.formats.laidOut format listed
  obtain ⟨texts, shown, rfl⟩ := (render_eq_ok_iff layout).mp rendered
  exact ⟨listed, rfl, keys.symm, slots, texts, layout, shown, rfl⟩

theorem decodeWord_encode (sound : t.Sound) {format : Format} (listed : format ∈ t.formats)
    {slots : List Slot} (layout : format.fields.layout? = some slots) {f : Fields} (fits : f.Fits)
    (keys : f.key = format.key) {texts : List Text} (shown : ShowsAll t.registers f slots texts) :
    t.decodeWord f.encode =
      .ok
        { word := f.encode
          format
          fields := f
          text := Text.joined " " (format.mnemonic :: texts) } := by
  have found : t.ofKey f.key = .ok format := by
    rw [keys]
    exact ofKey_key sound listed
  have rendered := (render_eq_ok_iff layout).mpr ⟨texts, shown, rfl⟩
  rw [decodeWord_eq_ok_iff, Fields.decode_encode fits]
  exact ⟨format, _, found, rendered, rfl⟩

/-- The failure of a word on its own: a fault that has no offset yet, for a key that no format or more
than one has, or for a register that has no name. -/
def DecodingFault (failure : Failure) (fault : Fault) : Prop :=
  failure.fault? = some fault ∧ fault.offset = -1 ∧
    (fault.kind = .unknownEncoding ∨ fault.kind = .ambiguousEncoding)

theorem ofKey_fault {key : Encoding} {failure : Failure} (refused : t.ofKey key = .error failure) :
    ∃ fault, DecodingFault failure fault := by
  unfold ofKey at refused
  split at refused
  · cases refused
  · cases refused
    exact ⟨_, rfl, rfl, .inl rfl⟩
  · cases refused
    exact ⟨_, rfl, rfl, .inr rfl⟩

/-- The failure is an unknown encoding, in words of its own and without an offset yet. -/
def UnknownWord (failure : Failure) : Prop :=
  ∃ f, failure.States f ∧ f.kind = .unknownEncoding ∧ f.offset = -1

def Unnamed (registers : Registers) (mask : FieldMask) (f : Fields) (slots : List Slot) : Prop :=
  ∃ slot ∈ slots, mask.has slot.field = true ∧ registers.names.length ≤ (f.registerIn slot).toNat

theorem renderRegisters_cases (format : Format) (f : Fields) (registers : Registers) (slots : List Slot) :
    ((∃ text, renderRegisters format f registers slots = .ok text) ∧
        ¬ Unnamed registers format.fields f slots) ∨
      (∃ failure, renderRegisters format f registers slots = .error failure ∧ UnknownWord failure) ∧
        Unnamed registers format.fields f slots := by
  induction slots with
  | nil => exact .inl ⟨⟨[], rfl⟩, by simp [Unnamed]⟩
  | cons slot slots ih =>
    have split : Unnamed registers format.fields f (slot :: slots) ↔
        (format.fields.has slot.field = true ∧ registers.names.length ≤ (f.registerIn slot).toNat) ∨
          Unnamed registers format.fields f slots := by
      simp [Unnamed]
    rw [split, renderRegisters]
    by_cases named : format.fields.has slot.field = true
    · rw [if_pos named]
      rcases registers.name_cases (f.registerIn slot) with ⟨small, name, found⟩ | ⟨large, none⟩
      · rw [found]
        have known : ¬ registers.names.length ≤ (f.registerIn slot).toNat := by omega
        simp only [known, and_false, false_or]
        rcases ih with ⟨⟨text, ok⟩, fine⟩ | ⟨⟨failure, refused, unknown⟩, bad⟩
        · exact .inl ⟨⟨_, by rw [ok]⟩, fine⟩
        · exact .inr ⟨⟨failure, by rw [refused], unknown⟩, bad⟩
      · rw [none]
        refine .inr ⟨⟨_, rfl, ?_⟩, .inl ⟨named, large⟩⟩
        exact ⟨_, ⟨rfl, by simp⟩, rfl, rfl⟩
    · have skipped : ¬ (format.fields.has slot.field = true ∧
          registers.names.length ≤ (f.registerIn slot).toNat) := fun both => named both.1
      rw [if_neg named, or_iff_right skipped]
      exact ih

theorem render_eq_error {format : Format} {fields : Fields} {registers : Registers} {failure : Failure}
    (refused : render format fields registers = .error failure) : UnknownWord failure := by
  unfold render at refused
  rcases renderRegisters_cases format fields registers [.rd, .rs1, .rs2] with
    ⟨⟨text, ok⟩, -⟩ | ⟨⟨other, same, unknown⟩, -⟩
  · rw [ok] at refused
    cases refused
  · rw [same] at refused
    cases refused
    exact unknown

theorem decodeWord_eq_error_iff {word : Word} {failure : Failure} :
    t.decodeWord word = .error failure ↔
      t.ofKey (Fields.decode word).key = .error failure ∨
        ∃ format, t.ofKey (Fields.decode word).key = .ok format ∧
          render format (.decode word) t.registers = .error failure := by
  simp only [decodeWord]
  cases t.ofKey (Fields.decode word).key with
  | error cause => simp
  | ok format =>
    simp only [reduceCtorEq, Except.ok.injEq, false_or, exists_eq_left']
    cases render format (.decode word) t.registers <;> simp

theorem decodeWord_fault {word : Word} {failure : Failure}
    (refused : t.decodeWord word = .error failure) : ∃ fault, DecodingFault failure fault := by
  rcases decodeWord_eq_error_iff.mp refused with unknown | ⟨format, -, unrendered⟩
  · exact ofKey_fault unknown
  · obtain ⟨f, states, kind, offset⟩ := render_eq_error unrendered
    exact ⟨f, states.fault?, offset, .inl kind⟩

/-- Why a word does not decode: no format has its key, or a register slot that its mask names holds no
index of a register. -/
def Undecodable (t : Table) (word : Word) : Prop :=
  (∀ f ∈ t.formats, f.key ≠ (Fields.decode word).key) ∨
    ∃ slot : Slot, slot.isRegister = true ∧ (Fields.decode word).mask.has slot.field = true ∧
      t.registers.names.length ≤ ((Fields.decode word).registerIn slot).toNat

theorem ofKey_cases (sound : t.Sound) (key : Encoding) :
    (∃ f ∈ t.formats, f.key = key ∧ t.ofKey key = .ok f) ∨
      (∀ f ∈ t.formats, f.key ≠ key) ∧ ∃ failure, t.ofKey key = .error failure ∧ UnknownWord failure := by
  by_cases known : ∃ f ∈ t.formats, f.key = key
  · obtain ⟨f, listed, rfl⟩ := known
    exact .inl ⟨f, listed, rfl, ofKey_key sound listed⟩
  · push Not at known
    have none : t.withKey key = [] := by
      rw [withKey, List.filter_eq_nil_iff]
      intro f listed
      simpa using known f listed
    refine .inr ⟨known, ?_⟩
    rw [ofKey, none]
    exact ⟨_, rfl, _, ⟨rfl, by simp⟩, rfl, rfl⟩

theorem decodeWord_cases (sound : t.Sound) (word : Word) :
    ((∃ decoded, t.decodeWord word = .ok decoded) ∧ ¬ t.Undecodable word) ∨
      (∃ failure, t.decodeWord word = .error failure ∧ UnknownWord failure) ∧ t.Undecodable word := by
  simp only [decodeWord]
  rcases ofKey_cases sound (Fields.decode word).key with
    ⟨format, listed, keys, found⟩ | ⟨none, failure, refused, unknown⟩
  · have mask : format.fields = (Fields.decode word).mask := congrArg Encoding.fields keys
    have slots : Unnamed t.registers format.fields (.decode word) [.rd, .rs1, .rs2] ↔
        t.Undecodable word := by
      have has : ¬ ∀ f ∈ t.formats, f.key ≠ (Fields.decode word).key := fun none => none format listed keys
      rw [Undecodable, mask, Unnamed, or_iff_right has]
      refine exists_congr fun slot => and_congr_left fun _ => ?_
      cases slot <;> simp [Slot.isRegister]
    rw [found, ← slots]
    simp only [render]
    rcases renderRegisters_cases format (.decode word) t.registers [.rd, .rs1, .rs2] with
      ⟨⟨text, ok⟩, fine⟩ | ⟨⟨failure, refused, unknown⟩, bad⟩
    · rw [ok]
      exact .inl ⟨⟨_, rfl⟩, fine⟩
    · rw [refused]
      exact .inr ⟨⟨failure, rfl, unknown⟩, bad⟩
  · rw [refused]
    exact .inr ⟨⟨failure, rfl, unknown⟩, .inl none⟩

end Table

end TableAsm
