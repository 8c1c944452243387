import TableAsm.Definition.Reading
import TableAsm.Proofs.Definition.Documents
import TableAsm.Proofs.Isa.FieldLists
import TableAsm.Proofs.Isa.Lookups
import TableAsm.Proofs.Word.Slots

namespace TableAsm

namespace FormatEntry

def ofFormat (f : Format) : FormatEntry :=
  { mnemonic := f.mnemonic, fields := f.fields.text, group := f.group, opcode := f.opcode }

theorem ofFormat_parses {f : Format} {slots : List Slot} (laidOut : f.fields.layout? = some slots) :
    (ofFormat f).Parses f := by
  have read := FieldMask.ofText?_text (FieldMask.layout?_small laidOut)
  simp only [Parses, format, ofFormat, read]

/-- The second entry says what the first says, with the fields listed as masks print. -/
structure Respelled (e e' : FormatEntry) : Prop where
  mnemonic : e'.mnemonic = e.mnemonic
  fields : ∃ mask, FieldMask.ofText? e.fields = .ok mask ∧ e'.fields = mask.text
  group : e'.group = e.group
  opcode : e'.opcode = e.opcode

theorem Parses.respelled {e : FormatEntry} {f : Format} (parses : e.Parses f) :
    e.Respelled (ofFormat f) := by
  unfold Parses format at parses
  cases read : FieldMask.ofText? e.fields with
  | error problem => simp [read] at parses
  | ok mask =>
    rw [read] at parses
    cases parses
    exact ⟨rfl, ⟨mask, read, rfl⟩, rfl, rfl⟩

end FormatEntry

namespace Document

theorem ofTable_parses {t : Table} (sound : t.Sound) :
    List.Forall₂ FormatEntry.Parses (ofTable t).formats t.formats := by
  refine List.forall₂_map_left_iff.mpr (List.forall₂_same.mpr ?_)
  intro f member
  obtain ⟨slots, laidOut⟩ := sound.formats.laidOut f member
  exact FormatEntry.ofFormat_parses laidOut

theorem ofTable_build {t : Table} (sound : t.Sound) :
    (ofTable t).build = .ok { t with name := if t.name.isEmpty then unnamed else t.name } := by
  rw [build_of_parses (ofTable_parses sound)]
  exact Draft.build_eq_ok_iff.mpr ⟨sound.names, sound.formats, rfl⟩

theorem ofTable_of_build {d : Document} {t : Table} (built : d.build = .ok t) :
    t.Sound ∧ t.name = (if d.name.isEmpty then unnamed else d.name) ∧
      (ofTable t).registers = d.registers ∧
      List.Forall₂ FormatEntry.Respelled d.formats (ofTable t).formats := by
  rcases build_cases d with ⟨formats, parses, same⟩ | ⟨front, e, rest, problem, -, -, -, refused⟩
  · have drafted : (d.draft formats).build = .ok t := same ▸ built
    have sound := Table.sound_of_build drafted
    obtain ⟨-, -, rfl⟩ := Draft.build_eq_ok_iff.mp drafted
    have respelled : List.Forall₂ FormatEntry.Respelled d.formats (formats.map FormatEntry.ofFormat) :=
      List.forall₂_map_right_iff.mpr (parses.imp fun _ _ => FormatEntry.Parses.respelled)
    exact ⟨sound, rfl, rfl, respelled⟩
  · rw [refused] at built
    cases built

theorem name_of_build {d : Document} {t : Table} (built : d.build = .ok t) : t.name.isEmpty = false := by
  obtain ⟨-, named, -⟩ := ofTable_of_build built
  rw [named]
  cases given : d.name.isEmpty with
  | true => rfl
  | false => simpa using given

end Document

namespace Table

/-- Written as a document and built again the first table is the second, and so it is with every codec
that decodes what it encodes for this document. -/
def ReadsBackAs (t t' : Table) : Prop :=
  (Document.ofTable t).build = .ok t' ∧
    ∀ codec : Codec, codec.decode (codec.encode (Document.ofTable t)) = .ok (Document.ofTable t) →
      decoded codec (t.encoded codec) = .ok t'

theorem readsBackAs_of_build {t t' : Table} (built : (Document.ofTable t).build = .ok t') :
    t.ReadsBackAs t' := by
  refine ⟨built, ?_⟩
  intro codec reads
  rw [decoded, encoded, reads]
  exact built

/-- Tables survive being written as definitions. A table of a draft keeps its formats and registers, and
its name unless this is empty; a table of a document comes back as it was, and its document is the
given one with the field lists respelled. -/
theorem definition_reads_back :
    (∀ (d : Draft) (t : Table), d.build = .ok t →
      t.ReadsBackAs { t with name := if t.name.isEmpty then Document.unnamed else t.name }) ∧
    ∀ (d : Document) (t : Table), d.build = .ok t →
      (Document.ofTable t).registers = d.registers ∧
        List.Forall₂ FormatEntry.Respelled d.formats (Document.ofTable t).formats ∧
        t.ReadsBackAs t := by
  refine ⟨?_, ?_⟩
  · intro d t built
    exact readsBackAs_of_build (Document.ofTable_build (sound_of_build built))
  · intro d t built
    obtain ⟨sound, -, registers, respelled⟩ := Document.ofTable_of_build built
    have rebuilt := Document.ofTable_build sound
    -- The name has been filled in already, so nothing is left to change.
    rw [Document.name_of_build built] at rebuilt
    exact ⟨registers, respelled, readsBackAs_of_build rebuilt⟩

/-- A draft without a name, and a document without one that spells the same field lists in another
order, spaced and in small letters. -/
theorem definition_reads_back_respelled :
    let formats : List Format := [⟨"LD", ⟨9⟩, 1, 2⟩, ⟨"ADD", ⟨14⟩, 5, 1⟩, ⟨"NOP", ⟨0⟩, 31, 0⟩]
    let d : Draft := { formats, registers := ["A", "B"] }
    let d' : Document :=
      { registers := ["A", "B"]
        formats := [⟨"LD", " imm,  rd", 1, 2⟩, ⟨"ADD", "Rs2,RD,rs1", 5, 1⟩, ⟨"NOP", "none", 31, 0⟩] }
    let t : Table := { name := [], formats, registers := ⟨["A", "B"]⟩ }
    let t' : Table := { t with name := "custom" }
    d.build = .ok t ∧ d'.build = .ok t' ∧ t.ReadsBackAs t' ∧
      ofText .yaml (t'.written .yaml) = .ok t' ∧ ofText .toml (t'.written .toml) = .ok t' := by
  intro formats d d' t t'
  have built : d.build = .ok t := by decide +kernel
  have built' : d'.build = .ok t' := by decide +kernel
  obtain ⟨drafts, documents⟩ := definition_reads_back
  obtain ⟨-, -, -, reads⟩ := documents d' t' built'
  have yaml := reads (DocumentFormat.codec .yaml) (by decide +kernel)
  have toml := reads (DocumentFormat.codec .toml) (by decide +kernel)
  exact ⟨built, built', drafts d t built, yaml, toml⟩

end Table

end TableAsm
