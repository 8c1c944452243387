import TableAsm.Proofs.Source.ReadableTables
import TableAsm.Proofs.Stream.Runs
import TableAsm.Proofs.Verify.CanonicalText
import TableAsm.Proofs.Verify.CanonicalWords

namespace TableAsm

namespace Table

variable {t : Table}

theorem canonicalTexts_of_words (sound : t.Sound) {symbols : SymbolTable}
    {instructions : List Instruction} {words : List Word}
    (encoded : t.EncodesAll symbols instructions words)
    (stems : ∀ i ∈ instructions, ∃ raw, Stems raw i) :
    ∃ decoded : List Decoded,
      instructions.map (t.canonicalText · symbols) = (decoded.map Decoded.text).map .ok ∧
      t.DecodesAll words decoded ∧
      List.Forall₂ t.Denotes (decoded.map Decoded.text) words := by
  induction encoded with
  | nil => exact ⟨[], rfl, .nil, .nil⟩
  | cons first _ ih =>
    obtain ⟨⟨raw, stem⟩, others⟩ := List.forall_mem_cons.mp stems
    obtain ⟨decoded, texts, back, denote⟩ := ih others
    obtain ⟨text, canonical, ⟨d, ok, rfl⟩, same⟩ := canonicalText_of_word sound first
    refine ⟨d :: decoded, ?_, .cons ok back, .cons (same raw stem) denote⟩
    rw [List.map_cons, canonical, texts]
    rfl

/-- Assembling and disassembling gives the canonical text of each instruction, and assembling these
texts gives the same bytes. -/
theorem assemble_disassemble_canonical {d : Draft} (built : d.build = .ok t) (input : LineInput)
    (accepted : (t.assemble input Sink.write {}).failure = none) :
    let bytes := (t.assemble input Sink.write {}).out.bytes
    let back := t.disassemble { bytes } Sink.write {}
    let again := t.assemble { lines := back.out.accepted } Sink.write {}
    back.failure = none ∧
      (∃ p, (scan input).result = .ok p ∧
        p.instructions.map (t.canonicalText · p.symbols) = back.out.accepted.map .ok) ∧
      again.failure = none ∧ again.out.bytes = bytes := by
  have sound := sound_of_build built
  obtain ⟨p, words, scanned, encoded, chunks⟩ := assemble_unlimited.mp ⟨accepted, rfl⟩
  have stems : ∀ i ∈ p.instructions, ∃ raw, Stems raw i := by
    intro i member
    obtain ⟨raw, -, stems⟩ := scan_stems scanned i member
    exact ⟨raw, stems⟩
  obtain ⟨decoded, texts, decodes, denote⟩ := canonicalTexts_of_words sound encoded stems
  intro bytes back again
  have stream : bytes = words.flatMap Word.bytes := Run.Wrote.bytes ⟨accepted, chunks⟩
  have read : back.Wrote (decoded.map Decoded.text) :=
    (disassemble_unlimited (by simp)).mpr ⟨rfl, words, decoded, stream, decodes, rfl⟩
  obtain ⟨success, lines⟩ := read
  -- The second source has no labels, so its instructions are encoded without the first one's symbols.
  have wrote : again.Wrote (words.map Word.bytes) := by
    simp only [again, lines]
    exact assemble_denotes denote
  refine ⟨success, ⟨p, scanned, ?_⟩, wrote.1, ?_⟩
  · rw [lines, texts]
  · rw [wrote.bytes, stream]

/-- A loop with a label, a comment and a number in decimal. -/
theorem assemble_disassemble_loop :
    let source : LineInput := { lines := ["@loop ; start", "\tADDI  R1 R2\t10", "J @loop"] }
    let bytes := (Mu.table.assemble source Sink.write {}).out.bytes
    let back := Mu.table.disassemble { bytes } Sink.write {}
    let again := Mu.table.assemble { lines := back.out.accepted } Sink.write {}
    (Mu.table.assemble source Sink.write {}).failure = none ∧
      back.out.accepted = ["ADDI R1 R2 0x0000000a", "J 0x00000000"] ∧
      back.failure = none ∧ again.failure = none ∧ again.out.bytes = bytes := by
  intro source bytes back again
  have accepted : (Mu.table.assemble source Sink.write {}).failure = none := by decide +kernel
  obtain ⟨success, -, succeeds, same⟩ := assemble_disassemble_canonical Mu.build_draft source accepted
  exact ⟨accepted, by decide +kernel, success, succeeds, same⟩

theorem canonicalWords_of_lines (sound : t.Sound) (readable : t.Readable) {words : List Word}
    {decoded : List Decoded} (each : t.DecodesAll words decoded) :
    List.Forall₂ t.Denotes (decoded.map Decoded.text) (words.map Word.canonical) := by
  induction each with
  | nil => exact .nil
  | cons first _ ih =>
    have listed := (decodeWord_shows sound first).1
    exact .cons (decodeWord_denotes sound readable.nameLike first (readable.loneWord listed)) ih

theorem canonical_bytes_eq_iff {words : List Word} :
    (words.map Word.canonical).flatMap Word.bytes = words.flatMap Word.bytes ↔
      ∀ word ∈ words, word.canonical = word := by
  have fixed : words.map Word.canonical = words.map id ↔ ∀ word ∈ words, word.canonical = word :=
    List.map_inj_left
  rw [List.map_id] at fixed
  rw [← fixed]
  exact ⟨flatMap_bytes_injective, congrArg _⟩

/-- Where every name is readable, as in the built-in set, disassembling and assembling gives the
canonical words, and the bytes come back exactly if the check of the words finds nothing. -/
theorem disassemble_assemble_canonical :
    (Mu.draft.build = .ok Mu.table ∧ Mu.table.Readable) ∧
      ∀ {d : Draft} {t : Table}, d.build = .ok t → t.Readable → ∀ input : ByteInput,
        (∀ cause ∈ input.failure?, cause.isEnd = false) →
        (t.disassemble input Sink.write {}).failure = none →
        let lines := (t.disassemble input Sink.write {}).out.accepted
        let again := t.assemble { lines } Sink.write {}
        again.failure = none ∧
          (∃ words : List Word, input.bytes = words.flatMap Word.bytes ∧
            again.out.accepted = words.map fun word => (Fields.decode word).canonical.encode.bytes) ∧
          (again.out.bytes = input.bytes ↔ t.checkWords input = ([], none)) := by
  refine ⟨⟨Mu.build_draft, Mu.table_readable⟩, ?_⟩
  intro d t built readable input honest success lines again
  obtain ⟨intact, words, decoded, stream, each, texts⟩ :=
    (disassemble_unlimited honest).mp ⟨success, rfl⟩
  have wrote := assemble_denotes (canonicalWords_of_lines (sound_of_build built) readable each)
  rw [← texts] at wrote
  refine ⟨wrote.1, ⟨words, stream, ?_⟩, ?_⟩
  · rw [wrote.2, List.map_map]
    rfl
  · have whole : input = { bytes := words.flatMap Word.bytes } := by
      rw [← stream, ← intact]
    rw [wrote.bytes, stream, canonical_bytes_eq_iff, whole, checkWords_eq_nil_iff]
    -- Every word of the stream decodes, so the check can only object to a bit outside the fields.
    apply forall₂_congr
    intro word member
    obtain ⟨decoded, -, ok⟩ := exists_of_forall₂ each member
    exact (and_iff_right ⟨decoded, ok⟩).symm

/-- An instruction without operands whose word has a bit set in the immediate field. -/
theorem disassemble_assemble_stray_bit :
    let input : ByteInput := { bytes := [1, 0, 0, 0, 0, 0, 0x80, 0x0f] }
    let lines := (Mu.table.disassemble input Sink.write {}).out.accepted
    let again := Mu.table.assemble { lines } Sink.write {}
    (Mu.table.disassemble input Sink.write {}).failure = none ∧ lines = ["NOP"] ∧
      again.failure = none ∧ again.out.bytes ≠ input.bytes ∧ Mu.table.checkWords input ≠ ([], none) := by
  intro input lines again
  have success : (Mu.table.disassemble input Sink.write {}).failure = none := by decide +kernel
  have honest : ∀ cause ∈ input.failure?, cause.isEnd = false := by simp [input]
  have changed : again.out.bytes ≠ input.bytes := by decide +kernel
  obtain ⟨succeeds, -, decides⟩ :=
    disassemble_assemble_canonical.2 Mu.build_draft Mu.table_readable input honest success
  exact ⟨success, by decide +kernel, succeeds, changed, fun clean => changed (decides.mpr clean)⟩

end Table

end TableAsm
