import TableAsm.Proofs.Stream.Runs
import TableAsm.Proofs.Verify.CanonicalWords

namespace TableAsm

namespace Table

variable {t : Table}

theorem roundTripIssue?_eq_none_iff {symbols : SymbolTable} {i : Instruction} :
    t.roundTripIssue? symbols i = none ↔
      ∃ word decoded, t.encodeInstruction i symbols = .ok word ∧ t.decodeWord word = .ok decoded ∧
        t.canonicalText i symbols = .ok decoded.text := by
  unfold roundTripIssue?
  constructor
  · intro none
    split at none
    · cases none
    · rename_i word encoded
      split at none
      · cases none
      · rename_i wanted canonical
        split at none
        · cases none
        · rename_i decoded ok
          split at none
          · rename_i same
            exact ⟨word, decoded, encoded, ok, same ▸ canonical⟩
          · cases none
  · rintro ⟨word, decoded, encoded, ok, canonical⟩
    simp [encoded, ok, canonical]

theorem roundTripIssues_eq_nil_iff {symbols : SymbolTable} {instructions : List Instruction} :
    instructions.filterMap (t.roundTripIssue? symbols) = [] ↔
      ∃ words decoded, t.EncodesAll symbols instructions words ∧ t.DecodesAll words decoded ∧
        instructions.map (t.canonicalText · symbols) = (decoded.map Decoded.text).map .ok := by
  induction instructions with
  | nil => exact ⟨fun _ => ⟨[], [], .nil, .nil, rfl⟩, fun _ => rfl⟩
  | cons i rest ih =>
    rw [List.filterMap_eq_nil_iff, List.forall_mem_cons, ← List.filterMap_eq_nil_iff, ih,
      roundTripIssue?_eq_none_iff]
    constructor
    · rintro ⟨⟨word, d, encoded, ok, canonical⟩, words, decoded, each, back, texts⟩
      refine ⟨word :: words, d :: decoded, .cons encoded each, .cons ok back, ?_⟩
      rw [List.map_cons, canonical, texts]
      rfl
    · rintro ⟨_, _, encoded, back, texts⟩
      cases encoded with
      | cons first each =>
        cases back with
        | cons ok back =>
          obtain ⟨canonical, others⟩ := List.cons.inj texts
          exact ⟨⟨_, _, first, ok, canonical⟩, _, _, each, back, others⟩

theorem emitProgram_wrote_iff {p : Program} {chunks : List Text} :
    (t.emitProgram p Sink.write {}).Wrote chunks ↔
      ∃ words, t.EncodesAll p.symbols p.instructions words ∧ chunks = words.map Word.bytes := by
  have endless : ({} : Sink).Admits (t.emission p.symbols p.instructions).deliveries.length := by
    simp [Sink.Admits]
  obtain ⟨accepted, failure⟩ := Script.run_admitted endless
  rw [← emission_completes, emitProgram, emit_eq_run, Run.Wrote, accepted, failure]
  rfl

/-- For every table and every source that scans, the check of the instructions finds nothing exactly
if the program can be encoded, its bytes can be disassembled, and the lines are the canonical texts of
its instructions, in order and none missing. -/
theorem checkRoundTrip_decides (t : Table) {input : LineInput} {p : Program}
    (scanned : (scan input).result = .ok p) :
    let r := t.emitProgram p Sink.write {}
    let back := t.disassemble { bytes := r.out.bytes } Sink.write {}
    ∃ issues, t.checkRoundTrip input = .ok (p, issues) ∧
      (issues = [] ↔
        r.failure = none ∧ back.failure = none ∧
          p.instructions.map (t.canonicalText · p.symbols) = back.out.accepted.map .ok) := by
  intro r back
  refine ⟨t.roundTripIssues p, by rw [checkRoundTrip, scanned], ?_⟩
  rw [roundTripIssues, roundTripIssues_eq_nil_iff]
  constructor
  · rintro ⟨words, decoded, each, decodes, texts⟩
    have wrote : r.Wrote (words.map Word.bytes) := emitProgram_wrote_iff.mpr ⟨words, each, rfl⟩
    have read : back.Wrote (decoded.map Decoded.text) :=
      (disassemble_unlimited (by simp)).mpr ⟨rfl, words, decoded, wrote.bytes, decodes, rfl⟩
    refine ⟨wrote.1, read.1, ?_⟩
    rw [read.2, texts]
  · rintro ⟨success, readable, texts⟩
    obtain ⟨words, each, chunks⟩ := emitProgram_wrote_iff.mp ⟨success, rfl⟩
    have stream : r.out.bytes = words.flatMap Word.bytes := Run.Wrote.bytes ⟨success, chunks⟩
    obtain ⟨-, framed, decoded, same, decodes, lines⟩ :=
      (disassemble_unlimited (by simp)).mp ⟨readable, rfl⟩
    -- The words that are read are those that were written.
    obtain rfl := flatMap_bytes_injective (stream.symm.trans same)
    exact ⟨words, decoded, each, decodes, lines ▸ texts⟩

/-- A table that no draft builds: the group of the first format does not fit in its field, and its
word is that of the second. -/
theorem checkRoundTrip_decides_aliased :
    let t : Table := ⟨"t", [⟨"A", .empty, 33, 1⟩, ⟨"B", .empty, 1, 1⟩], ⟨[]⟩⟩
    let input : LineInput := { lines := ["B", "A"] }
    ∃ p issues, (scan input).result = .ok p ∧ t.checkRoundTrip input = .ok (p, issues) ∧
      (t.assemble input Sink.write {}).failure = none ∧ issues ≠ [] := by
  intro t input
  let p : Program :=
    { instructions :=
        [{ source := "B", line := 1, mnemonic := "B" },
          { source := "A", line := 2, address := 8, mnemonic := "A" }] }
  have scanned : (scan input).result = .ok p := by decide +kernel
  obtain ⟨issues, checked, decides⟩ := checkRoundTrip_decides t scanned
  refine ⟨p, issues, scanned, checked, by decide +kernel, ?_⟩
  rw [Ne, decides]
  rintro ⟨-, -, texts⟩
  exact absurd texts (by decide +kernel)

end Table

end TableAsm
