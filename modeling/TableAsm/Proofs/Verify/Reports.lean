import TableAsm.Proofs.Assembly.Outcomes
import TableAsm.Proofs.Source.ReadableTables
import TableAsm.Proofs.Verify.CanonicalText
import TableAsm.Proofs.Verify.CanonicalWords
import TableAsm.Proofs.Verify.Lints
import TableAsm.Verify.Report

namespace TableAsm

namespace Table

variable {t : Table}

theorem encoded_canonical (sound : t.Sound) {i : Instruction} {symbols : SymbolTable} {word : Word}
    (encoded : t.encodeInstruction i symbols = .ok word) :
    (∃ decoded, t.decodeWord word = .ok decoded) ∧ word.canonical = word := by
  obtain ⟨text, -, ⟨decoded, ok, -⟩, -⟩ := canonicalText_of_word sound encoded
  obtain ⟨format, f, found, bound, rfl⟩ := encodeInstruction_eq_ok_iff.mp encoded
  have fits := bind_fits sound (ofMnemonic_eq_ok found).1 bound
  obtain ⟨-, -, -, -, canonical⟩ := bind_eq_ok_iff.mp bound
  refine ⟨⟨decoded, ok⟩, ?_⟩
  rw [Word.canonical, Fields.decode_encode fits, canonical]

theorem checkWords_encoded (sound : t.Sound) {symbols : SymbolTable} {instructions : List Instruction}
    {words : List Word} (each : t.EncodesAll symbols instructions words) :
    t.checkWords { bytes := words.flatMap Word.bytes } = ([], none) := by
  rw [checkWords_eq_nil_iff]
  intro word member
  obtain ⟨i, -, encoded⟩ := exists_of_forall₂ (List.Forall₂.flip each) member
  exact encoded_canonical sound encoded

theorem roundTripIssue?_built (sound : t.Sound) (symbols : SymbolTable) (i : Instruction) :
    t.roundTripIssue? symbols i = (t.refusal? symbols i).map (.ofFailure .roundTrip) := by
  unfold roundTripIssue? refusal?
  cases encoded : t.encodeInstruction i symbols with
  | error failure => rfl
  | ok word =>
    obtain ⟨text, canonical, ⟨decoded, ok, same⟩, -⟩ := canonicalText_of_word sound encoded
    simp [canonical, ok, same]

end Table

/-- The issue repeats what the failure of an instruction's encoding says. -/
def Issue.Restates (t : Table) (symbols : SymbolTable) (i : Instruction) (issue : Issue) : Prop :=
  ∃ failure fault, t.encodeInstruction i symbols = .error failure ∧ failure.fault? = some fault ∧
    fault.line = i.line ∧ issue.stage = .roundTrip ∧ issue.kind = some fault.kind ∧
    issue.line = fault.line ∧ issue.token = fault.token

namespace Table

variable {t : Table}

theorem restates_ofFailure {symbols : SymbolTable} {i : Instruction} {failure : Failure}
    (refused : t.refusal? symbols i = some failure) :
    Issue.Restates t symbols i (.ofFailure .roundTrip failure) := by
  have error := refusal?_eq_some_iff.mp refused
  obtain ⟨fault, outermost, line⟩ := encodeInstruction_line error
  refine ⟨failure, fault, error, outermost, line, ?_⟩
  rw [Issue.ofFailure, outermost]
  exact ⟨rfl, rfl, rfl, rfl⟩

theorem roundTripIssues_built (sound : t.Sound) (p : Program) :
    List.Forall₂ (Issue.Restates t p.symbols)
      (p.instructions.filter fun i => (t.refusal? p.symbols i).isSome) (t.roundTripIssues p) := by
  unfold roundTripIssues
  induction p.instructions with
  | nil => exact .nil
  | cons i rest ih =>
    rw [List.filter_cons, List.filterMap_cons, roundTripIssue?_built sound]
    cases refused : t.refusal? p.symbols i with
    | none => exact ih
    | some failure => exact .cons (restates_ofFailure refused) ih

theorem roundTripIssues_eq_nil (sound : t.Sound) {p : Program}
    (all : t.encodable p.symbols p.instructions = p.instructions.length) :
    t.roundTripIssues p = [] := by
  have none : (p.instructions.filter fun i => (t.refusal? p.symbols i).isSome) = [] := by
    rw [List.filter_eq_nil_iff]
    intro i member
    rw [List.findIdx_eq_length.mp all i member]
    exact Bool.false_ne_true
  have issues := roundTripIssues_built sound p
  rw [none] at issues
  exact List.forall₂_nil_left_iff.mp issues

theorem emitProgram_unlimited (t : Table) (p : Program) :
    let r := t.emitProgram p Sink.write {}
    let stop := t.encodable p.symbols p.instructions
    ∃ words, t.EncodesAll p.symbols (p.instructions.take stop) words ∧
      r.out.bytes = words.flatMap Word.bytes ∧ r.out.bytes.length = wordSize * stop ∧
      r.failure = p.instructions.findSome? (t.refusal? p.symbols) ∧
      (r.failure = none ↔ stop = p.instructions.length) := by
  obtain ⟨words, each, finished, -⟩ := t.emit_outcome p.symbols p.instructions {}
  have endless : ({} : Sink).Admits (t.encodable p.symbols p.instructions) := by simp [Sink.Admits]
  obtain ⟨accepted, failure⟩ := finished endless
  have count : words.length = t.encodable p.symbols p.instructions := by
    have same := each.length_eq
    rw [List.length_take, Nat.min_eq_left (t.encodable_le_length _ _)] at same
    exact same.symm
  have bytes : (t.emitProgram p Sink.write {}).out.bytes = words.flatMap Word.bytes := by
    rw [Sink.bytes, emitProgram, accepted, List.flatMap]
    rfl
  refine ⟨words, each, bytes, ?_, ?_, ?_⟩
  · rw [bytes, Word.length_flatMap_bytes, count]
  · rw [emitProgram, failure, findSome?_eq_getElem?_bind]
    rfl
  · rw [emitProgram, failure, refusal_encodable_eq_none_iff]

end Table

theorem Report.ok_iff {r : Report} (table : r.tableIssues = []) (word : r.wordIssues = []) :
    r.ok = true ↔ r.assembleFailure = none ∧ r.roundTripIssues = [] := by
  simp [Report.ok, Report.issues, table, word]

/-- For a table that was built, a source that can be read always has a report. Its issues are the
instructions without a word, in order, and it passes exactly if the source assembles. -/
theorem report_checks_assembly {d : Draft} {t : Table} (built : d.build = .ok t) (name text : Text) :
    let source : LineInput := .ofBytes plainLineLimit { bytes := text }
    ∃ report, Report.generate t name { bytes := text } = .ok report ∧
      report.tableIssues = [] ∧ report.wordIssues = [] ∧
      (∀ p, (scan source).result = .ok p →
        List.Forall₂ (Issue.Restates t p.symbols)
          (p.instructions.filter fun i => (t.refusal? p.symbols i).isSome) report.roundTripIssues ∧
        report.assembleFailure = p.instructions.findSome? (t.refusal? p.symbols) ∧
        report.bytes = wordSize * t.encodable p.symbols p.instructions) ∧
      (report.ok = true ↔ (t.assemble source Sink.write {}).failure = none) := by
  intro source
  have sound := Table.sound_of_build built
  have lint := Table.lint_built sound
  cases scanned : (scan source).result with
  | error failure =>
    refine ⟨{ isa := t.name, source := name, tableIssues := t.lint, assembleFailure := some failure },
      ?_, lint, rfl, ?_, ?_⟩
    · simp only [Report.generate, Table.checkRoundTrip]
      rw [scanned]
    · intro p impossible
      cases impossible
    · rw [Report.ok_iff lint rfl, Table.assemble, scanned]
      simp
  | ok p =>
    obtain ⟨words, each, bytes, length, failure, success⟩ := t.emitProgram_unlimited p
    have clean := Table.checkWords_encoded sound each
    rw [← bytes] at clean
    refine ⟨{ isa := t.name, source := name, tableIssues := t.lint
              instructions := p.instructions.length
              labels := p.labels.length
              bytes := (t.emitProgram p Sink.write {}).out.bytes.length
              roundTripIssues := t.roundTripIssues p
              assembleFailure := (t.emitProgram p Sink.write {}).failure }, ?_, lint, rfl, ?_, ?_⟩
    · simp only [Report.generate, Table.checkRoundTrip]
      rw [scanned]
      simp only [clean]
    · intro q same
      cases same
      refine ⟨Table.roundTripIssues_built sound p, failure, ?_⟩
      exact congrArg Int.ofNat length
    · rw [Report.ok_iff lint rfl, Table.assemble, scanned]
      -- Without a failure every instruction has a word, and then there is nothing to report.
      refine ⟨And.left, fun succeeded => ⟨succeeded, ?_⟩⟩
      exact Table.roundTripIssues_eq_nil sound (success.mp succeeded)

/-- Two instructions of four have no word, the second and the last: two issues, and one word. -/
theorem report_checks_assembly_two_refused :
    ∃ report, Report.generate Mu.table "two.s" { bytes := "NOP\nADD R0\nHALT\nBOGUS\n" } = .ok report ∧
      report.roundTripIssues.length = 2 ∧ report.bytes = 8 ∧ report.ok = false := by
  let source : LineInput := .ofBytes plainLineLimit { bytes := "NOP\nADD R0\nHALT\nBOGUS\n" }
  let p : Program :=
    { instructions :=
        [{ source := "NOP", line := 1, mnemonic := "NOP" },
          { source := "ADD R0", line := 2, address := 8, mnemonic := "ADD", operands := .ofList ["R0"] },
          { source := "HALT", line := 3, address := 16, mnemonic := "HALT" },
          { source := "BOGUS", line := 4, address := 24, mnemonic := "BOGUS" }] }
  have scanned : (scan source).result = .ok p := by decide +kernel
  have refused : (p.instructions.filter fun i => (Mu.table.refusal? p.symbols i).isSome).length = 2 := by
    decide +kernel
  have stop : Mu.table.encodable p.symbols p.instructions = 1 := by decide +kernel
  have failing : (Mu.table.assemble source Sink.write {}).failure.isSome := by decide +kernel
  obtain ⟨report, generated, -, -, outcome, passes⟩ :=
    report_checks_assembly Mu.build_draft "two.s" "NOP\nADD R0\nHALT\nBOGUS\n"
  obtain ⟨issues, -, bytes⟩ := outcome p scanned
  refine ⟨report, generated, ?_, ?_, ?_⟩
  · rw [← issues.length_eq, refused]
  · rw [bytes, stop]
    rfl
  · rw [← Bool.not_eq_true, passes]
    exact Option.isSome_iff_ne_none.mp failing

end TableAsm
