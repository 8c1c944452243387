import TableAsm.Proofs.Source.Layouts
import TableAsm.Proofs.Stream.LineLimits
import TableAsm.Proofs.Verify.Reports

/-!
Two ways to a source. The buffered assembler reads lines through a larger buffer than a report does.
Where every line fits in the smaller one, a report passes exactly if the buffered assembler succeeds.
A longer line that the assembler takes ends the reading of the report, which then fails for a source
that assembles.
-/
namespace TableAsm

namespace Table

variable {t : Table} {text : Text}

theorem assembleBuffered_failure (t : Table) (input : ByteInput) :
    (t.assembleBuffered input {}).failure = (t.assembly (.ofBytes bufferedLineLimit input)).ending := by
  have fresh : ({} : Sink).bytes = [] := rfl
  have kept := (t.assembly (.ofBytes bufferedLineLimit input)).keeps fresh
  have endless : ({} : Sink).Stores (t.assembly (.ofBytes bufferedLineLimit input)).bytes := by
    simp [Sink.Stores]
  rw [assembleBuffered, assemble_eq_run]
  exact (kept.stored endless).2

theorem assembly_ending_eq_none {input : LineInput} (finished : (t.assembly input).ending = none) :
    ∃ p, (scan input).result = .ok p := by
  unfold assembly at finished
  cases scanned : (scan input).result with
  | error failure => simp [scanned] at finished
  | ok p => exact ⟨p, rfl⟩

theorem short_of_finished {limit : Nat}
    (finished : (t.assembly (.ofBytes limit { bytes := text })).ending = none) :
    ∀ line ∈ rawLines text, line.length < limit := by
  obtain ⟨p, scanned⟩ := assembly_ending_eq_none finished
  have read := scanFrom_read scanned
  by_contra long
  push Not at long
  rw [LineInput.ofBytes_long { bytes := text } long] at read
  cases read

theorem assembly_cut {limit wider : Nat}
    (finished : (t.assembly (.ofBytes wider { bytes := text })).ending = none)
    (long : ∃ line ∈ rawLines text, limit ≤ line.length) :
    (t.assembly (.ofBytes limit { bytes := text })).ending =
      some (readFailure lineTooLong (LineInput.fitting limit text).length) := by
  obtain ⟨p, scanned⟩ := assembly_ending_eq_none finished
  have short := short_of_finished finished
  rw [LineInput.ofBytes_short { bytes := text } short] at scanned
  obtain ⟨back, whole⟩ : LineInput.fitting limit text <+: rawLines text := List.takeWhile_prefix _
  simp only [scan, ← whole, List.map_append] at scanned
  have cut := scanFrom_front scanned rfl lineTooLong
  rw [Nat.zero_add, List.length_map] at cut
  rw [LineInput.ofBytes_long { bytes := text } long, assembly]
  simp only [scan, cut]

end Table

theorem Report.generate_built {t : Table} (sound : t.Sound) (name text : Text) :
    let ending := (t.assembly (.ofBytes plainLineLimit { bytes := text })).ending
    ∃ report, Report.generate t name { bytes := text } = .ok report ∧
      report.assembleFailure = ending ∧ (report.ok = true ↔ ending = none) := by
  have lint := Table.lint_built sound
  simp only [Report.generate, Table.checkRoundTrip, Table.assembly]
  cases scanned : (scan (.ofBytes plainLineLimit { bytes := text })).result with
  | error failure =>
    refine ⟨_, rfl, rfl, ?_⟩
    rw [Report.ok_iff lint rfl]
    simp
  | ok p =>
    obtain ⟨words, each, bytes, -, failure, success⟩ := t.emitProgram_unlimited p
    have clean := Table.checkWords_encoded sound each
    rw [← bytes] at clean
    simp only [clean]
    rw [Table.emission_ending, ← failure]
    refine ⟨_, rfl, rfl, ?_⟩
    rw [Report.ok_iff lint rfl]
    refine ⟨And.left, fun succeeded => ⟨succeeded, ?_⟩⟩
    exact Table.roundTripIssues_eq_nil sound (success.mp succeeded)

/-- For a table that was built, a report passes exactly if the buffered assembler succeeds and every
line fits in the buffer that the report is read through. If the assembler succeeds on a longer line,
the report fails because it could not read on after the lines before it. -/
theorem report_passes_iff {d : Draft} {t : Table} (built : d.build = .ok t) (name text : Text) :
    let driver := t.assembleBuffered { bytes := text } {}
    ∃ report, Report.generate t name { bytes := text } = .ok report ∧
      (report.ok = true ↔
        driver.failure = none ∧ ∀ line ∈ rawLines text, line.length < plainLineLimit) ∧
      (driver.failure = none → (∃ line ∈ rawLines text, plainLineLimit ≤ line.length) →
        report.assembleFailure =
          some (readFailure lineTooLong (LineInput.fitting plainLineLimit text).length)) := by
  intro driver
  have failure : driver.failure = _ := t.assembleBuffered_failure { bytes := text }
  obtain ⟨report, generated, same, passes⟩ :=
    Report.generate_built (Table.sound_of_build built) name text
  rw [failure]
  refine ⟨report, generated, ?_, ?_⟩
  · rw [passes]
    have larger : plainLineLimit ≤ bufferedLineLimit := by decide
    constructor
    · intro finished
      have short := Table.short_of_finished finished
      rw [LineInput.ofBytes_wider { bytes := text } larger short] at finished
      exact ⟨finished, short⟩
    · intro ⟨finished, short⟩
      rw [LineInput.ofBytes_wider { bytes := text } larger short]
      exact finished
  · intro finished long
    rw [same]
    exact Table.assembly_cut finished long

/-- A source with short lines that assembles. -/
theorem report_passes_iff_loop :
    ∃ report, Report.generate Mu.table "loop.s" { bytes := "@top\nJ @top ; again\n" } = .ok report ∧
      report.ok = true := by
  obtain ⟨report, generated, passes, -⟩ :=
    report_passes_iff Mu.build_draft "loop.s" "@top\nJ @top ; again\n"
  refine ⟨report, generated, passes.mpr ⟨?_, ?_⟩⟩
  · decide +kernel
  · decide +kernel

def longComment : Text := List.replicate plainLineLimit commentMark

theorem longComment_blank : BlankLine longComment := by
  have nothing : beforeComment longComment = [] := by
    rw [beforeComment, longComment, List.takeWhile_replicate]
    rfl
  intro r member
  rw [nothing] at member
  cases member

theorem dropCarriageReturn_longComment : longComment.dropCarriageReturn = longComment := by
  rw [Text.dropCarriageReturn, longComment, List.getLast?_replicate, if_neg]
  decide

/-- A comment as long as the smaller buffer in front of an instruction: the source assembles and its
report fails. -/
theorem report_fails_long_comment :
    let text : Text := longComment ++ Text.newline :: "NOP\n"
    (Mu.table.assembleBuffered { bytes := text } {}).failure = none ∧
      ∃ report, Report.generate Mu.table "long.s" { bytes := text } = .ok report ∧
        report.ok = false := by
  intro text
  have plain : Text.newline ∉ longComment := by
    intro member
    have same := List.eq_of_mem_replicate member
    cases same
  have lines : rawLines text = [longComment, "NOP"] := by
    rw [show text = longComment ++ Text.newline :: "NOP\n" from rfl, rawLines_line plain]
    rfl
  have length : longComment.length = plainLineLimit := List.length_replicate
  have short : ∀ line ∈ rawLines text, line.length < bufferedLineLimit := by
    rw [lines, List.forall_mem_cons, length]
    decide
  have finished : (Mu.table.assembly (.ofBytes bufferedLineLimit { bytes := text })).ending = none := by
    rw [LineInput.ofBytes_short { bytes := text } short, lines, List.map_cons,
      dropCarriageReturn_longComment, Table.assembly, scan, scanFrom]
    simp only [longComment_blank.parsed]
    decide +kernel
  refine ⟨(Mu.table.assembleBuffered_failure { bytes := text }).trans finished, ?_⟩
  obtain ⟨report, generated, -, passes⟩ :=
    Report.generate_built (Table.sound_of_build Mu.build_draft) "long.s" text
  refine ⟨report, generated, ?_⟩
  rw [← Bool.not_eq_true, passes, Table.assembly_cut finished ⟨longComment, by simp [lines], length.ge⟩]
  exact Option.some_ne_none _

end TableAsm
