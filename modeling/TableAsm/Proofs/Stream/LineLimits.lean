import TableAsm.Proofs.Assembly.Outcomes
import TableAsm.Proofs.Assembly.Places
import TableAsm.Proofs.Stream.Buffers
import TableAsm.Proofs.Stream.SourceLines
import TableAsm.Proofs.Text.Numerals

namespace TableAsm

theorem readFailure_inj {words words' : Text} {count count' : Nat} :
    readFailure words count = readFailure words' count' ↔ words = words' ∧ count = count' := by
  constructor
  · intro same
    have root : Root.message words = Root.message words' := congrArg Failure.root same
    cases root
    have links := congrArg Failure.links same
    simp only [readFailure, Failure.inContext, Failure.within, List.cons.injEq, Link.context.injEq,
      and_true, List.append_cancel_right_eq, List.append_cancel_left_eq] at links
    exact ⟨rfl, Text.decimal_injective links⟩
  · rintro ⟨rfl, rfl⟩
    rfl

theorem readFailure_ne_of_fault {failure : Failure} {fault : Fault} (found : failure.fault? = some fault)
    (words : Text) (count : Nat) : failure ≠ readFailure words count := by
  rintro rfl
  cases found

theorem scan_unread_iff {input : LineInput} {words : Text} {count : Nat} :
    (scan input).result = .error (readFailure words count) ↔
      input.failure? = some words ∧ input.lines.length = count ∧ Faultless input.lines := by
  obtain ⟨lines, failure?⟩ := input
  rcases faultless_or_first lines with faultless | ⟨front, raw, back, kind, rfl, faultless, fault⟩
  · rw [scan_faultless faultless]
    cases failure? with
    | none => simp
    | some message => simp [readFailure_inj, faultless]
  · obtain ⟨failure, stopped, cause, states, -⟩ := scan_fault faultless fault back failure?
    have differ := readFailure_ne_of_fault states.fault? words count
    have here := faultAt?_here front raw back
    rw [stopped]
    refine iff_of_false (fun same => differ (Except.error.inj same)) ?_
    rintro ⟨-, -, clean⟩
    rw [clean front.length, fault] at here
    cases here

theorem Script.flushed_failure (s : Script) {sink : Sink} {failure : Failure} :
    let r := s.run Buffered.write { sink }
    r.flushed.failure = some failure → r.failure = some failure ∨ failure = .ofMessage sink.refusal := by
  intro r failed
  obtain ⟨took, -, -⟩ := s.run_buffered (.inl ⟨0, Buffered.flowing_fresh sink⟩) rfl
  obtain ⟨-, -, cause⟩ := took.flush
  have joined : r.flushed.failure = r.failure.or r.out.flush.failure := Option.orElse_eq_or
  rw [joined, Option.or_eq_some_iff] at failed
  rcases failed with own | ⟨-, flushed⟩
  · exact .inl own
  · exact .inr (cause failure flushed)

namespace Table

variable {t : Table}

theorem emission_failure {σ : Type} {symbols : SymbolTable} {instructions : List Instruction}
    {write : σ → Text → σ × Option Failure} {out : σ} {failure : Failure}
    (failed : ((t.emission symbols instructions).run write out).failure = some failure) :
    (∃ fault, failure.fault? = some fault) ∨
      ∃ (cause : Failure) (i : Instruction), failure = cause.inContext (wordAccount i) := by
  induction instructions generalizing out with
  | nil => cases failed
  | cons i rest ih =>
    rw [emission] at failed
    cases encoded : t.encodeInstruction i symbols with
    | error refusal =>
      rw [encoded] at failed
      cases failed
      obtain ⟨fault, found, -⟩ := encodeInstruction_line encoded
      exact .inl ⟨fault, found⟩
    | ok word =>
      simp only [encoded, Script.run_following] at failed
      split at failed
      · cases failed
        exact .inr ⟨_, i, rfl⟩
      · exact ih failed

theorem inContext_ne_readFailure (cause : Failure) (i : Instruction) (words : Text) (count : Nat) :
    cause.inContext (wordAccount i) ≠ readFailure words count := by
  intro same
  have links := congrArg Failure.links same
  simp only [readFailure, Failure.inContext, Failure.within, List.cons.injEq, Link.context.injEq] at links
  have head := congrArg List.head? links.1
  cases head

theorem assembleBuffered_unread_iff {input : ByteInput} {sink : Sink} {words : Text} {count : Nat} :
    (t.assembleBuffered input sink).failure = some (readFailure words count) ↔
      (scan (.ofBytes bufferedLineLimit input)).result = .error (readFailure words count) := by
  rw [assembleBuffered, assemble_eq_run, assembly]
  cases (scan (.ofBytes bufferedLineLimit input)).result with
  | error failure => simp [Script.run, Script.deliver, Run.flushed]
  | ok p =>
    refine iff_of_false ?_ (by simp)
    intro failed
    rcases (t.emission p.symbols p.instructions).flushed_failure failed with own | flushed
    · rcases emission_failure own with ⟨fault, found⟩ | ⟨cause, i, same⟩
      · exact readFailure_ne_of_fault found words count rfl
      · exact inContext_ne_readFailure cause i words count same.symm
    · have links := congrArg Failure.links flushed
      cases links

theorem assembleBuffered_long_iff {text : Text} {sink : Sink} {count : Nat}
    (long : ∃ line ∈ rawLines text, bufferedLineLimit ≤ line.length) :
    (t.assembleBuffered { bytes := text } sink).failure = some (readFailure lineTooLong count) ↔
      let front := LineInput.fitting bufferedLineLimit text
      front.length = count ∧ Faultless (front.map Text.dropCarriageReturn) := by
  rw [assembleBuffered_unread_iff, scan_unread_iff, LineInput.ofBytes_long { bytes := text } long]
  simp only [true_and, List.length_map]

theorem assembleBuffered_short {text : Text} (sink : Sink) (count : Nat)
    (short : ∀ line ∈ rawLines text, line.length < bufferedLineLimit) :
    (t.assembleBuffered { bytes := text } sink).failure ≠ some (readFailure lineTooLong count) := by
  rw [Ne, assembleBuffered_unread_iff, scan_unread_iff, LineInput.ofBytes_short { bytes := text } short]
  rintro ⟨unread, -⟩
  cases unread

/-- A source fails for a line that is too long, with the number of lines before it, exactly if there is
a line as long as the reader's buffer or longer, every line before it is shorter, and none of them has a
fault. So the longest line that is read is one byte shorter than the buffer. -/
theorem too_long_iff (t : Table) (text : Text) (sink : Sink) (count : Nat) :
    (t.assembleBuffered { bytes := text } sink).failure = some (readFailure lineTooLong count) ↔
      ∃ front line back, Lines text (front ++ line :: back) ∧ front.length = count ∧
        (∀ earlier ∈ front, earlier.length < bufferedLineLimit) ∧ bufferedLineLimit ≤ line.length ∧
        Faultless (front.map Text.dropCarriageReturn) := by
  simp only [lines_iff]
  by_cases long : ∃ line ∈ rawLines text, bufferedLineLimit ≤ line.length
  · rw [assembleBuffered_long_iff long]
    constructor
    · rintro ⟨counted, faultless⟩
      obtain ⟨line, back, whole, short, beyond⟩ := (LineInput.fitting_iff long).mp rfl
      exact ⟨_, line, back, whole, counted, short, beyond, faultless⟩
    · rintro ⟨front, line, back, whole, counted, short, beyond, faultless⟩
      rw [(LineInput.fitting_iff long).mpr ⟨line, back, whole, short, beyond⟩]
      exact ⟨counted, faultless⟩
  · have short : ∀ line ∈ rawLines text, line.length < bufferedLineLimit := by
      push Not at long
      exact long
    refine iff_of_false (assembleBuffered_short sink count short) ?_
    rintro ⟨front, line, back, whole, -, -, beyond, -⟩
    exact long ⟨line, by simp [whole], beyond⟩

/-- A comment as long as the buffer is refused, although no line is longer. -/
theorem comment_at_limit_refused :
    let comment : Text := List.replicate bufferedLineLimit commentMark
    let text : Text := comment ++ Text.newline :: "NOP\n"
    Lines text [comment, "NOP"] ∧ (∀ line ∈ [comment, "NOP"], line.length ≤ bufferedLineLimit) ∧
      (Mu.table.assembleBuffered { bytes := text } {}).failure = some (readFailure lineTooLong 0) := by
  intro comment text
  have length : comment.length = bufferedLineLimit := List.length_replicate
  have plain : Text.newline ∉ comment := by
    intro member
    have same := List.eq_of_mem_replicate member
    cases same
  have lines : rawLines text = [comment, "NOP"] := by
    rw [show text = comment ++ Text.newline :: "NOP\n" from rfl, rawLines_line plain]
    rfl
  have long : ∃ line ∈ rawLines text, bufferedLineLimit ≤ line.length :=
    ⟨comment, by simp [lines], length.ge⟩
  have nothing : LineInput.fitting bufferedLineLimit text = [] :=
    (LineInput.fitting_iff long).mpr ⟨comment, ["NOP"], lines, nofun, length.ge⟩
  refine ⟨lines_iff.mpr lines, ?_, ?_⟩
  · rw [List.forall_mem_cons, length]
    decide
  · rw [assembleBuffered_long_iff long, nothing]
    exact ⟨rfl, fun n => faultAt?_outside n.zero_le⟩

end Table

end TableAsm
