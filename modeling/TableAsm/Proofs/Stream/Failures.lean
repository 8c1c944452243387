import TableAsm.Proofs.Assembly.Outcomes
import TableAsm.Proofs.Disassembly.Decoding
import TableAsm.Proofs.Source.ReadableTables
import TableAsm.Proofs.Word.Streams

namespace TableAsm

/-- The failure is the output's refusal of some chunk. -/
def RefusedBy {σ : Type} (write : σ → Text → σ × Option Failure) (failure : Failure) : Prop :=
  ∃ out chunk cause account, (write out chunk).2 = some cause ∧ failure = cause.inContext account

theorem Script.run_failure {σ : Type} (s : Script) (write : σ → Text → σ × Option Failure) (out : σ)
    {failure : Failure} (failed : (s.run write out).failure = some failure) :
    s.ending = some failure ∨ RefusedBy write failure := by
  obtain ⟨deliveries, ending⟩ := s
  simp only [run] at failed ⊢
  induction deliveries generalizing out with
  | nil => exact .inl failed
  | cons d rest ih =>
    rw [deliver] at failed
    cases written : write out d.chunk with
    | mk next cause? =>
      rw [written] at failed
      cases cause? with
      | none => exact ih next failed
      | some cause =>
        cases failed
        exact .inr ⟨out, d.chunk, cause, d.account, by rw [written], rfl⟩

/-- The kinds of fault that a stream of words can have. -/
def streamKinds : List Kind := [.unknownEncoding, .truncatedStream]

def Failure.OfStream (e : Failure) (offset : Int) : Prop :=
  ∃ f, e.States f ∧ f.kind ∈ streamKinds ∧ f.offset = offset

theorem Failure.States.ofStream {e : Failure} {f : Fault} (states : e.States f)
    (kind : f.kind ∈ streamKinds) (unset : f.offset = -1) (offset : Int) :
    (e.atOffset offset).OfStream offset := by
  refine ⟨f.atOffset offset, states.atOffset offset, ?_, ?_⟩
  · rw [Fault.kind_atOffset]
    exact kind
  · rw [Fault.atOffset, if_pos (by omega)]

theorem truncatedWord_ofStream (count : Nat) (offset : Int) :
    ((truncatedWord count).atOffset offset).OfStream offset := by
  unfold truncatedWord
  exact Failure.States.ofStream ⟨rfl, by simp⟩ (by simp [streamKinds]) rfl offset

namespace Table

variable {t : Table}

theorem UnknownWord.ofStream {failure : Failure} (unknown : UnknownWord failure) (offset : Int) :
    (failure.atOffset offset).OfStream offset := by
  obtain ⟨f, states, kind, unset⟩ := unknown
  exact states.ofStream (by simp [streamKinds, kind]) unset offset

/-- A stream ends because it cannot be read on, or for a fault at the offset of one of its words or
behind the last of them. -/
theorem decoding_ending (sound : t.Sound) {left : Text} {failure? : Option ReadError} {offset : Nat}
    {words : List Word} {failure : Failure}
    (ended : (t.decoding left failure? offset words).ending = some failure) :
    (∃ message, wordEnd left failure? = .unread message ∧
        failure = atWord "reading" (offset + wordSize * words.length) (.ofMessage message)) ∨
      ∃ n ≤ words.length, failure.OfStream ((offset + wordSize * n : Nat) : Int) := by
  induction words generalizing offset with
  | nil =>
    simp only [decoding, streamEnd] at ended
    split at ended
    · cases ended
    · rename_i count _
      cases ended
      exact .inr ⟨0, Nat.le_refl 0, truncatedWord_ofStream count offset⟩
    · rename_i message stopped
      cases ended
      exact .inl ⟨message, stopped, rfl⟩
  | cons word rest ih =>
    have next (n : Nat) : offset + wordSize + wordSize * n = offset + wordSize * (n + 1) := by
      rw [Nat.mul_add]
      omega
    rw [decoding] at ended
    rcases decodeWord_cases sound word with ⟨⟨decoded, ok⟩, -⟩ | ⟨⟨cause, refused, unknown⟩, -⟩
    · rw [ok] at ended
      rcases ih ended with ⟨message, given, same⟩ | ⟨n, inside, fault⟩
      · rw [next] at same
        exact .inl ⟨message, given, same⟩
      · rw [next] at fault
        exact .inr ⟨n + 1, Nat.succ_le_succ inside, fault⟩
    · rw [refused] at ended
      cases ended
      exact .inr ⟨0, Nat.zero_le _, unknown.ofStream offset⟩

theorem emission_ofSource (sound : t.Sound) {symbols : SymbolTable} {instructions : List Instruction}
    {failure : Failure} (ended : (t.emission symbols instructions).ending = some failure) :
    ∃ i ∈ instructions, failure.OfSource i.line := by
  rw [emission_ending] at ended
  obtain ⟨i, member, refused⟩ := List.exists_of_findSome?_eq_some ended
  exact ⟨i, member, encodeInstruction_ofSource sound (refusal?_eq_some_iff.mp refused)⟩

theorem assembly_ending (sound : t.Sound) {input : LineInput} {failure : Failure}
    (ended : (t.assembly input).ending = some failure) :
    (∃ words, input.failure? = some words ∧ failure = readFailure words input.lines.length) ∨
      ∃ n < input.lines.length, failure.OfSource ((n : Int) + 1) := by
  unfold assembly at ended
  cases scanned : (scan input).result with
  | error cause =>
    rw [scanned] at ended
    cases ended
    simpa using scanFrom_eq_error scanned
  | ok p =>
    rw [scanned] at ended
    obtain ⟨i, member, fault⟩ := emission_ofSource sound ended
    obtain ⟨n, raw, found, -, line⟩ := scanFrom_lines scanned i member
    obtain ⟨inside, -⟩ := List.getElem?_eq_some_iff.mp found
    have number : i.line = (n : Int) + 1 := by omega
    rw [number] at fault
    exact .inr ⟨n, inside, fault⟩

end Table

/-- What can go wrong with a table that was built. Assembly fails because its input cannot be read or
its output refuses a word, or for a fault of the source, on one of its lines; disassembly fails because
its input cannot be read or its output refuses a line, or for a fault of the stream, at a whole number
of words. No fault is about the table, and none was put around another error. A word does not decode
exactly if no format has its key or a register slot that its mask names has no register. -/
theorem Table.failures_of_built {d : Draft} {t : Table} (built : d.build = .ok t) :
    (∀ (input : LineInput) {σ : Type} (write : σ → Text → σ × Option Failure) (out : σ) (e : Failure),
      (t.assemble input write out).failure = some e →
        (∃ words, input.failure? = some words ∧ e = readFailure words input.lines.length) ∨
        RefusedBy write e ∨
        ∃ f, e.States f ∧ f.kind ∈ sourceKinds ∧ 1 ≤ f.line ∧ f.line ≤ input.lines.length) ∧
      (∀ (input : ByteInput) {σ : Type} (write : σ → Text → σ × Option Failure) (out : σ) (e : Failure),
        (t.disassemble input write out).failure = some e →
          (∃ cause, input.failure? = some cause ∧ cause.isEnd = false ∧ cause.isUnexpectedEnd = false ∧
            e = atWord "reading" (wordSize * (input.bytes.length / wordSize)) (.ofMessage cause.message)) ∨
          RefusedBy write e ∨
          ∃ f, e.States f ∧ f.kind ∈ streamKinds ∧ (wordSize : Int) ∣ f.offset ∧ 0 ≤ f.offset ∧
            f.offset ≤ input.bytes.length) ∧
      ∀ word, (∃ e, t.decodeWord word = .error e) ↔ t.Undecodable word := by
  have sound := sound_of_build built
  refine ⟨?_, ?_, ?_⟩
  · intro input σ write out e failed
    rw [assemble_eq_run] at failed
    rcases Script.run_failure _ write out failed with ended | refused
    · rcases assembly_ending sound ended with unread | ⟨n, inside, f, states, kind, line⟩
      · exact .inl unread
      · exact .inr (.inr ⟨f, states, kind, by omega, by omega⟩)
    · exact .inr (.inl refused)
  · intro input σ write out e failed
    rw [disassemble_eq_run] at failed
    rcases Script.run_failure _ write out failed with ended | refused
    · rcases decoding_ending sound ended with ⟨words, stopped, same⟩ | ⟨n, inside, f, states, kind, offset⟩
      · obtain ⟨cause, given, other, late, rfl⟩ := wordEnd_eq_unread_iff.mp stopped
        rw [length_frames_words, Nat.zero_add] at same
        exact .inl ⟨cause, given, other, late, same⟩
      · rw [length_frames_words] at inside
        have bound := Nat.div_mul_le_self input.bytes.length wordSize
        have covered : wordSize * n ≤ input.bytes.length := by
          rw [Nat.mul_comm]
          exact (Nat.mul_le_mul_right wordSize inside).trans bound
        rw [Nat.zero_add] at offset
        refine .inr (.inr ⟨f, states, kind, ?_, by omega, by omega⟩)
        exact ⟨n, by rw [offset, Int.natCast_mul]⟩
    · exact .inr (.inl refused)
  · intro word
    rcases decodeWord_cases sound word with ⟨⟨decoded, ok⟩, fine⟩ | ⟨⟨e, refused, -⟩, bad⟩
    · rw [ok]
      simpa using fine
    · exact iff_of_true ⟨e, refused⟩ bad

/-- An output that takes everything: a label where a register is needed, and a word of an unknown
encoding with three bytes behind it. -/
theorem Table.failures_of_built_mu :
    let take : Unit → Text → Unit × Option Failure := fun _ _ => ((), none)
    let lines : LineInput := { lines := ["@top", "", "JR @top"] }
    let stream : ByteInput := { bytes := List.replicate 11 0xff }
    (∃ e f, (Mu.table.assemble lines take ()).failure = some e ∧ e.States f ∧ f.kind ∈ sourceKinds ∧
        1 ≤ f.line ∧ f.line ≤ 3) ∧
      (∃ e f, (Mu.table.disassemble stream take ()).failure = some e ∧ e.States f ∧
        f.kind ∈ streamKinds ∧ (8 : Int) ∣ f.offset ∧ 0 ≤ f.offset ∧ f.offset ≤ 11) ∧
      Mu.table.Undecodable (Word.ofBytes stream.bytes) := by
  intro take lines stream
  have taken (e : Failure) : ¬ RefusedBy take e := by
    rintro ⟨out, chunk, cause, account, refused, -⟩
    cases refused
  obtain ⟨assembly, disassembly, decoding⟩ := failures_of_built Mu.build_draft
  refine ⟨?_, ?_, ?_⟩
  · have fails : (Mu.table.assemble lines take ()).failure.isSome := by decide +kernel
    obtain ⟨e, failed⟩ := Option.isSome_iff_exists.mp fails
    rcases assembly lines take () e failed with ⟨words, given, -⟩ | refused | ⟨f, fault⟩
    · cases given
    · exact absurd refused (taken e)
    · exact ⟨e, f, failed, fault⟩
  · have fails : (Mu.table.disassemble stream take ()).failure.isSome := by decide +kernel
    obtain ⟨e, failed⟩ := Option.isSome_iff_exists.mp fails
    rcases disassembly stream take () e failed with ⟨words, given, -⟩ | refused | ⟨f, fault⟩
    · cases given
    · exact absurd refused (taken e)
    · exact ⟨e, f, failed, fault⟩
  · rw [← decoding]
    cases decoded : Mu.table.decodeWord (Word.ofBytes stream.bytes) with
    | error e => exact ⟨e, rfl⟩
    | ok word =>
      have fails : (Mu.table.decodeWord (Word.ofBytes stream.bytes)).toOption = none := by decide +kernel
      rw [decoded] at fails
      cases fails

end TableAsm
