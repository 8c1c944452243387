import TableAsm.Proofs.Assembly.Scanning
import TableAsm.Proofs.Disassembly.Decoding
import TableAsm.Proofs.Stream.Scripts
import TableAsm.Proofs.Word.Streams

namespace TableAsm

/-- The run did not fail, and the chunks are all that its output has accepted. -/
def Run.Wrote (r : Run Sink) (chunks : List Text) : Prop :=
  r.failure = none ∧ r.out.accepted = chunks

theorem Run.Wrote.bytes {r : Run Sink} {words : List Word} (wrote : r.Wrote (words.map Word.bytes)) :
    r.out.bytes = words.flatMap Word.bytes := by
  rw [Sink.bytes, wrote.2, List.flatMap]

namespace Script

def Completes (s : Script) (chunks : List Text) : Prop := s.ending = none ∧ s.chunks = chunks

theorem not_completes {failure : Failure} {chunks : List Text} :
    ¬ Completes { ending := some failure } chunks :=
  fun completes => nomatch completes.1

theorem completes_following (d : Delivery) (s : Script) (chunks : List Text) :
    (s.following d).Completes chunks ↔ ∃ rest, s.Completes rest ∧ chunks = d.chunk :: rest := by
  constructor
  · rintro ⟨clean, rfl⟩
    exact ⟨s.chunks, ⟨clean, rfl⟩, rfl⟩
  · rintro ⟨_, ⟨clean, rfl⟩, rfl⟩
    exact ⟨clean, rfl⟩

end Script

namespace Table

variable {t : Table}

theorem emission_completes {symbols : SymbolTable} {instructions : List Instruction}
    {chunks : List Text} :
    (t.emission symbols instructions).Completes chunks ↔
      ∃ words, t.EncodesAll symbols instructions words ∧ chunks = words.map Word.bytes := by
  induction instructions generalizing chunks with
  | nil => simp [emission, EncodesAll, Script.Completes, Script.chunks, eq_comm]
  | cons i rest ih =>
    simp only [emission, EncodesAll, List.forall₂_cons_left_iff]
    cases t.encodeInstruction i symbols with
    | error failure => simp [Script.not_completes]
    | ok word =>
      simp only [Script.completes_following, ih]
      constructor
      · rintro ⟨_, ⟨words, encoded, rfl⟩, rfl⟩
        exact ⟨word :: words, ⟨word, words, rfl, encoded, rfl⟩, rfl⟩
      · rintro ⟨_, ⟨first, words, same, encoded, rfl⟩, rfl⟩
        cases same
        exact ⟨_, ⟨words, encoded, rfl⟩, rfl⟩

theorem assemble_unlimited {input : LineInput} {chunks : List Text} :
    (t.assemble input Sink.write {}).Wrote chunks ↔
      ∃ p words, (scan input).result = .ok p ∧ t.EncodesAll p.symbols p.instructions words ∧
        chunks = words.map Word.bytes := by
  obtain ⟨accepted, failure⟩ := t.assemble_unlimited_run input
  rw [Run.Wrote, accepted, failure, ← Script.Completes, assembly]
  cases (scan input).result with
  | error failure => simp [Script.not_completes]
  | ok p => simp only [emission_completes, Except.ok.injEq, exists_and_left, exists_eq_left']

theorem assemble_denotes {lines : List Text} {words : List Word}
    (denote : List.Forall₂ t.Denotes lines words) :
    (t.assemble { lines } Sink.write {}).Wrote (words.map Word.bytes) := by
  have aligned : (0 : UInt32).toNat % 8 = 0 := rfl
  obtain ⟨p, scanned, -, encoded⟩ := scanFrom_denotes denote 0 aligned []
  exact assemble_unlimited.mpr ⟨p, words, scanned, encoded.imp (fun _ _ each => each p.symbols), rfl⟩

theorem decoding_completes {left : Text} {failure? : Option ReadError} {offset : Nat} {words : List Word}
    {lines : List Text} :
    (t.decoding left failure? offset words).Completes lines ↔
      wordEnd left failure? = .finished ∧
        ∃ decoded, t.DecodesAll words decoded ∧ lines = decoded.map Decoded.text := by
  induction words generalizing offset lines with
  | nil =>
    rw [decoding, Script.Completes, streamEnd_eq_none_iff]
    apply and_congr_right
    intro _
    simp [DecodesAll, Script.chunks, eq_comm]
  | cons word rest ih =>
    simp only [decoding, DecodesAll, List.forall₂_cons_left_iff]
    cases t.decodeWord word with
    | error failure => simp [Script.not_completes]
    | ok d =>
      simp only [Script.completes_following, ih]
      constructor
      · rintro ⟨_, ⟨whole, decoded, each, rfl⟩, rfl⟩
        exact ⟨whole, d :: decoded, ⟨d, decoded, rfl, each, rfl⟩, rfl⟩
      · rintro ⟨whole, _, ⟨first, decoded, same, each, rfl⟩, rfl⟩
        cases same
        exact ⟨_, ⟨whole, decoded, each, rfl⟩, rfl⟩

theorem disassemble_unlimited {input : ByteInput} {lines : List Text}
    (honest : ∀ cause ∈ input.failure?, cause.isEnd = false) :
    (t.disassemble input Sink.write {}).Wrote lines ↔
      input.failure? = none ∧
        ∃ words decoded, input.bytes = words.flatMap Word.bytes ∧ t.DecodesAll words decoded ∧
          lines = decoded.map Decoded.text := by
  obtain ⟨accepted, failure⟩ := t.disassemble_unlimited_run input
  rw [Run.Wrote, accepted, failure, ← Script.Completes, disassembly, decoding_completes,
    wordEnd_eq_finished_iff]
  constructor
  · rintro ⟨⟨whole, intact⟩ | ⟨cause, given, counts⟩, decoded, each, rfl⟩
    case inr => exact absurd counts (by simp [honest cause given])
    refine ⟨intact, _, decoded, ?_, each, rfl⟩
    have stream := frames_spec input.bytes
    rwa [whole, List.append_nil] at stream
  · rintro ⟨intact, words, decoded, stream, each, rfl⟩
    rw [stream, frames_words]
    exact ⟨.inl ⟨rfl, intact⟩, decoded, each, rfl⟩

end Table

end TableAsm
