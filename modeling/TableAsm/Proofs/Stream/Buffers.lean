import TableAsm.Isa.Mu
import TableAsm.Proofs.Stream.Scripts
import TableAsm.Proofs.Stream.SourceLines

/-!
Buffered runs. A buffer hands its bytes on in full chunks and keeps the last one, full or not, until
it is flushed. So after any bytes either all chunks but the last are in the sink and the last one
waits, or a chunk was refused and nothing more gets through; either way the sink has the first bytes
and no others, and only a run whose every chunk was taken reports success.
-/
namespace TableAsm

namespace Sink

def Stores (s : Sink) (bytes : Text) : Prop := ∀ n ∈ s.budget, bytes.length ≤ bufferSize * n

def Passes (s : Sink) (bytes : Text) : Prop := ∀ n ∈ s.budget, bytes.length ≤ bufferSize * (n + 1)

def share (s : Sink) (bytes : Text) : Text :=
  match s.budget with
  | none => bytes
  | some n => bytes.take (bufferSize * n)

theorem share_within (s : Sink) (bytes : Text) : s.share bytes <+: bytes := by
  unfold share
  split
  · exact List.prefix_rfl
  · exact List.take_prefix _ _

theorem Stores.share_eq {s : Sink} {bytes : Text} (stores : s.Stores bytes) :
    s.share bytes = bytes := by
  unfold share
  split
  · rfl
  · rename_i n budget
    exact List.take_of_length_le (stores n budget)

theorem share_of_budget {s : Sink} {n : Nat} (budget : s.budget = some n) (bytes : Text) :
    s.share bytes = bytes.take (bufferSize * n) := by
  rw [share, budget]

theorem not_stores {s : Sink} {n : Nat} {bytes : Text} (budget : s.budget = some n)
    (beyond : bufferSize * n < bytes.length) : ¬ s.Stores bytes := by
  intro stores
  have fits := stores n budget
  omega

theorem Stores.passes {s : Sink} {bytes : Text} (stores : s.Stores bytes) : s.Passes bytes := by
  intro n budget
  have fits := stores n budget
  rw [Nat.mul_succ]
  omega

theorem Admits.stores {s : Sink} {count : Nat} {bytes : Text} (admits : s.Admits count)
    (short : bytes.length ≤ bufferSize * count) : s.Stores bytes := by
  intro n budget
  exact Nat.le_trans short (Nat.mul_le_mul_left bufferSize (admits n budget))

theorem Admits.next_or_spent {s : Sink} {count : Nat} (admits : s.Admits count) :
    s.Admits (count + 1) ∨ s.budget = some count := by
  cases budget : s.budget with
  | none => exact .inl (by simp [Admits, budget])
  | some n =>
    have enough := admits n budget
    rcases Nat.lt_or_eq_of_le enough with more | rfl
    · left
      intro left member
      rw [budget, Option.mem_some_iff] at member
      omega
    · exact .inr rfl

/-- The sink after so many writes of the given bytes. -/
structure Sent (start : Sink) (count : Nat) (bytes : Text) (s : Sink) : Prop where
  refusal : s.refusal = start.refusal
  budget : s.budget = start.budget.map (· - count)
  admits : start.Admits count
  bytes : s.bytes = start.bytes ++ bytes

theorem sent_nothing (s : Sink) : s.Sent 0 [] s := by
  refine ⟨rfl, ?_, fun _ _ => Nat.zero_le _, (List.append_nil _).symm⟩
  cases s.budget <;> rfl

section

variable {start s : Sink} {count : Nat} {bytes : Text}

theorem Sent.write_accepted (sent : start.Sent count bytes s) (more : start.Admits (count + 1))
    (chunk : Text) :
    s.write chunk = (s.taking chunk, none) ∧ start.Sent (count + 1) (bytes ++ chunk) (s.taking chunk) := by
  have unspent : s.budget ≠ some 0 := by
    rw [sent.budget]
    intro spent
    obtain ⟨n, budget, zero⟩ := Option.map_eq_some_iff.mp spent
    have enough := more n budget
    omega
  refine ⟨Sink.write_accepted unspent chunk, sent.refusal, ?_, more, ?_⟩
  · rw [taking, sent.budget, Option.map_map]
    rfl
  · rw [Sink.bytes, accepted_taking, List.flatten_append, ← Sink.bytes, sent.bytes]
    simp

theorem Sent.write_refused (sent : start.Sent count bytes s) (spent : start.budget = some count)
    (chunk : Text) : s.write chunk = (s, some (.ofMessage start.refusal)) := by
  have empty : s.budget = some 0 := by
    rw [sent.budget, spent, Option.map_some, Nat.sub_self]
  rw [Sink.write_refused empty, sent.refusal]

end

end Sink

namespace Buffered

/-- No chunk was refused: the full ones are in the sink, the last one waits. -/
structure Flowing (start : Sink) (taken : Text) (full : Nat) (b : Buffered) : Prop where
  intact : b.failure = none
  sent : start.Sent full (taken.take (bufferSize * full)) b.sink
  held : b.pending.reverse = taken.drop (bufferSize * full)
  counted : b.waiting = taken.length - bufferSize * full
  begun : full = 0 ∨ bufferSize * full < taken.length
  room : taken.length ≤ bufferSize * (full + 1)

/-- The chunk after the first `n` was refused, and more bytes came after it. -/
structure Stuck (start : Sink) (taken : Text) (n : Nat) (b : Buffered) : Prop where
  failure : b.failure = some (.ofMessage start.refusal)
  budget : start.budget = some n
  bytes : b.sink.bytes = start.bytes ++ taken.take (bufferSize * n)
  beyond : bufferSize * (n + 1) < taken.length

def Took (start : Sink) (taken : Text) (b : Buffered) : Prop :=
  (∃ full, b.Flowing start taken full) ∨ ∃ n, b.Stuck start taken n

variable {start : Sink} {taken : Text} {full n : Nat} {b : Buffered}

theorem flowing_fresh (sink : Sink) : Flowing sink [] 0 { sink } := by
  refine ⟨rfl, ?_, rfl, rfl, .inl rfl, Nat.zero_le _⟩
  rw [List.take_nil]
  exact sink.sent_nothing

namespace Flowing

theorem full_le (flowing : b.Flowing start taken full) : bufferSize * full ≤ taken.length := by
  rcases flowing.begun with rfl | begun
  · exact Nat.zero_le _
  · exact Nat.le_of_lt begun

theorem full_lt (flowing : b.Flowing start taken full) (some : taken ≠ []) :
    bufferSize * full < taken.length := by
  rcases flowing.begun with rfl | begun
  · exact List.length_pos_iff.mpr some
  · exact begun

theorem waiting_pos (flowing : b.Flowing start taken full) (some : taken ≠ []) : b.waiting ≠ 0 := by
  have below := flowing.full_lt some
  rw [flowing.counted]
  omega

theorem flush_nothing (flowing : b.Flowing start [] full) : b.flush = b := by
  have none : b.waiting = 0 := by
    rw [flowing.counted, List.length_nil, Nat.zero_sub]
  simp [flush, none]

theorem flush_accepted (flowing : b.Flowing start taken full) (some : taken ≠ [])
    (more : start.Admits (full + 1)) :
    ∃ sink, b.flush = { sink } ∧ start.Sent (full + 1) taken sink := by
  obtain ⟨written, sent⟩ := flowing.sent.write_accepted more b.pending.reverse
  rw [flowing.held] at written sent
  rw [List.take_append_drop] at sent
  refine ⟨_, ?_, sent⟩
  simp [flush, flowing.intact, flowing.waiting_pos some, written, flowing.held]

theorem flush_refused (flowing : b.Flowing start taken full) (some : taken ≠ [])
    (spent : start.budget = .some full) :
    b.flush = { b with failure := .some (.ofMessage start.refusal) } := by
  have written := flowing.sent.write_refused spent b.pending.reverse
  simp [flush, flowing.intact, flowing.waiting_pos some, written]

theorem put_fitting (flowing : b.Flowing start taken full)
    (space : taken.length < bufferSize * (full + 1)) (byte : UInt8) :
    (b.put byte).Flowing start (taken ++ [byte]) full := by
  have below := flowing.full_le
  have notFull : b.waiting ≠ bufferSize := by
    rw [flowing.counted]
    rw [Nat.mul_succ] at space
    omega
  have put : b.put byte = { b with pending := byte :: b.pending, waiting := b.waiting + 1 } := by
    simp [Buffered.put, notFull, flowing.intact]
  rw [put]
  refine ⟨flowing.intact, ?_, ?_, ?_, ?_, ?_⟩
  · rw [List.take_append_of_le_length below]
    exact flowing.sent
  · rw [List.reverse_cons, flowing.held, List.drop_append_of_le_length below]
  · change b.waiting + 1 = _
    rw [flowing.counted, List.length_append, List.length_singleton]
    omega
  · rw [List.length_append, List.length_singleton]
    right
    omega
  · rw [List.length_append, List.length_singleton]
    omega

theorem nonempty (whole : taken.length = bufferSize * (full + 1)) : taken ≠ [] := by
  rintro rfl
  have positive : 0 < bufferSize * (full + 1) := Nat.mul_pos (by decide) (Nat.succ_pos full)
  rw [List.length_nil] at whole
  omega

theorem waiting_full (flowing : b.Flowing start taken full)
    (whole : taken.length = bufferSize * (full + 1)) : b.waiting = bufferSize := by
  rw [flowing.counted, whole, Nat.mul_succ, Nat.add_sub_cancel_left]

theorem put_full (flowing : b.Flowing start taken full)
    (whole : taken.length = bufferSize * (full + 1)) (more : start.Admits (full + 1)) (byte : UInt8) :
    (b.put byte).Flowing start (taken ++ [byte]) (full + 1) := by
  obtain ⟨sink, flushed, sent⟩ := flowing.flush_accepted (nonempty whole) more
  have put : b.put byte = { sink, pending := [byte], waiting := 1 } := by
    simp [Buffered.put, flowing.waiting_full whole, flushed]
  have last := Nat.le_of_eq whole
  have first := Nat.le_of_eq whole.symm
  have length : (taken ++ [byte]).length = bufferSize * (full + 1) + 1 := by
    rw [List.length_append, whole, List.length_singleton]
  rw [put]
  refine ⟨rfl, ?_, ?_, ?_, ?_, ?_⟩
  · rw [List.take_append_of_le_length first, List.take_of_length_le last]
    exact sent
  · rw [List.drop_append_of_le_length first, List.drop_of_length_le last]
    rfl
  · rw [length, Nat.add_sub_cancel_left]
  · rw [length]
    exact .inr (Nat.lt_succ_self _)
  · rw [length, Nat.mul_succ bufferSize (full + 1)]
    exact Nat.add_le_add_left (by decide) _

theorem put_refused (flowing : b.Flowing start taken full)
    (whole : taken.length = bufferSize * (full + 1)) (spent : start.budget = some full) (byte : UInt8) :
    (b.put byte).Stuck start (taken ++ [byte]) full := by
  have flushed := flowing.flush_refused (nonempty whole) spent
  have put : b.put byte = { b with failure := some (.ofMessage start.refusal) } := by
    simp [Buffered.put, flowing.waiting_full whole, flushed]
  rw [put]
  refine ⟨rfl, spent, ?_, ?_⟩
  · rw [List.take_append_of_le_length flowing.full_le]
    exact flowing.sent.bytes
  · rw [List.length_append, whole, List.length_singleton]
    exact Nat.lt_succ_self _

end Flowing

namespace Stuck

theorem put (stuck : b.Stuck start taken n) (byte : UInt8) : b.put byte = b := by
  have kept : b.flush = b := by simp [flush, stuck.failure]
  simp [Buffered.put, kept, stuck.failure]

theorem append (stuck : b.Stuck start taken n) (more : Text) : b.Stuck start (taken ++ more) n := by
  have beyond := stuck.beyond
  refine ⟨stuck.failure, stuck.budget, ?_, ?_⟩
  · rw [List.take_append_of_le_length]
    · exact stuck.bytes
    · rw [Nat.mul_succ] at beyond
      omega
  · rw [List.length_append]
    omega

end Stuck

namespace Took

theorem put (took : b.Took start taken) (byte : UInt8) : (b.put byte).Took start (taken ++ [byte]) := by
  rcases took with ⟨full, flowing⟩ | ⟨n, stuck⟩
  · rcases Nat.lt_or_eq_of_le flowing.room with space | whole
    · exact .inl ⟨full, flowing.put_fitting space byte⟩
    · rcases flowing.sent.admits.next_or_spent with more | spent
      · exact .inl ⟨full + 1, flowing.put_full whole more byte⟩
      · exact .inr ⟨full, flowing.put_refused whole spent byte⟩
  · rw [stuck.put byte]
    exact .inr ⟨n, stuck.append [byte]⟩

theorem write (took : b.Took start taken) (bytes : Text) :
    (b.write bytes).1.Took start (taken ++ bytes) := by
  unfold Buffered.write
  induction bytes generalizing b taken with
  | nil => simpa using took
  | cons byte rest ih => simpa using ih (took.put byte)

theorem append (took : b.Took start taken) {failure : Failure} (refused : b.failure = some failure)
    (more : Text) : b.Took start (taken ++ more) := by
  rcases took with ⟨full, flowing⟩ | ⟨n, stuck⟩
  · rw [flowing.intact] at refused
    cases refused
  · exact .inr ⟨n, stuck.append more⟩

theorem failure_eq (took : b.Took start taken) {failure : Failure}
    (refused : b.failure = some failure) : failure = .ofMessage start.refusal := by
  rcases took with ⟨full, flowing⟩ | ⟨n, stuck⟩
  · rw [flowing.intact] at refused
    cases refused
  · rw [stuck.failure] at refused
    cases refused
    rfl

theorem intact_iff (took : b.Took start taken) : b.failure = none ↔ start.Passes taken := by
  rcases took with ⟨full, flowing⟩ | ⟨n, stuck⟩
  · refine iff_of_true flowing.intact ?_
    intro n budget
    have enough := flowing.sent.admits n budget
    have room := flowing.room
    exact Nat.le_trans room (Nat.mul_le_mul_left bufferSize (Nat.succ_le_succ enough))
  · refine iff_of_false ?_ ?_
    · rw [stuck.failure]
      simp
    · intro passes
      have short := passes n stuck.budget
      have beyond := stuck.beyond
      omega

theorem flush (took : b.Took start taken) :
    b.flush.sink.bytes = start.bytes ++ start.share taken ∧
      (b.flush.failure = none ↔ start.Stores taken) ∧
      ∀ failure, b.flush.failure = some failure → failure = .ofMessage start.refusal := by
  rcases took with ⟨full, flowing⟩ | ⟨n, stuck⟩
  · by_cases empty : taken = []
    · subst empty
      have stores : start.Stores [] := fun _ _ => Nat.zero_le _
      have bytes := flowing.sent.bytes
      rw [List.take_nil] at bytes
      rw [flowing.flush_nothing, stores.share_eq]
      refine ⟨bytes, iff_of_true flowing.intact stores, ?_⟩
      intro failure refused
      rw [flowing.intact] at refused
      cases refused
    · rcases flowing.sent.admits.next_or_spent with more | spent
      · obtain ⟨sink, flushed, sent⟩ := flowing.flush_accepted empty more
        have stores : start.Stores taken := more.stores flowing.room
        rw [flushed, stores.share_eq]
        refine ⟨sent.bytes, iff_of_true rfl stores, ?_⟩
        intro failure refused
        cases refused
      · rw [flowing.flush_refused empty spent, Sink.share_of_budget spent]
        refine ⟨flowing.sent.bytes, ?_, ?_⟩
        · exact iff_of_false (by simp) (Sink.not_stores spent (flowing.full_lt empty))
        · intro failure refused
          cases refused
          rfl
  · have kept : b.flush = b := by simp [Buffered.flush, stuck.failure]
    have beyond := stuck.beyond
    rw [Nat.mul_succ] at beyond
    rw [kept, Sink.share_of_budget stuck.budget]
    refine ⟨stuck.bytes, ?_, ?_⟩
    · refine iff_of_false ?_ (Sink.not_stores stuck.budget (by omega))
      rw [stuck.failure]
      simp
    · intro failure refused
      exact failure_eq (.inr ⟨n, stuck⟩) refused

end Took

end Buffered

namespace Script

/-- All of a script's bytes are put into the buffer, unless a chunk was refused before; then the run
ends with the refusal. -/
theorem run_buffered (s : Script) {start : Sink} {taken : Text} {b : Buffered}
    (took : b.Took start taken) (intact : b.failure = none) :
    let r := s.run Buffered.write b
    r.out.Took start (taken ++ s.bytes) ∧ (r.out.failure = none → r.failure = s.ending) ∧
      ∀ failure, r.out.failure = some failure →
        ∃ account, r.failure = some (failure.inContext account) := by
  obtain ⟨deliveries, ending⟩ := s
  simp only [run, bytes, chunks]
  induction deliveries generalizing b taken with
  | nil =>
    simp only [List.map_nil, List.flatten_nil, List.append_nil]
    refine ⟨took, fun _ => rfl, ?_⟩
    intro failure refused
    change b.failure = some failure at refused
    rw [intact] at refused
    cases refused
  | cons d rest ih =>
    have next := took.write d.chunk
    have written : b.write d.chunk = ((b.write d.chunk).1, (b.write d.chunk).1.failure) := rfl
    simp only [List.map_cons, List.flatten_cons, ← List.append_assoc]
    rw [deliver, written]
    generalize (b.write d.chunk).1 = after at next
    cases failed : after.failure with
    | some failure =>
      refine ⟨next.append failed _, ?_, ?_⟩
      · intro success
        rw [failed] at success
        cases success
      · intro refused same
        rw [failed] at same
        cases same
        exact ⟨d.account, rfl⟩
    | none => exact ih next failed

end Script

/-- What a pipeline with a flush behind it makes of the bytes and the failure that the pipeline has
without a buffer. The pipeline comes to its own end if no chunk is refused before. -/
structure Run.Keeps (driver pipeline : Run Buffered) (sink : Sink) (bytes : Text)
    (failure : Option Failure) : Prop where
  front : driver.out.sink.bytes <+: bytes
  share : driver.out.sink.bytes = sink.share bytes
  success : driver.failure = none → driver.out.sink.bytes = bytes ∧ failure = none
  stored : sink.Stores bytes → driver.out.sink.bytes = bytes ∧ driver.failure = failure
  reached : pipeline.out.failure = none ↔ sink.Passes bytes
  reported : pipeline.out.failure = none → ∀ own, failure = some own → driver.failure = some own
  unflushed : pipeline.out.failure = none → failure = none → ¬ sink.Stores bytes →
    driver.failure = some (.ofMessage sink.refusal)
  refused : pipeline.out.failure ≠ none →
    ∃ account, driver.failure = some ((Failure.ofMessage sink.refusal).inContext account)

theorem Script.keeps (s : Script) {sink : Sink} (fresh : sink.bytes = []) :
    let r := s.run Buffered.write { sink }
    r.flushed.Keeps r sink s.bytes s.ending := by
  intro r
  obtain ⟨took, finished, stopped⟩ := s.run_buffered (.inl ⟨0, Buffered.flowing_fresh sink⟩) rfl
  rw [List.nil_append] at took
  obtain ⟨bytes, flushed, cause⟩ := took.flush
  rw [fresh, List.nil_append] at bytes
  have intact := took.intact_iff
  have joined : r.flushed.failure = r.failure.or r.out.flush.failure := Option.orElse_eq_or
  refine ⟨?_, bytes, ?_, ?_, intact, ?_, ?_, ?_⟩
  · rw [show r.flushed.out.sink.bytes = _ from bytes]
    exact sink.share_within s.bytes
  · intro success
    rw [joined] at success
    obtain ⟨ended, clean⟩ := Option.or_eq_none_iff.mp success
    have whole : r.out.failure = none := by
      cases met : r.out.failure with
      | none => rfl
      | some failure =>
        obtain ⟨account, reported⟩ := stopped failure met
        rw [show r.failure = _ from reported] at ended
        cases ended
    exact ⟨bytes.trans (flushed.mp clean).share_eq, (finished whole).symm.trans ended⟩
  · intro stores
    have clean := flushed.mpr stores
    rw [joined, show r.out.flush.failure = none from clean, finished (intact.mpr stores.passes)]
    exact ⟨bytes.trans stores.share_eq, Option.or_none⟩
  · intro whole own same
    rw [joined, finished whole, same]
    rfl
  · intro whole clean short
    obtain ⟨failure, met⟩ := Option.ne_none_iff_exists'.mp (mt flushed.mp short)
    rw [joined, finished whole, clean, met, cause failure met]
    rfl
  · intro refused
    obtain ⟨failure, met⟩ := Option.ne_none_iff_exists'.mp refused
    obtain ⟨account, reported⟩ := stopped failure met
    rw [joined, reported, took.failure_eq met]
    exact ⟨account, rfl⟩

namespace Table

variable (t : Table)

/-- Assembly and disassembly through a buffer, into a sink that takes any number of writes: the sink
gets the first bytes of those that come without a buffer, all of them if the run reports success or
if there are writes enough; and a failure of the pipeline itself, once reached, is the one reported,
whatever becomes of the flush. The lines assembled are those of the source if all of them fit. -/
theorem buffered_keeps (input : ByteInput) (budget : Option Nat) (refusal : Text) :
    let sink : Sink := { budget, refusal }
    let lines : LineInput := .ofBytes bufferedLineLimit input
    let words := t.assemble lines Sink.write {}
    let texts := t.disassemble input Sink.write {}
    (t.assembleBuffered input sink).Keeps (t.assemble lines Buffered.write { sink }) sink
        words.out.bytes words.failure ∧
      (t.disassembleBuffered input sink).Keeps (t.disassemble input Buffered.writeLine { sink }) sink
        (texts.out.accepted.flatMap (· ++ [Text.newline])) texts.failure ∧
      ∀ raw, Lines input.bytes raw → (∀ line ∈ raw, line.length < bufferedLineLimit) →
        lines =
          { lines := raw.map Text.dropCarriageReturn
            failure? := input.failure?.map ReadError.message } := by
  intro sink lines words texts
  have fresh : sink.bytes = [] := rfl
  refine ⟨?_, ?_, ?_⟩
  · obtain ⟨chunks, failure⟩ := t.assemble_unlimited_run lines
    have kept := (t.assembly lines).keeps fresh
    rw [Script.bytes, ← chunks, ← failure] at kept
    rw [assembleBuffered, assemble_eq_run]
    exact ⟨kept.front, kept.share, kept.success, kept.stored, kept.reached, kept.reported,
      kept.unflushed, kept.refused⟩
  · obtain ⟨chunks, failure⟩ := t.disassemble_unlimited_run input
    have kept := ((t.disassembly input).mapChunks (· ++ [Text.newline])).keeps fresh
    rw [Script.bytes, Script.chunks_mapChunks, Script.run_mapChunks, ← chunks] at kept
    rw [disassembleBuffered, disassemble_eq_run, List.flatMap, failure]
    exact kept
  · intro raw divided short
    obtain rfl := lines_iff.mp divided
    exact LineInput.ofBytes_short input short

/-- Two lines into a sink that takes nothing: their words fit in the buffer, and the flush is refused. -/
theorem buffered_keeps_unflushed :
    let input : ByteInput := { bytes := "NOP\r\nHALT" }
    let sink : Sink := { budget := some 0, refusal := "full" }
    let lines : LineInput := { lines := ["NOP", "HALT"] }
    let r := Mu.table.assembleBuffered input sink
    LineInput.ofBytes bufferedLineLimit input = lines ∧
      (Mu.table.assemble lines Sink.write {}).failure = none ∧
      r.out.sink.bytes = [] ∧ r.failure = some (.ofMessage "full") := by
  intro input sink lines r
  obtain ⟨keeps, -, whole⟩ := Mu.table.buffered_keeps input (some 0) "full"
  have divided : Lines input.bytes ["NOP\r", "HALT"] := lines_iff.mpr (by decide +kernel)
  have delivered := whole _ divided (by decide)
  have success : (Mu.table.assemble lines Sink.write {}).failure = none := by decide +kernel
  rw [delivered] at keeps
  refine ⟨delivered, success, keeps.share, keeps.unflushed (by decide +kernel) success ?_⟩
  intro stores
  exact absurd (stores 0 rfl) (by decide +kernel)

end Table

end TableAsm
