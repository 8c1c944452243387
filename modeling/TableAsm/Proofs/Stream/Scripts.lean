import TableAsm.Stream.Pipeline

/-!
Runs as scripts. What a run would write does not depend on its output: it is a list of deliveries,
known before the first of them, and the failure it ends with after the last. The output only decides
how many deliveries are made.
-/
namespace TableAsm

/-- One write of a run: its bytes, what it is called if it is refused, and the event of its success. -/
structure Delivery where
  chunk : Text
  account : Text
  event : Event

/-- The deliveries of a run, and the failure that it ends with if all of them are taken. -/
structure Script where
  deliveries : List Delivery := []
  ending : Option Failure := none

namespace Script

def chunks (s : Script) : List Text := s.deliveries.map Delivery.chunk

def bytes (s : Script) : Text := s.chunks.flatten

def following (d : Delivery) (s : Script) : Script := { s with deliveries := d :: s.deliveries }

def mapChunks (change : Text → Text) (s : Script) : Script :=
  { s with deliveries := s.deliveries.map fun d => { d with chunk := change d.chunk } }

variable {σ : Type}

def deliver (write : σ → Text → σ × Option Failure) (ending : Option Failure) (out : σ) :
    List Delivery → Run σ
  | [] => { out, failure := ending }
  | d :: rest =>
    match write out d.chunk with
    | (out, some failure) => { out, failure := some (failure.inContext d.account) }
    | (out, none) => (deliver write ending out rest).after d.event

def run (s : Script) (write : σ → Text → σ × Option Failure) (out : σ) : Run σ :=
  deliver write s.ending out s.deliveries

theorem run_following (d : Delivery) (s : Script) (write : σ → Text → σ × Option Failure) (out : σ) :
    (s.following d).run write out =
      match write out d.chunk with
      | (out, some failure) => { out, failure := some (failure.inContext d.account) }
      | (out, none) => (s.run write out).after d.event := rfl

theorem run_mapChunks (change : Text → Text) (s : Script) (write : σ → Text → σ × Option Failure)
    (out : σ) : (s.mapChunks change).run write out = s.run (fun out chunk => write out (change chunk)) out := by
  obtain ⟨deliveries, ending⟩ := s
  unfold run mapChunks
  induction deliveries generalizing out with
  | nil => rfl
  | cons d rest ih =>
    simp only [List.map_cons, deliver]
    cases write out (change d.chunk) with
    | mk next failure? =>
      cases failure? with
      | some failure => rfl
      | none => exact congrArg (Run.after d.event) (ih next)

theorem chunks_mapChunks (change : Text → Text) (s : Script) :
    (s.mapChunks change).chunks = s.chunks.map change := by
  simp only [chunks, mapChunks, List.map_map]
  rfl

end Script

namespace Table

variable {σ : Type}

/-- What the write of an instruction's word is called. -/
def wordAccount (i : Instruction) : Text := "writing word for line " ++ Text.signedDecimal i.line

def wordDelivery (i : Instruction) (word : Word) : Delivery where
  chunk := word.bytes
  account := wordAccount i
  event := .encoded i word

/-- What instructions are encoded to: words up to the first instruction that has none. -/
def emission (t : Table) (symbols : SymbolTable) : List Instruction → Script
  | [] => {}
  | i :: rest =>
    match t.encodeInstruction i symbols with
    | .error failure => { ending := some failure }
    | .ok word => (emission t symbols rest).following (wordDelivery i word)

def assembly (t : Table) (input : LineInput) : Script :=
  match (scan input).result with
  | .error failure => { ending := some failure }
  | .ok p => t.emission p.symbols p.instructions

def lineDelivery (offset : Nat) (decoded : Decoded) : Delivery where
  chunk := decoded.text
  account := "writing word at offset 0x" ++ Text.hex offset
  event := .decoded { decoded with offset }

theorem wordEnd_eq_finished_iff {left : Text} {failure? : Option ReadError} :
    wordEnd left failure? = .finished ↔
      left = [] ∧ failure? = none ∨ ∃ cause, failure? = some cause ∧ cause.isEnd = true := by
  cases failure? with
  | none => simp [wordEnd]
  | some cause =>
    obtain ⟨message, isEnd, early⟩ := cause
    cases isEnd <;> cases early <;> simp [wordEnd]

theorem wordEnd_eq_cut_iff {left : Text} {failure? : Option ReadError} {count : Nat} :
    wordEnd left failure? = .cut count ↔
      left.length = count ∧
        (left ≠ [] ∧ failure? = none ∨
          ∃ cause, failure? = some cause ∧ cause.isEnd = false ∧ cause.isUnexpectedEnd = true) := by
  cases failure? with
  | none => by_cases empty : left = [] <;> simp [wordEnd, empty]
  | some cause =>
    obtain ⟨message, isEnd, early⟩ := cause
    cases isEnd <;> cases early <;> simp [wordEnd]

theorem wordEnd_eq_unread_iff {left : Text} {failure? : Option ReadError} {message : Text} :
    wordEnd left failure? = .unread message ↔
      ∃ cause, failure? = some cause ∧ cause.isEnd = false ∧ cause.isUnexpectedEnd = false ∧
        cause.message = message := by
  cases failure? with
  | none => by_cases empty : left = [] <;> simp [wordEnd, empty]
  | some cause =>
    obtain ⟨text, isEnd, early⟩ := cause
    cases isEnd <;> cases early <;> simp [wordEnd]

theorem streamEnd_eq_none_iff {offset : Nat} {left : Text} {failure? : Option ReadError} :
    streamEnd offset left failure? = none ↔ wordEnd left failure? = .finished := by
  unfold streamEnd
  split <;> simp [*]

def decoding (t : Table) (left : Text) (failure? : Option ReadError) (offset : Nat) : List Word → Script
  | [] => { ending := streamEnd offset left failure? }
  | word :: rest =>
    match t.decodeWord word with
    | .error failure => { ending := some (failure.atOffset offset) }
    | .ok decoded =>
      (decoding t left failure? (offset + wordSize) rest).following (lineDelivery offset decoded)

def disassembly (t : Table) (input : ByteInput) : Script :=
  t.decoding (frames input.bytes).2 input.failure? 0 (frames input.bytes).1

variable (t : Table) (write : σ → Text → σ × Option Failure) (out : σ)

theorem emit_eq_run (symbols : SymbolTable) (instructions : List Instruction) :
    t.emit symbols write out instructions = (t.emission symbols instructions).run write out := by
  induction instructions generalizing out with
  | nil => rfl
  | cons i rest ih =>
    simp only [emit, emission]
    cases t.encodeInstruction i symbols with
    | error failure => rfl
    | ok word =>
      simp only [Script.run_following, ih]
      rfl

theorem assemble_eq_run (input : LineInput) :
    t.assemble input write out =
      let r := (t.assembly input).run write out
      { r with events := (scan input).events ++ r.events } := by
  simp only [assemble, assembly]
  cases (scan input).result with
  | error failure => simp [Script.run, Script.deliver]
  | ok p => simp only [emitProgram, emit_eq_run]

theorem disassembleFrom_eq_run (left : Text) (failure? : Option ReadError) (offset : Nat)
    (words : List Word) :
    t.disassembleFrom write left failure? offset out words =
      (t.decoding left failure? offset words).run write out := by
  induction words generalizing offset out with
  | nil => rfl
  | cons word rest ih =>
    simp only [disassembleFrom, decoding]
    cases t.decodeWord word with
    | error failure => rfl
    | ok decoded =>
      simp only [Script.run_following, ih]
      rfl

theorem disassemble_eq_run (input : ByteInput) :
    t.disassemble input write out = (t.disassembly input).run write out :=
  disassembleFrom_eq_run t write out _ _ _ _

end Table

namespace Sink

def taking (s : Sink) (chunk : Text) : Sink :=
  { s with budget := s.budget.map (· - 1), chunks := chunk :: s.chunks }

@[simp] theorem accepted_taking (s : Sink) (chunk : Text) :
    (s.taking chunk).accepted = s.accepted ++ [chunk] := by
  simp [accepted, taking]

@[simp] theorem refusal_taking (s : Sink) (chunk : Text) : (s.taking chunk).refusal = s.refusal := rfl

theorem write_accepted {s : Sink} (unspent : s.budget ≠ some 0) (chunk : Text) :
    s.write chunk = (s.taking chunk, none) := by
  unfold write taking
  cases budget : s.budget with
  | none => simp
  | some left =>
    cases left with
    | zero => exact absurd budget unspent
    | succ left => simp

theorem write_refused {s : Sink} (spent : s.budget = some 0) (chunk : Text) :
    s.write chunk = (s, some (.ofMessage s.refusal)) := by
  rw [write, spent]

/-- The sink takes at least so many writes. -/
def Admits (s : Sink) (count : Nat) : Prop := ∀ left ∈ s.budget, count ≤ left

theorem Admits.unspent {s : Sink} {count : Nat} (admits : s.Admits (count + 1)) :
    s.budget ≠ some 0 := by
  intro spent
  have none := admits 0 spent
  omega

theorem Admits.taking {s : Sink} {count : Nat} (admits : s.Admits (count + 1)) (chunk : Text) :
    (s.taking chunk).Admits count := by
  intro left member
  obtain ⟨before, budget, rfl⟩ := Option.map_eq_some_iff.mp member
  have enough := admits before budget
  omega

end Sink

namespace Script

theorem run_admitted {s : Script} {sink : Sink} (admits : sink.Admits s.deliveries.length) :
    (s.run Sink.write sink).out.accepted = sink.accepted ++ s.chunks ∧
      (s.run Sink.write sink).failure = s.ending := by
  obtain ⟨deliveries, ending⟩ := s
  simp only [run, chunks] at admits ⊢
  induction deliveries generalizing sink with
  | nil => simp [deliver]
  | cons d rest ih =>
    obtain ⟨chunks, failure⟩ := ih (admits.taking d.chunk)
    simp only [deliver, Sink.write_accepted admits.unspent, Run.after, chunks, failure]
    simp

theorem run_refused {s : Script} {sink : Sink} {n : Nat} (budget : sink.budget = some n)
    (inside : n < s.deliveries.length) :
    (s.run Sink.write sink).out.accepted = sink.accepted ++ s.chunks.take n ∧
      (s.run Sink.write sink).failure =
        some ((Failure.ofMessage sink.refusal).inContext s.deliveries[n].account) := by
  obtain ⟨deliveries, ending⟩ := s
  simp only [run, chunks] at inside ⊢
  induction deliveries generalizing sink n with
  | nil => cases inside
  | cons d rest ih =>
    cases n with
    | zero => simp [deliver, Sink.write_refused budget]
    | succ n =>
      have unspent : sink.budget ≠ some 0 := by simp [budget]
      have left : (sink.taking d.chunk).budget = some n := by simp [Sink.taking, budget]
      obtain ⟨chunks, failure⟩ := ih left (Nat.lt_of_succ_lt_succ inside)
      simp only [deliver, Sink.write_accepted unspent, Run.after, chunks, failure]
      simp

end Script

/-- How many of a number of writes the sink takes. -/
def Sink.taken (s : Sink) (count : Nat) : Nat :=
  match s.budget with
  | none => count
  | some left => min left count

theorem Sink.taken_spent {s : Sink} (spent : s.budget = some 0) (count : Nat) : s.taken count = 0 := by
  rw [taken, spent]
  exact Nat.zero_min count

theorem Sink.taken_succ {s : Sink} (unspent : s.budget ≠ some 0) (chunk : Text) (count : Nat) :
    s.taken (count + 1) = (s.taking chunk).taken count + 1 := by
  unfold taken taking
  cases budget : s.budget with
  | none => rfl
  | some left =>
    have positive : left ≠ 0 := by
      rintro rfl
      exact unspent budget
    simp only [Option.map_some]
    omega

theorem Script.run_taken (s : Script) (sink : Sink) :
    let made := s.deliveries.take (sink.taken s.deliveries.length)
    (s.run Sink.write sink).out.accepted = sink.accepted ++ made.map Delivery.chunk ∧
      (s.run Sink.write sink).events = made.map Delivery.event := by
  obtain ⟨deliveries, ending⟩ := s
  simp only [run]
  induction deliveries generalizing sink with
  | nil => simp [deliver]
  | cons d rest ih =>
    by_cases spent : sink.budget = some 0
    · simp [deliver, Sink.write_refused spent, Sink.taken_spent spent]
    · obtain ⟨accepted, events⟩ := ih (sink.taking d.chunk)
      rw [List.length_cons, Sink.taken_succ spent d.chunk, List.take_succ_cons]
      simp only [deliver, Sink.write_accepted spent, Run.after, accepted, events]
      simp

namespace Table

variable (t : Table)

theorem assemble_unlimited_run (input : LineInput) :
    (t.assemble input Sink.write {}).out.accepted = (t.assembly input).chunks ∧
      (t.assemble input Sink.write {}).failure = (t.assembly input).ending := by
  have endless : ({} : Sink).Admits (t.assembly input).deliveries.length := by simp [Sink.Admits]
  rw [assemble_eq_run]
  exact Script.run_admitted endless

theorem disassemble_unlimited_run (input : ByteInput) :
    (t.disassemble input Sink.write {}).out.accepted = (t.disassembly input).chunks ∧
      (t.disassemble input Sink.write {}).failure = (t.disassembly input).ending := by
  have endless : ({} : Sink).Admits (t.disassembly input).deliveries.length := by simp [Sink.Admits]
  rw [disassemble_eq_run]
  exact Script.run_admitted endless

end Table

end TableAsm
