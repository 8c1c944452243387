import TableAsm.Proofs.Assembly.Scanning
import TableAsm.Proofs.Fault.Positions

/-!
Refusals of sources. A line that cannot be parsed, a label that is defined twice, an operand that is
nothing or not what its slot needs, a mnemonic of no format: each is a fault in words of its own, of a
kind that is about the source, and it carries the line. In a table that was built every format has a
layout, so no fault is about the table.
-/
namespace TableAsm

/-- The kinds of fault that a source can have. -/
def sourceKinds : List Kind :=
  [.malformedLine, .duplicateSymbol, .operandKindMismatch, .unknownMnemonic, .unresolvedSymbol,
   .malformedLiteral, .literalOutOfRange, .unknownOperand]

/-- The failure is a fault of the source at a line; line 0 means that it has none yet. -/
def Failure.OfSource (e : Failure) (line : Int) : Prop :=
  ∃ f, e.States f ∧ f.kind ∈ sourceKinds ∧ f.line = line

namespace Failure.OfSource

variable {e : Failure}

theorem atLine (unplaced : e.OfSource 0) (line : Int) : (e.atLine line).OfSource line := by
  obtain ⟨f, states, kind, zero⟩ := unplaced
  refine ⟨f.atLine line, states.atLine line, ?_, ?_⟩
  · rw [Fault.kind_atLine]
    exact kind
  · rw [Fault.atLine, if_pos zero]

theorem unplaced (source : e.OfSource 0) : e.Unplaced := by
  obtain ⟨f, states, -, zero⟩ := source
  exact ⟨f, states.fault?, zero⟩

end Failure.OfSource

theorem classify_ofSource {token : Text} {symbols : SymbolTable} {register? : Text → Option UInt8}
    {failure : Failure} (refused : classify token symbols register? = .error failure) :
    failure.OfSource 0 := by
  unfold classify at refused
  split at refused
  · cases refused
  split at refused
  · split at refused
    · cases refused
    · cases refused
      exact ⟨_, ⟨rfl, by simp⟩, by simp [sourceKinds], rfl⟩
  split at refused
  · split at refused
    · cases refused
    · cases refused
      exact ⟨_, ⟨rfl, by simp⟩, by simp [sourceKinds], rfl⟩
    · cases refused
      exact ⟨_, ⟨rfl, by simp⟩, by simp [sourceKinds], rfl⟩
  · split at refused
    · cases refused
    · cases refused
      exact ⟨_, ⟨rfl, by simp⟩, by simp [sourceKinds], rfl⟩
    · split at refused
      · cases refused
      · cases refused
        exact ⟨_, ⟨rfl, by simp⟩, by simp [sourceKinds], rfl⟩

theorem operandMismatch_ofSource (format : Format) (position : Nat) (slot : Text) (wanted : OperandKind)
    (token detail : Text) : (operandMismatch format position slot wanted token detail).OfSource 0 :=
  ⟨_, ⟨rfl, by simp⟩, by simp [sourceKinds], rfl⟩

theorem bindFrom_ofSource {format : Format} {symbols : SymbolTable} {register? : Text → Option UInt8}
    {position : Nat} {slots : List Slot} {tokens : List Text} {f : Fields} {failure : Failure}
    (refused : bindFrom format symbols register? position slots tokens f = .error failure) :
    failure.OfSource 0 := by
  fun_induction bindFrom format symbols register? position slots tokens f with
  | case1 => cases refused
  | case2 position token tokens f empty ih => exact ih refused
  | case3 =>
    cases refused
    exact operandMismatch_ofSource _ _ _ _ _ _
  | case4 =>
    cases refused
    exact operandMismatch_ofSource _ _ _ _ _ _
  | case5 position slot slots token tokens f present cause unknown =>
    cases refused
    exact classify_ofSource unknown
  | case6 position slot slots token tokens f present operand known kind ih => exact ih refused
  | case7 =>
    cases refused
    exact operandMismatch_ofSource _ _ _ _ _ _

namespace Table

variable {t : Table}

theorem ofMnemonic_ofSource {mnemonic : Text} {failure : Failure}
    (refused : t.ofMnemonic mnemonic = .error failure) : failure.OfSource 0 := by
  unfold ofMnemonic at refused
  split at refused
  · cases refused
  · cases refused
    exact ⟨_, ⟨rfl, by simp⟩, by simp [sourceKinds], rfl⟩

theorem encodeInstruction_ofSource (sound : t.Sound) {i : Instruction} {symbols : SymbolTable}
    {failure : Failure} (refused : t.encodeInstruction i symbols = .error failure) :
    failure.OfSource i.line := by
  unfold encodeInstruction at refused
  split at refused
  · rename_i cause unknown
    cases refused
    exact (ofMnemonic_ofSource unknown).atLine i.line
  · rename_i format found
    obtain ⟨slots, layout⟩ := sound.formats.laidOut format (ofMnemonic_eq_ok found).1
    split at refused
    · rename_i cause unbound
      cases refused
      simp only [bind, layout] at unbound
      exact (bindFrom_ofSource unbound).atLine i.line
    · cases refused

end Table

theorem parseLine_ofSource {raw : Text} {failure : Failure} (refused : parseLine raw = .error failure) :
    failure.OfSource 0 := by
  obtain ⟨problem, rfl⟩ := parseLine_eq_error refused
  exact ⟨_, ⟨rfl, by simp⟩, by simp [sourceKinds], rfl⟩

theorem define_ofSource {symbols : SymbolTable} {label : Label} {fault : Fault}
    (refused : symbols.define label = .error fault) : (Failure.ofFault fault).OfSource 0 := by
  unfold SymbolTable.define at refused
  split at refused
  · cases refused
    exact ⟨_, ⟨rfl, by simp⟩, by simp [sourceKinds], rfl⟩
  · cases refused

theorem surplus_ofSource {operands : List Text} {fault : Fault}
    (refused : Instruction.surplus? operands = some fault) : (Failure.ofFault fault).OfSource 0 := by
  obtain ⟨token, -, rfl⟩ := Option.map_eq_some_iff.mp refused
  unfold Instruction.surplusOperand
  exact ⟨_, ⟨rfl, by simp⟩, by simp [sourceKinds], rfl⟩

theorem addressSpaceExhausted_ofSource : addressSpaceExhausted.OfSource 0 := by
  unfold addressSpaceExhausted
  exact ⟨_, ⟨rfl, by simp⟩, by simp [sourceKinds], rfl⟩

theorem Except.map_eq_error {ε α β : Type} {f : α → β} {x : Except ε α} {e : ε}
    (mapped : x.map f = .error e) : x = .error e := by
  cases x with
  | error e' => simpa [Except.map] using mapped
  | ok a => cases mapped

section

variable {failure? : Option Text} {count : Nat} {address : UInt32} {symbols : SymbolTable}
  {failure : Failure}

theorem scanFrom_cons_eq_error {raw : Text} {rest : List Text}
    (refused : (scanFrom failure? count address symbols (raw :: rest)).result = .error failure) :
    failure.OfSource (count + 1) ∨
      ∃ address' symbols', (scanFrom failure? (count + 1) address' symbols' rest).result = .error failure := by
  simp only [scanFrom] at refused
  split at refused
  · rename_i cause unparsed
    cases refused
    exact .inl ((parseLine_ofSource unparsed).atLine _)
  · exact .inr ⟨_, _, refused⟩
  · split at refused
    · rename_i fault known
      cases refused
      exact .inl ((define_ofSource known).atLine _)
    · exact .inr ⟨_, _, Except.map_eq_error refused⟩
  · split at refused
    · cases refused
      exact .inl (addressSpaceExhausted_ofSource.atLine _)
    split at refused
    · rename_i fault many
      cases refused
      exact .inl ((surplus_ofSource many).atLine _)
    · exact .inr ⟨_, _, Except.map_eq_error refused⟩

theorem scanFrom_eq_error {lines : List Text}
    (refused : (scanFrom failure? count address symbols lines).result = .error failure) :
    (∃ words, failure? = some words ∧ failure = readFailure words (count + lines.length)) ∨
      ∃ n < lines.length, failure.OfSource (count + n + 1) := by
  induction lines generalizing count address symbols with
  | nil =>
    cases failure? with
    | none => cases refused
    | some words =>
      cases refused
      exact .inl ⟨words, rfl, rfl⟩
  | cons raw rest ih =>
    rcases scanFrom_cons_eq_error refused with first | ⟨address', symbols', later⟩
    · exact .inr ⟨0, by simp, by simpa using first⟩
    rcases ih later with ⟨words, given, same⟩ | ⟨n, inside, fault⟩
    · refine .inl ⟨words, given, ?_⟩
      rw [same, List.length_cons, Nat.add_right_comm, Nat.add_assoc]
    · refine .inr ⟨n + 1, by simpa using inside, ?_⟩
      have number : ((count + 1 : Nat) : Int) + n + 1 = count + (n + 1 : Nat) + 1 := by omega
      rw [← number]
      exact fault

end

end TableAsm
