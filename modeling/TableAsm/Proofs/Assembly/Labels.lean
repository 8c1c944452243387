import TableAsm.Proofs.Assembly.Addresses

namespace TableAsm

def SymbolTable.Sigils (s : SymbolTable) : Prop :=
  ∀ name address, s.address? name = some address → name.head? = some labelSigil

theorem SymbolTable.address?_define {s known : SymbolTable} {l : Label}
    (defined : s.define l = .ok known) (name : Text) :
    s.address? l.name = none ∧
      known.address? name = if l.name = name then some l.address else s.address? name := by
  unfold define at defined
  split at defined
  · cases defined
  · rename_i fresh
    cases defined
    refine ⟨fresh, ?_⟩
    by_cases same : l.name = name
    · simp [address?, same]
    · simp [address?, List.lookup_cons, same, beq_false_of_ne (Ne.symm same)]

namespace Program

def label? (p : Program) (name : Text) : Option Label := p.labels.find? fun l => l.name = name

def target? (p : Program) (name : Text) : Option Nat := (p.label? name).map fun l => p.before l.line

end Program

section

variable {failure? : Option Text} {count : Nat} {address : UInt32} {symbols : SymbolTable}
  {lines : List Text} {p : Program}

theorem scanFrom_symbols
    (scanned : (scanFrom failure? count address symbols lines).result = .ok p) (name : Text) :
    p.symbols.address? name = (symbols.address? name).or ((p.label? name).map Label.address) := by
  induction lines generalizing count address symbols p with
  | nil =>
    obtain rfl := scanFrom_nil_eq_ok scanned
    simp [Program.label?]
  | cons raw rest ih =>
    obtain ⟨-, ok⟩ | ⟨other, known, q, -, defined, ok, rfl⟩ | ⟨first, q, -, -, -, ok, rfl⟩ :=
      scanFrom_cons_eq_ok scanned
    · exact ih ok
    · obtain ⟨fresh, lookup⟩ := SymbolTable.address?_define defined name
      have later := ih ok
      rw [lookup] at later
      change q.symbols.address? name = _
      rw [later]
      by_cases same : other = name
      · subst same
        simp only at fresh
        simp [Program.label?, fresh]
      · simp [Program.label?, same]
    · have later := ih ok
      exact later

theorem scanFrom_sigils
    (scanned : (scanFrom failure? count address symbols lines).result = .ok p) :
    ∀ label ∈ p.labels, label.name.head? = some labelSigil := by
  induction lines generalizing count address symbols p with
  | nil =>
    obtain rfl := scanFrom_nil_eq_ok scanned
    simp
  | cons raw rest ih =>
    obtain ⟨-, ok⟩ | ⟨name, known, q, parsed, -, ok, rfl⟩ | ⟨first, q, -, -, -, ok, rfl⟩ :=
      scanFrom_cons_eq_ok scanned
    · exact ih ok
    · exact List.forall_mem_cons.mpr ⟨parseLine_label parsed, ih ok⟩
    · intro label member
      exact ih ok label member

end

section

variable {input : LineInput} {p : Program}

theorem scan_address? (scanned : (scan input).result = .ok p) (name : Text) :
    p.symbols.address? name = (p.target? name).map fun n => UInt32.ofNat (wordSize * n) := by
  have none : SymbolTable.address? [] name = none := rfl
  rw [scanFrom_symbols scanned name, none, Option.none_or, Program.target?, Option.map_map]
  cases found : p.label? name with
  | none => rfl
  | some label =>
    have counted := (scanFrom_labels scanned label (List.mem_of_find?_eq_some found)).2
    simp only [Option.map_some, Function.comp_apply, Option.some.injEq]
    rw [← UInt32.toNat_inj, counted, UInt32.toNat_ofNat']
    simp

theorem scan_sigils (scanned : (scan input).result = .ok p) : p.symbols.Sigils := by
  intro name address known
  rw [scan_address? scanned, Program.target?, Option.map_map] at known
  obtain ⟨label, found, -⟩ := Option.map_eq_some_iff.mp known
  have same : label.name = name := by simpa using List.find?_some found
  rw [← same]
  exact scanFrom_sigils scanned label (List.mem_of_find?_eq_some found)

end

end TableAsm
