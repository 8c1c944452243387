import Mathlib.Data.List.Nodup
import TableAsm.Isa.Draft

namespace TableAsm

/-- The names that make a register file. -/
structure SoundNames (names : List Text) : Prop where
  fits : names.length ≤ maxRegisters
  flawless : ∀ name ∈ names, registerNameFlaw? name = none
  distinct : names.Nodup

theorem registerNameFlaw?_eq_none_iff {name : Text} :
    registerNameFlaw? name = none ↔
      name ≠ [] ∧ name.hasBlank = false ∧ commentMark ∉ name ∧ name.head? ≠ some labelSigil ∧
        hexMark.isPrefixOf name = false ∧ name.all Text.isDigit = false := by
  unfold registerNameFlaw?
  split_ifs with empty blank comment sigil hex digits <;> simp_all [← Bool.not_eq_true]

theorem registerNameFault?_eq_none_iff {name : Text} :
    registerNameFault? name = none ↔ registerNameFlaw? name = none := by
  simp [registerNameFault?]

theorem idxOf?_eq_some_of_nodup {names : List Text} (distinct : names.Nodup) {i : Nat}
    (inside : i < names.length) : names.idxOf? names[i] = some i := by
  rw [List.idxOf?_eq_some_iff]
  refine ⟨inside, rfl, ?_⟩
  intro j before same
  have equal := (distinct.getElem_inj_iff).mp same
  omega

theorem forall_mem_zipIdx {α : Type} {l : List α} {P : α → Nat → Prop} :
    (∀ entry ∈ l.zipIdx, P entry.1 entry.2) ↔ ∀ i, (inside : i < l.length) → P l[i] i := by
  constructor
  · intro each i inside
    exact each (l[i], i) (List.mk_mem_zipIdx_iff_getElem?.mpr (List.getElem?_eq_getElem inside))
  · rintro each ⟨a, i⟩ member
    obtain ⟨inside, rfl⟩ := List.getElem?_eq_some_iff.mp (List.mk_mem_zipIdx_iff_getElem?.mp member)
    exact each i inside

theorem registerProblem?_eq_none_iff {names : List Text} {i : Nat} (inside : i < names.length) :
    registerProblem? names i names[i] = none ↔
      registerNameFlaw? names[i] = none ∧ ∀ j, (before : j < i) → names[j] ≠ names[i] := by
  unfold registerProblem?
  cases fault : registerNameFault? names[i] with
  | some fault' =>
    have flawed : registerNameFlaw? names[i] ≠ none := by
      rw [Ne, ← registerNameFault?_eq_none_iff, fault]
      simp
    simp [flawed]
  | none =>
    have flawless := registerNameFault?_eq_none_iff.mp fault
    obtain ⟨first, found⟩ := Option.isSome_iff_exists.mp
      (List.isSome_idxOf?.mpr (List.getElem_mem inside))
    obtain ⟨within, same, earliest⟩ := List.idxOf?_eq_some_iff.mp found
    simp only [found, flawless, true_and]
    constructor
    · intro none j before equal
      have late : ¬ first < i := fun early => by simp [early] at none
      exact earliest j (by omega) equal
    · intro unequal
      have late : ¬ first < i := fun early => unequal first early same
      rw [if_neg late]

theorem registerProblems_eq_nil_iff {names : List Text} :
    registerProblems names = [] ↔ SoundNames names := by
  have each : (∀ entry ∈ names.zipIdx, registerProblem? names entry.2 entry.1 = none) ↔
      ∀ i, (inside : i < names.length) → registerProblem? names i names[i] = none :=
    forall_mem_zipIdx (P := fun name i => registerProblem? names i name = none)
  rw [registerProblems, List.append_eq_nil_iff, List.filterMap_eq_nil_iff]
  refine (and_congr_right fun _ => each).trans ?_
  constructor
  · rintro ⟨short, none⟩
    refine ⟨?_, ?_, ?_⟩
    · by_contra large
      simp [Nat.not_le.mp large] at short
    · intro name member
      obtain ⟨i, inside, rfl⟩ := List.getElem_of_mem member
      exact ((registerProblem?_eq_none_iff inside).mp (none i inside)).1
    · rw [List.Nodup, List.pairwise_iff_getElem]
      intro j i _ inside before
      exact ((registerProblem?_eq_none_iff inside).mp (none i inside)).2 j before
  · intro sound
    refine ⟨if_neg (Nat.not_lt.mpr sound.fits), ?_⟩
    intro i inside
    refine (registerProblem?_eq_none_iff inside).mpr ⟨sound.flawless _ (List.getElem_mem inside), ?_⟩
    intro j before same
    have equal := (sound.distinct.getElem_inj_iff).mp same
    omega

theorem idxOf?_append (front back : List Text) (name : Text) :
    (front ++ back).idxOf? name =
      (front.idxOf? name).or ((back.idxOf? name).map (· + front.length)) := by
  simp only [List.idxOf?, List.findIdx?_append]

def problemsBehind (front rest : List Text) : List Fault :=
  (rest.zipIdx front.length).filterMap fun entry => registerProblem? (front ++ rest) entry.2 entry.1

theorem problemsBehind_cons (front : List Text) (name : Text) (rest : List Text) :
    problemsBehind front (name :: rest) =
      (registerProblem? (front ++ name :: rest) front.length name).toList ++
        problemsBehind (front ++ [name]) rest := by
  have regroup : front ++ name :: rest = (front ++ [name]) ++ rest := by simp
  rw [problemsBehind, List.zipIdx_cons, List.filterMap_cons, problemsBehind, regroup, List.length_append,
    List.length_singleton]
  cases registerProblem? ((front ++ [name]) ++ rest) front.length name <;> rfl

namespace Registers

theorem add_eq (front : List Text) (name : Text) (rest : List Text) :
    add ⟨front⟩ name =
      match registerProblem? (front ++ name :: rest) front.length name with
      | some fault => .error fault
      | none => .ok ⟨front ++ [name]⟩ := by
  unfold add registerProblem?
  cases registerNameFault? name with
  | some fault => rfl
  | none =>
    simp only [idxOf?_append]
    cases found : front.idxOf? name with
    | some earlier =>
      obtain ⟨inside, -, -⟩ := List.idxOf?_eq_some_iff.mp found
      simp [inside]
    | none =>
      have here : (name :: rest).idxOf? name = some 0 := by simp [List.idxOf?_cons]
      simp [here]

theorem addAll_eq (front rest : List Text) :
    addAll ⟨front⟩ rest =
      match (problemsBehind front rest).head? with
      | some fault => .error fault
      | none => .ok ⟨front ++ rest⟩ := by
  induction rest generalizing front with
  | nil => simp [addAll, problemsBehind]
  | cons name rest ih =>
    rw [addAll, add_eq front name rest, problemsBehind_cons]
    cases registerProblem? (front ++ name :: rest) front.length name with
    | some fault => rfl
    | none => simpa using ih (front ++ [name])

theorem ofNames_eq (names : List Text) :
    ofNames names =
      match (registerProblems names).head? with
      | some fault => .error fault
      | none => .ok ⟨names⟩ := by
  have behind : problemsBehind [] names =
      names.zipIdx.filterMap fun entry => registerProblem? names entry.2 entry.1 := rfl
  rw [ofNames, registerProblems]
  by_cases many : maxRegisters < names.length
  · rw [if_pos many, if_pos many]
    rfl
  · rw [if_neg many, if_neg many, List.nil_append, addAll_eq, behind, List.nil_append]

theorem ofNames_eq_error_iff {names : List Text} {fault : Fault} :
    ofNames names = .error fault ↔ (registerProblems names).head? = some fault := by
  rw [ofNames_eq]
  cases (registerProblems names).head? <;> simp

theorem ofNames_eq_ok_iff {names : List Text} {r : Registers} :
    ofNames names = .ok r ↔ SoundNames names ∧ r = ⟨names⟩ := by
  rw [ofNames_eq, ← registerProblems_eq_nil_iff]
  cases registerProblems names with
  | nil => simp [eq_comm]
  | cons fault rest => simp

theorem name_eq_ok_iff {r : Registers} {index : UInt8} {text : Text} :
    r.name index = .ok text ↔ r.name? index = some text := by
  unfold name
  cases r.name? index <;> simp

theorem name_cases (r : Registers) (index : UInt8) :
    (index.toNat < r.names.length ∧ ∃ name, r.name index = .ok name) ∨
      (r.names.length ≤ index.toNat ∧ r.name index = .error (r.outOfRange index)) := by
  unfold name name?
  by_cases inside : index.toNat < r.names.length
  · rw [List.getElem?_eq_getElem inside]
    exact .inl ⟨inside, _, rfl⟩
  · rw [List.getElem?_eq_none (Nat.le_of_not_lt inside)]
    exact .inr ⟨Nat.le_of_not_lt inside, rfl⟩

end Registers

namespace SoundNames

variable {names : List Text}

theorem small_index (sound : SoundNames names) {i : Nat} (inside : i < names.length) : i < 32 :=
  Nat.lt_of_lt_of_le inside sound.fits

theorem index?_getElem (sound : SoundNames names) {i : Nat} (inside : i < names.length) :
    Registers.index? ⟨names⟩ names[i] = some (UInt8.ofNat i) := by
  rw [Registers.index?, idxOf?_eq_some_of_nodup sound.distinct inside, Option.map_some]

theorem index?_small (sound : SoundNames names) {name : Text} {index : UInt8}
    (found : Registers.index? ⟨names⟩ name = some index) : index < 32 := by
  obtain ⟨i, first, rfl⟩ := Option.map_eq_some_iff.mp found
  obtain ⟨inside, -, -⟩ := List.idxOf?_eq_some_iff.mp first
  have small := sound.small_index inside
  rw [UInt8.lt_iff_toNat_lt, UInt8.toNat_ofNat_of_lt' (Nat.lt_trans small (by decide))]
  exact small

theorem name?_of_index? (sound : SoundNames names) {name : Text} {index : UInt8}
    (found : Registers.index? ⟨names⟩ name = some index) :
    Registers.name? ⟨names⟩ index = some name := by
  obtain ⟨i, first, rfl⟩ := Option.map_eq_some_iff.mp found
  obtain ⟨inside, same, -⟩ := List.idxOf?_eq_some_iff.mp first
  have small := sound.small_index inside
  rw [Registers.name?, UInt8.toNat_ofNat_of_lt' (Nat.lt_trans small (by decide)), List.getElem?_eq_getElem inside, same]

theorem index?_of_name? (sound : SoundNames names) {name : Text} {index : UInt8}
    (named : Registers.name? ⟨names⟩ index = some name) :
    Registers.index? ⟨names⟩ name = some index := by
  obtain ⟨inside, rfl⟩ := List.getElem?_eq_some_iff.mp named
  rw [sound.index?_getElem inside, UInt8.ofNat_toNat]

end SoundNames

end TableAsm
