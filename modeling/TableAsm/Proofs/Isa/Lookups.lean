import TableAsm.Proofs.Isa.Drafts

namespace TableAsm

namespace Table

/-- What is known of a table that was built. -/
structure Sound (t : Table) : Prop where
  names : SoundNames t.registers.names
  formats : SoundFormats t.formats

variable {t : Table}

theorem sound_of_build {d : Draft} (built : d.build = .ok t) : t.Sound := by
  obtain ⟨names, formats, rfl⟩ := Draft.build_eq_ok_iff.mp built
  exact ⟨names, formats⟩

theorem ofMnemonic_eq_ok {mnemonic : Text} {f : Format} (found : t.ofMnemonic mnemonic = .ok f) :
    f ∈ t.formats ∧ f.mnemonic = mnemonic := by
  unfold ofMnemonic at found
  split at found
  · rename_i g first
    cases found
    exact ⟨List.mem_of_find?_eq_some first, by simpa using List.find?_some first⟩
  · cases found

theorem ofKey_eq_ok {key : Encoding} {f : Format} (found : t.ofKey key = .ok f) :
    f ∈ t.formats ∧ f.key = key := by
  unfold ofKey at found
  split at found
  · rename_i g single
    cases found
    have member : f ∈ t.withKey key := by rw [single]; exact List.mem_cons_self
    simpa [withKey] using member
  · cases found
  · cases found

theorem ofMnemonic_mnemonic (sound : t.Sound) {f : Format} (member : f ∈ t.formats) :
    t.ofMnemonic f.mnemonic = .ok f := by
  have some : (t.formats.find? fun g => g.mnemonic == f.mnemonic).isSome = true := by
    rw [List.find?_isSome]
    exact ⟨f, member, by simp⟩
  obtain ⟨g, first⟩ := Option.isSome_iff_exists.mp some
  have same : g.mnemonic = f.mnemonic := by simpa using List.find?_some first
  have equal := List.inj_on_of_nodup_map sound.formats.mnemonics (List.mem_of_find?_eq_some first) member same
  rw [ofMnemonic, first, equal]

theorem withKey_key (sound : t.Sound) {f : Format} (member : f ∈ t.formats) :
    t.withKey f.key = [f] := by
  have within : f ∈ t.withKey f.key := by simpa [withKey] using member
  have equal : ∀ g ∈ t.withKey f.key, g = f := by
    intro g among
    obtain ⟨listed, same⟩ := List.mem_filter.mp among
    exact List.inj_on_of_nodup_map sound.formats.keys listed member (by simpa using same)
  have distinct : (t.withKey f.key).Nodup := (List.Nodup.of_map _ sound.formats.keys).filter _
  obtain ⟨g, rest, list⟩ := List.exists_cons_of_ne_nil (List.ne_nil_of_mem within)
  rw [list] at equal distinct ⊢
  have first := equal g List.mem_cons_self
  subst first
  -- A second format with the key would be the same one again.
  cases rest with
  | nil => rfl
  | cons h rest =>
    have second := equal h (by simp)
    subst second
    simp at distinct

theorem ofKey_key (sound : t.Sound) {f : Format} (member : f ∈ t.formats) :
    t.ofKey f.key = .ok f := by
  rw [ofKey, withKey_key sound member]

/-- The format at a position of the table has the key. -/
def HoldsKey (t : Table) (key : Encoding) (i : Nat) : Prop := ∃ f, t.formats[i]? = some f ∧ f.key = key

section

variable {key : Encoding}

theorem withKey_eq_nil_iff : t.withKey key = [] ↔ ∀ i, ¬ t.HoldsKey key i := by
  rw [withKey, List.filter_eq_nil_iff]
  constructor
  · rintro none i ⟨f, at_i, same⟩
    exact none f (List.mem_of_getElem? at_i) (by simpa using same)
  · intro none f listed same
    obtain ⟨i, inside, rfl⟩ := List.getElem_of_mem listed
    exact none i ⟨_, List.getElem?_eq_getElem inside, by simpa using same⟩

theorem withKey_eq_cons {f : Format} {others : List Format} (found : t.withKey key = f :: others) :
    ∃ front back, t.formats = front ++ f :: back ∧ t.HoldsKey key front.length ∧
      (∀ g ∈ front, g.key ≠ key) ∧ back.filter (fun g => g.key == key) = others := by
  obtain ⟨front, back, whole, none, same, rest⟩ := List.filter_eq_cons_iff.mp found
  have place : t.formats[front.length]? = some f := by simp [whole]
  exact ⟨front, back, whole, ⟨f, place, by simpa using same⟩, by simpa using none, rest⟩

theorem holdsKey_single {f : Format} (found : t.withKey key = [f]) :
    ∃ i, t.formats[i]? = some f ∧ ∀ j, t.HoldsKey key j ↔ j = i := by
  obtain ⟨front, back, whole, holds, before, rest⟩ := withKey_eq_cons found
  have behind : ∀ g ∈ back, g.key ≠ key := by simpa using rest
  refine ⟨front.length, by simp [whole], ?_⟩
  intro j
  constructor
  · rintro ⟨g, at_j, same⟩
    rw [whole] at at_j
    by_contra differ
    rcases Nat.lt_or_gt_of_ne differ with early | late
    · rw [List.getElem?_append_left early] at at_j
      exact before g (List.mem_of_getElem? at_j) same
    · obtain ⟨k, rfl⟩ := Nat.exists_eq_add_of_lt late
      have at_k : back[k]? = some g := by
        rwa [List.getElem?_append_right (by omega), Nat.add_assoc, Nat.add_sub_cancel_left] at at_j
      exact behind g (List.mem_of_getElem? at_k) same
  · rintro rfl
    exact holds

theorem holdsKey_several {f g : Format} {others : List Format}
    (found : t.withKey key = f :: g :: others) : ∃ i j, i < j ∧ t.HoldsKey key i ∧ t.HoldsKey key j := by
  obtain ⟨front, back, whole, holds, -, rest⟩ := withKey_eq_cons found
  have later : g ∈ back.filter fun g => g.key == key := by rw [rest]; exact List.mem_cons_self
  obtain ⟨listed, same⟩ := List.mem_filter.mp later
  obtain ⟨k, inside, rfl⟩ := List.getElem_of_mem listed
  refine ⟨front.length, front.length + (k + 1), by omega, holds, back[k], ?_, by simpa using same⟩
  rw [whole, List.getElem?_append_right (Nat.le_add_right _ _), Nat.add_sub_cancel_left,
    List.getElem?_cons_succ, List.getElem?_eq_getElem inside]

theorem ofKey_by_holders (t : Table) (key : Encoding) :
    (∃ e, t.ofKey key = .error e ∧ e.kind? = some .unknownEncoding ∧ ∀ i, ¬ t.HoldsKey key i) ∨
      (∃ f i, t.ofKey key = .ok f ∧ t.formats[i]? = some f ∧ ∀ j, t.HoldsKey key j ↔ j = i) ∨
      ∃ e i j, t.ofKey key = .error e ∧ e.kind? = some .ambiguousEncoding ∧ i < j ∧
        t.HoldsKey key i ∧ t.HoldsKey key j := by
  rw [ofKey]
  cases found : t.withKey key with
  | nil => exact .inl ⟨_, rfl, rfl, withKey_eq_nil_iff.mp found⟩
  | cons f others =>
    cases others with
    | nil =>
      obtain ⟨i, place, only⟩ := holdsKey_single found
      exact .inr (.inl ⟨f, i, rfl, place, only⟩)
    | cons g others =>
      obtain ⟨i, j, before, first, second⟩ := holdsKey_several found
      exact .inr (.inr ⟨_, i, j, rfl, rfl, before, first, second⟩)

theorem ofKey_eq_ok_iff {f : Format} :
    t.ofKey key = .ok f ↔ ∃ i, t.formats[i]? = some f ∧ ∀ j, t.HoldsKey key j ↔ j = i := by
  rcases t.ofKey_by_holders key with
    ⟨e, refused, -, none⟩ | ⟨g, i, found, place, only⟩ | ⟨e, i, j, refused, -, before, first, second⟩
  · rw [refused]
    simp only [reduceCtorEq, false_iff]
    rintro ⟨i, -, only⟩
    exact none i ((only i).mpr rfl)
  · rw [found, Except.ok.injEq]
    constructor
    · rintro rfl
      exact ⟨i, place, only⟩
    · rintro ⟨j, other, same⟩
      have equal := (only j).mp ((same j).mpr rfl)
      rw [equal, place] at other
      exact Option.some.inj other
  · rw [refused]
    simp only [reduceCtorEq, false_iff]
    rintro ⟨k, -, only⟩
    have equal := ((only i).mp first).trans ((only j).mp second).symm
    omega

theorem ofKey_ambiguous_iff :
    (∃ e, t.ofKey key = .error e ∧ e.kind? = some .ambiguousEncoding) ↔
      ∃ i j, i < j ∧ t.HoldsKey key i ∧ t.HoldsKey key j := by
  rcases t.ofKey_by_holders key with
    ⟨e, refused, unknown, none⟩ | ⟨g, k, found, -, only⟩ | ⟨e, i, j, refused, kind, before, first, second⟩
  · simp [refused, unknown, none]
  · simp only [found, reduceCtorEq, false_and, exists_false, false_iff, only]
    rintro ⟨i, j, before, rfl, rfl⟩
    omega
  · exact iff_of_true ⟨e, refused, kind⟩ ⟨i, j, before, first, second⟩

theorem ofKey_unknown_iff :
    (∃ e, t.ofKey key = .error e ∧ e.kind? = some .unknownEncoding) ↔ ∀ i, ¬ t.HoldsKey key i := by
  rcases t.ofKey_by_holders key with
    ⟨e, refused, unknown, none⟩ | ⟨g, k, found, -, only⟩ | ⟨e, i, j, refused, kind, before, first, second⟩
  · exact iff_of_true ⟨e, refused, unknown⟩ none
  · simp [found, only]
  · refine iff_of_false ?_ fun none => none i first
    simp [refused, kind]

theorem ofMnemonic_eq_ok_iff {mnemonic : Text} {f : Format} :
    t.ofMnemonic mnemonic = .ok f ↔
      ∃ i : Nat, t.formats[i]? = some f ∧ f.mnemonic = mnemonic ∧
        ∀ j < i, ∀ g : Format, t.formats[j]? = some g → g.mnemonic ≠ mnemonic := by
  have unfolded : t.ofMnemonic mnemonic = .ok f ↔
      t.formats.find? (fun f => f.mnemonic == mnemonic) = some f := by
    rw [ofMnemonic]
    cases t.formats.find? fun f => f.mnemonic == mnemonic <;> simp
  rw [unfolded, List.find?_eq_some_iff_getElem]
  constructor
  · rintro ⟨same, i, inside, rfl, before⟩
    refine ⟨i, List.getElem?_eq_getElem inside, by simpa using same, ?_⟩
    intro j early g at_j
    obtain ⟨_, rfl⟩ := List.getElem?_eq_some_iff.mp at_j
    simpa using before j early
  · rintro ⟨i, at_i, same, before⟩
    obtain ⟨inside, rfl⟩ := List.getElem?_eq_some_iff.mp at_i
    refine ⟨by simpa using same, i, inside, rfl, ?_⟩
    intro j early
    simpa using before j early _ (List.getElem?_eq_getElem (by omega))

theorem ofMnemonic_unknown_iff {mnemonic : Text} :
    (∃ e, t.ofMnemonic mnemonic = .error e) ↔ ∀ f ∈ t.formats, f.mnemonic ≠ mnemonic := by
  rw [ofMnemonic]
  cases found : t.formats.find? fun f => f.mnemonic == mnemonic with
  | none => simpa using found
  | some f =>
    have listed := List.mem_of_find?_eq_some found
    have same := List.find?_some found
    simp only [reduceCtorEq, exists_false, false_iff]
    intro none
    exact none f listed (by simpa using same)

end

end Table

end TableAsm
