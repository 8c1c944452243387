import Mathlib.Data.List.Nodup
import TableAsm.Proofs.Word.Packing
import TableAsm.Proofs.Word.Streams

namespace TableAsm

namespace BitField

theorem layout_inside : ∀ f ∈ layout, f.Inside := by decide

theorem layout_apart : ∀ f ∈ layout, ∀ g ∈ layout, f ≠ g → f.Apart g := by decide

theorem layout_covers : ∀ i : Fin 64, ∃ f ∈ layout, f.shift ≤ i ∧ i < f.shift + f.width := by decide

theorem toNat_cut {f : BitField} (fits : f.width ≤ 64) (v : Word) :
    (v &&& f.mask).toNat = v.toNat % Nat.pow 2 f.width := by
  rw [BitVec.toNat_and, toNat_mask fits, Nat.pow_eq, Nat.and_two_pow_sub_one_eq_mod]

theorem get_put {f g : BitField} (first : f ∈ layout) (second : g ∈ layout) (w v : Word) :
    f.get (g.put w v) = if g = f then v &&& f.mask else f.get w := by
  by_cases same : g = f
  · rw [if_pos same, same, get_put_self (layout_inside f first)]
  · have apart := layout_apart f first g second (Ne.symm same)
    rw [if_neg same, get_put_apart (layout_inside f first) (layout_inside g second) apart]

theorem eq_of_get {v w : Word} (same : ∀ f ∈ layout, f.get v = f.get w) : v = w := by
  apply BitVec.eq_of_getLsbD_eq
  intro i small
  obtain ⟨f, listed, low, high⟩ := layout_covers ⟨i, small⟩
  simp only at low high
  have inside := layout_inside f listed
  have offset : i - f.shift < f.width := by omega
  have back : f.shift + (i - f.shift) = i := by omega
  have bits := congrArg (BitVec.getLsbD · (i - f.shift)) (same f listed)
  simpa [getLsbD_get inside, offset, back] using bits

theorem put_comm {f g : BitField} (first : f ∈ layout) (second : g ∈ layout) (differ : f ≠ g)
    (w u v : Word) : f.put (g.put w v) u = g.put (f.put w u) v := by
  apply eq_of_get
  intro h listed
  simp only [get_put listed first, get_put listed second]
  by_cases left : f = h
  · have right : g ≠ h := fun same => differ (left.trans same.symm)
    rw [if_pos left, if_neg right, if_pos left]
  · rw [if_neg left, if_neg left]

/-- The word after fields are set in order. -/
def putAll (w : Word) (puts : List (BitField × Word)) : Word :=
  puts.foldl (fun w put => put.1.put w put.2) w

theorem get_putAll {f : BitField} (listed : f ∈ layout) (w : Word) {puts : List (BitField × Word)}
    (known : ∀ put ∈ puts, put.1 ∈ layout) :
    f.get (putAll w puts) =
      match puts.reverse.find? fun put => put.1 = f with
      | some put => put.2 &&& f.mask
      | none => f.get w := by
  induction puts generalizing w with
  | nil => rfl
  | cons put rest ih =>
    obtain ⟨first, others⟩ := List.forall_mem_cons.mp known
    have later := ih (put.1.put w put.2) others
    rw [List.reverse_cons, List.find?_append]
    cases found : rest.reverse.find? fun put => put.1 = f with
    | some last =>
      rw [found] at later
      exact later
    | none =>
      simp only [found, get_put listed first] at later
      rw [putAll, List.foldl_cons, ← putAll, later]
      by_cases same : put.1 = f
      · simp [same]
      · simp [same]

theorem putAll_perm {puts others : List (BitField × Word)} (known : ∀ put ∈ puts, put.1 ∈ layout)
    (distinct : (puts.map Prod.fst).Nodup) (reordered : puts.Perm others) (w : Word) :
    putAll w others = putAll w puts := by
  refine (reordered.foldl_eq' ?_ w).symm
  intro first member second among current
  by_cases same : first = second
  · rw [same]
  · have differ : second.1 ≠ first.1 :=
      fun equal => same (List.inj_on_of_nodup_map distinct member among equal.symm)
    exact put_comm (known second among) (known first member) differ current second.2 first.2

end BitField

namespace Fields

theorem get_narrowed {f : BitField} (inside : f.Inside) {n : Nat} (narrow : f.width ≤ n) (w : Word) :
    ((f.get w).setWidth n).setWidth 64 &&& f.mask = f.get w := by
  have bound : f.shift + f.width ≤ 64 := inside
  apply BitVec.eq_of_getLsbD_eq
  intro i small
  rw [BitVec.getLsbD_and, BitField.getLsbD_mask (by omega), BitVec.getLsbD_setWidth,
    BitVec.getLsbD_setWidth, BitField.getLsbD_get inside]
  by_cases low : i < f.width
  · have kept : i < n := by omega
    simp [low, kept, small]
  · simp [low]

theorem encode_decode (w : Word) : (decode w).encode = w := by
  apply BitField.eq_of_get
  simp (disch := decide) only [BitField.layout, List.forall_mem_cons, encode, decode, byteOf,
    BitField.get_put_apart, BitField.get_put_self, get_narrowed]
  simp

theorem decode_fits (w : Word) : (decode w).Fits := by
  rw [fits_iff_decode_encode, encode_decode]

end Fields

/-- Unpacking loses nothing and packing only what does not fit in its field. Putting a value into a
field cuts it to the field's width and leaves the other six alone; after any number of puts a field
holds what came last, and puts into different fields may change places. A word is read back from
behind any bytes that it was appended to. -/
theorem Word.codec_exact :
    (∀ w : Word, (Fields.decode w).encode = w) ∧
      (∀ f : Fields, Fields.decode f.encode =
        { f with
          mask := ⟨f.mask.bits % 16⟩
          group := f.group % 32
          rd := f.rd % 32
          rs1 := f.rs1 % 32
          rs2 := f.rs2 % 32 }) ∧
      (∀ f ∈ BitField.layout, ∀ w v : Word,
        (f.get (f.put w v)).toNat = v.toNat % Nat.pow 2 f.width ∧
          ∀ g ∈ BitField.layout, g ≠ f → g.get (f.put w v) = g.get w) ∧
      (∀ (w : Word) (puts : List (BitField × Word)), (∀ put ∈ puts, put.1 ∈ BitField.layout) →
        (∀ f ∈ BitField.layout, (f.get (BitField.putAll w puts)).toNat =
          match puts.reverse.find? fun put => put.1 = f with
          | some put => put.2.toNat % Nat.pow 2 f.width
          | none => (f.get w).toNat) ∧
        ((puts.map Prod.fst).Nodup → ∀ others, puts.Perm others →
          BitField.putAll w others = BitField.putAll w puts)) ∧
      ∀ (front : Text) (w : Word), Word.ofBytes ((front ++ w.bytes).drop front.length) = w := by
  have fits : ∀ f ∈ BitField.layout, f.width ≤ 64 := by decide
  refine ⟨Fields.encode_decode, Fields.decode_encode_cut, ?_, ?_, ?_⟩
  · intro f listed w v
    refine ⟨?_, ?_⟩
    · rw [BitField.get_put listed listed, if_pos rfl, BitField.toNat_cut (fits f listed)]
    · intro g other differ
      rw [BitField.get_put other listed, if_neg (Ne.symm differ)]
  · intro w puts known
    refine ⟨?_, fun distinct others reordered => BitField.putAll_perm known distinct reordered w⟩
    intro f listed
    rw [BitField.get_putAll listed w known]
    cases puts.reverse.find? fun put => put.1 = f with
    | some put => exact BitField.toNat_cut (fits f listed) put.2
    | none => rfl
  · intro front w
    rw [List.drop_left, Word.ofBytes_bytes]

end TableAsm
