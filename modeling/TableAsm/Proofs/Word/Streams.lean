import TableAsm.Disassembly.Disassemble

namespace TableAsm

theorem littleEndian_eq_map (count value : Nat) :
    littleEndian count value = (List.range count).map fun k => UInt8.ofNat (value / Nat.pow 256 k) := by
  induction count generalizing value with
  | zero => rfl
  | succ count ih =>
    have low : UInt8.ofNat (value % 256) = UInt8.ofNat (value / Nat.pow 256 0) := by
      rw [Nat.pow_eq, Nat.pow_zero, Nat.div_one, UInt8.ofNat_eq_iff_mod_eq_toNat, UInt8.toNat_ofNat']
      exact Nat.mod_mod value 256
    have high (k : Nat) : value / 256 / Nat.pow 256 k = value / Nat.pow 256 (k + 1) := by
      rw [Nat.pow_eq, Nat.pow_eq, Nat.pow_succ', Nat.div_div_eq_div_mul]
    rw [littleEndian, ih, List.range_succ_eq_map, List.map_cons, List.map_map, low]
    simp only [high, Function.comp_def]

theorem length_littleEndian (count value : Nat) : (littleEndian count value).length = count := by
  rw [littleEndian_eq_map, List.length_map, List.length_range]

theorem littleEndianValue_littleEndian (count value : Nat) :
    littleEndianValue (littleEndian count value) = value % Nat.pow 256 count := by
  induction count generalizing value with
  | zero => exact (Nat.mod_one value).symm
  | succ count ih =>
    have low : (UInt8.ofNat (value % 256)).toNat = value % 256 := by
      rw [UInt8.toNat_ofNat']
      omega
    have split : value % Nat.pow 256 (count + 1) = value % 256 + 256 * (value / 256 % Nat.pow 256 count) := by
      rw [Nat.pow_eq, Nat.pow_eq, Nat.pow_succ, Nat.mul_comm, Nat.mod_mul]
    rw [littleEndian, littleEndianValue, ih, low, split]

theorem littleEndian_littleEndianValue (bytes : Text) :
    littleEndian bytes.length (littleEndianValue bytes) = bytes := by
  induction bytes with
  | nil => rfl
  | cons b rest ih =>
    have small := b.toNat_lt
    have low : (b.toNat + 256 * littleEndianValue rest) % 256 = b.toNat := by omega
    have high : (b.toNat + 256 * littleEndianValue rest) / 256 = littleEndianValue rest := by omega
    rw [List.length_cons, littleEndianValue, littleEndian, low, high, ih, UInt8.ofNat_toNat]

theorem littleEndianValue_lt (bytes : Text) :
    littleEndianValue bytes < Nat.pow 256 bytes.length := by
  have whole := littleEndianValue_littleEndian bytes.length (littleEndianValue bytes)
  rw [littleEndian_littleEndianValue] at whole
  rw [whole]
  exact Nat.mod_lt _ (Nat.pow_pos (by decide))

namespace Word

theorem bytes_eq_map (w : Word) :
    bytes w = (List.range 8).map fun k => UInt8.ofBitVec ((w >>> (8 * k)).setWidth 8) := by
  rw [bytes, littleEndian_eq_map]
  apply List.map_congr_left
  intro k _
  apply UInt8.toNat_inj.mp
  rw [UInt8.toNat_ofNat', UInt8.toNat_ofBitVec, BitVec.toNat_setWidth, BitVec.toNat_ushiftRight,
    Nat.shiftRight_eq_div_pow, Nat.pow_mul]
  rfl

theorem length_bytes (w : Word) : (bytes w).length = wordSize := length_littleEndian _ _

theorem length_flatMap_bytes (words : List Word) :
    (words.flatMap bytes).length = wordSize * words.length := by
  induction words with
  | nil => rfl
  | cons w rest ih =>
    rw [List.flatMap_cons, List.length_append, length_bytes, ih, List.length_cons, Nat.mul_succ,
      Nat.add_comm]

theorem ofBytes_bytes (w : Word) : ofBytes (bytes w) = w := by
  have whole : (bytes w).take wordSize = bytes w := List.take_of_length_le (Nat.le_of_eq (length_bytes w))
  have value : littleEndianValue (bytes w) = w.toNat := by
    rw [bytes, littleEndianValue_littleEndian]
    exact Nat.mod_eq_of_lt w.isLt
  rw [ofBytes, whole, value, BitVec.ofNat_toNat, BitVec.setWidth_eq]

theorem bytes_ofBytes {t : Text} (length : t.length = wordSize) : bytes (ofBytes t) = t := by
  have whole : t.take wordSize = t := List.take_of_length_le (Nat.le_of_eq length)
  have bound := littleEndianValue_lt t
  rw [length] at bound
  have value : (ofBytes t).toNat = littleEndianValue t := by
    rw [ofBytes, whole, BitVec.toNat_ofNat]
    exact Nat.mod_eq_of_lt bound
  rw [bytes, value, ← length, littleEndian_littleEndianValue]

end Word

theorem frames_bytes_append (w : Word) (rest : Text) :
    frames (w.bytes ++ rest) = (w :: (frames rest).1, (frames rest).2) := by
  have back := Word.ofBytes_bytes w
  -- The eight bytes one by one, as the stream takes them.
  simp only [Word.bytes, wordSize, littleEndian] at back ⊢
  simp only [List.cons_append, List.nil_append, frames, back]

theorem frames_words_append (words : List Word) (rest : Text) :
    frames (words.flatMap Word.bytes ++ rest) = (words ++ (frames rest).1, (frames rest).2) := by
  induction words with
  | nil => rfl
  | cons w words ih => rw [List.flatMap_cons, List.append_assoc, frames_bytes_append, ih, List.cons_append]

theorem frames_words (words : List Word) : frames (words.flatMap Word.bytes) = (words, []) := by
  simpa [frames] using frames_words_append words []

theorem frames_spec (t : Text) : t = (frames t).1.flatMap Word.bytes ++ (frames t).2 := by
  fun_induction frames t with
  | case1 a b c d e f g h rest words left framed ih =>
    have eight := Word.bytes_ofBytes (t := [a, b, c, d, e, f, g, h]) rfl
    rw [framed] at ih
    rw [List.flatMap_cons, eight, List.append_assoc, ← ih]
    rfl
  | case2 => rfl

theorem frames_append {x : Text} (whole : (frames x).2 = []) (y : Text) :
    frames (x ++ y) = ((frames x).1 ++ (frames y).1, (frames y).2) := by
  have stream := frames_spec x
  rw [whole, List.append_nil] at stream
  rw [← frames_words_append, ← stream]

theorem frames_short {t : Text} (short : t.length < wordSize) : frames t = ([], t) := by
  unfold frames
  split
  · simp only [List.length_cons, wordSize] at short
    omega
  · rfl

theorem frames_long {t : Text} (long : wordSize ≤ t.length) :
    frames t = (Word.ofBytes t :: (frames (t.drop wordSize)).1, (frames (t.drop wordSize)).2) := by
  have eight : (t.take wordSize).length = wordSize := List.length_take_of_le long
  have same : Word.ofBytes (t.take wordSize) = Word.ofBytes t := by
    rw [Word.ofBytes, List.take_take, Nat.min_self, ← Word.ofBytes]
  have first : (Word.ofBytes t).bytes = t.take wordSize := by
    rw [← same, Word.bytes_ofBytes eight]
  have whole := frames_bytes_append (Word.ofBytes t) (t.drop wordSize)
  rwa [first, List.take_append_drop] at whole

theorem frames_eq (t : Text) :
    frames t =
      ((List.range (t.length / wordSize)).map fun k => Word.ofBytes (t.drop (wordSize * k)),
        t.drop (wordSize * (t.length / wordSize))) := by
  generalize size : t.length = n
  induction n using Nat.strongRecOn generalizing t with
  | ind n ih =>
    subst size
    by_cases short : t.length < wordSize
    · rw [frames_short short, Nat.div_eq_of_lt short]
      rfl
    · have long := Nat.not_lt.mp short
      have count : t.length / wordSize = (t.drop wordSize).length / wordSize + 1 := by
        rw [List.length_drop, Nat.div_eq_sub_div (by decide) long]
      have shorter : (t.drop wordSize).length < t.length := by
        have positive : 0 < wordSize := by decide
        rw [List.length_drop]
        omega
      rw [frames_long long, ih _ shorter (t.drop wordSize) rfl, count, List.range_succ_eq_map]
      simp [List.drop_drop, Nat.mul_succ, Nat.add_comm, Function.comp_def]

theorem frames_getElem?_eq_some_iff {bytes : Text} {k : Nat} {word : Word} :
    (frames bytes).1[k]? = some word ↔
      k < bytes.length / wordSize ∧ word = Word.ofBytes (bytes.drop (wordSize * k)) := by
  simp only [frames_eq, List.getElem?_eq_some_iff, List.length_map, List.length_range,
    List.getElem_map, List.getElem_range, exists_prop]
  exact and_congr_right fun _ => eq_comm

theorem length_frames_words (bytes : Text) : (frames bytes).1.length = bytes.length / wordSize := by
  rw [frames_eq, List.length_map, List.length_range]

theorem length_frames_rest (bytes : Text) : (frames bytes).2.length = bytes.length % wordSize := by
  rw [frames_eq, List.length_drop]
  have split := Nat.div_add_mod bytes.length wordSize
  omega

theorem frames_rest_ne_nil_iff {bytes : Text} :
    (frames bytes).2 ≠ [] ↔ bytes.length % wordSize ≠ 0 := by
  rw [← length_frames_rest, ne_eq, ne_eq, List.length_eq_zero_iff]

end TableAsm
