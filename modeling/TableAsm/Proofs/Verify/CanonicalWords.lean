import TableAsm.Proofs.Disassembly.Decoding
import TableAsm.Proofs.Word.Streams
import TableAsm.Verify.RoundTrip

namespace TableAsm

theorem ShowsAll.legible {registers : Registers} (like : ∀ name ∈ registers.names, NameLike name)
    {f : Fields} {slots : List Slot} {texts : List Text} (shown : ShowsAll registers f slots texts) :
    LegibleAll registers f slots texts := by
  refine List.Forall₂.imp ?_ shown
  intro slot text shown
  refine ⟨shown, ?_⟩
  intro register
  rw [Shows, if_pos register] at shown
  exact like text (List.mem_of_getElem? shown)

namespace Table

variable {t : Table}

theorem decodeWord_denotes (sound : t.Sound) (like : ∀ name ∈ t.registers.names, NameLike name)
    {word : Word} {decoded : Decoded} (ok : t.decodeWord word = .ok decoded)
    (mnemonic : LoneWord decoded.format.mnemonic) : t.Denotes decoded.text word.canonical := by
  obtain ⟨listed, -, keys, slots, texts, layout, shown, text⟩ := decodeWord_shows sound ok
  rw [text]
  exact denotes_joined sound listed layout keys (shown.legible like) mnemonic.toSourceWord
    mnemonic.starts fun _ => mnemonic.ends

theorem wordIssue?_eq_none_iff {offset : Nat} {word : Word} :
    t.wordIssue? offset word = none ↔
      (∃ decoded, t.decodeWord word = .ok decoded) ∧ word.canonical = word := by
  unfold wordIssue?
  cases ok : t.decodeWord word with
  | error failure => simp
  | ok decoded =>
    obtain ⟨format, text, -, -, rfl⟩ := decodeWord_eq_ok_iff.mp ok
    simp [Word.canonical]

theorem wordIssuesFrom_eq_nil_iff {offset : Nat} {words : List Word} :
    t.wordIssuesFrom offset words = [] ↔
      ∀ word ∈ words, (∃ decoded, t.decodeWord word = .ok decoded) ∧ word.canonical = word := by
  induction words generalizing offset with
  | nil => simp [wordIssuesFrom]
  | cons word words ih =>
    rw [wordIssuesFrom, List.append_eq_nil_iff, ih, Option.toList_eq_nil_iff, wordIssue?_eq_none_iff,
      List.forall_mem_cons]

theorem checkWords_eq_nil_iff {words : List Word} :
    t.checkWords { bytes := words.flatMap Word.bytes } = ([], none) ↔
      ∀ word ∈ words, (∃ decoded, t.decodeWord word = .ok decoded) ∧ word.canonical = word := by
  have checked : t.checkWords { bytes := words.flatMap Word.bytes } = (t.wordIssuesFrom 0 words, none) := by
    simp [checkWords, frames_words, wordEnd]
  rw [checked, Prod.mk.injEq, wordIssuesFrom_eq_nil_iff]
  exact and_iff_left rfl

end Table

theorem flatMap_bytes_injective {v w : List Word}
    (same : v.flatMap Word.bytes = w.flatMap Word.bytes) : v = w := by
  have framed := congrArg frames same
  rw [frames_words, frames_words] at framed
  exact congrArg Prod.fst framed

end TableAsm
