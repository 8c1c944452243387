import TableAsm.Proofs.Text.Trimming

namespace TableAsm.Text

variable {separator : UInt8}

theorem splitAt_cons (separator b : UInt8) (t : Text) :
    splitAt separator (b :: t) =
      if b = separator then [] :: t.splitAt separator
      else (t.splitAt separator).modifyHead (b :: ·) := by
  by_cases same : b = separator <;> simp [Text.splitAt, same]

theorem splitAt_line {line : Text} (plain : separator ∉ line) (rest : Text) :
    splitAt separator (line ++ separator :: rest) = line :: rest.splitAt separator := by
  induction line with
  | nil => rw [List.nil_append, splitAt_cons, if_pos rfl]
  | cons b line ih =>
    rw [List.mem_cons, not_or] at plain
    rw [List.cons_append, splitAt_cons, if_neg (Ne.symm plain.1), ih plain.2, List.modifyHead_cons]

theorem splitAt_plain {t : Text} (plain : separator ∉ t) : splitAt separator t = [t] := by
  induction t with
  | nil => rfl
  | cons b t ih =>
    rw [List.mem_cons, not_or] at plain
    rw [splitAt_cons, if_neg (Ne.symm plain.1), ih plain.2, List.modifyHead_cons]

theorem split_induction (separator : UInt8) {motive : Text → Prop}
    (last : ∀ part, separator ∉ part → motive part)
    (part : ∀ part rest, separator ∉ part → motive rest → motive (part ++ separator :: rest))
    (t : Text) : motive t := by
  generalize size : t.length = n
  induction n using Nat.strongRecOn generalizing t with
  | ind n ih =>
    by_cases found : separator ∈ t
    · obtain ⟨front, rest, rfl, plain⟩ := List.eq_append_cons_of_mem found
      refine part front rest plain (ih rest.length ?_ rest rfl)
      rw [← size, List.length_append, List.length_cons]
      omega
    · exact last t found

theorem splitAt_ne_nil (separator : UInt8) (t : Text) : splitAt separator t ≠ [] := by
  induction t using split_induction separator with
  | last part plain => simp [splitAt_plain plain]
  | part part rest plain _ => simp [splitAt_line plain]

theorem eq_of_splitAt_eq_singleton {t only : Text} (split : splitAt separator t = [only]) : t = only := by
  induction t using split_induction separator with
  | last part plain =>
    rw [splitAt_plain plain] at split
    exact List.singleton_inj.mp split
  | part part rest plain _ =>
    rw [splitAt_line plain] at split
    exact absurd (List.cons.inj split).2 (splitAt_ne_nil separator rest)

section

variable (visible : 0x21 ≤ separator ∧ separator < 0x7f) {blank : Text} (all : AllBlank blank)

include visible all

theorem map_trim_splitAt_blank_append (t : Text) :
    (splitAt separator (blank ++ t)).map trim = (splitAt separator t).map trim := by
  have absent : separator ∉ blank := all.not_mem visible
  induction t using split_induction separator with
  | last part plain =>
    have both : separator ∉ blank ++ part := by simp [absent, plain]
    simp only [splitAt_plain plain, splitAt_plain both, List.map_singleton, all.trim_append]
  | part part rest plain _ =>
    have both : separator ∉ blank ++ part := by simp [absent, plain]
    rw [← List.append_assoc, splitAt_line plain, splitAt_line both, List.map_cons, List.map_cons,
      all.trim_append]

theorem map_trim_splitAt_append_blank (t : Text) :
    (splitAt separator (t ++ blank)).map trim = (splitAt separator t).map trim := by
  have absent : separator ∉ blank := all.not_mem visible
  induction t using split_induction separator with
  | last part plain =>
    have both : separator ∉ part ++ blank := by simp [absent, plain]
    simp only [splitAt_plain plain, splitAt_plain both, List.map_singleton, all.append_trim]
  | part part rest plain ih =>
    rw [List.append_assoc, List.cons_append, splitAt_line plain, splitAt_line plain, List.map_cons,
      List.map_cons, ih]

end

theorem map_trim_splitAt_trim (visible : 0x21 ≤ separator ∧ separator < 0x7f) (t : Text) :
    (splitAt separator t.trim).map trim = (splitAt separator t).map trim := by
  obtain ⟨before, after, opening, closing, whole⟩ := trim_between t
  conv_rhs => rw [whole]
  rw [map_trim_splitAt_blank_append visible opening, map_trim_splitAt_append_blank visible closing]

theorem mem_trim_iff {b : UInt8} (visible : 0x21 ≤ b ∧ b < 0x7f) (t : Text) : b ∈ t.trim ↔ b ∈ t := by
  obtain ⟨before, after, opening, closing, whole⟩ := trim_between t
  conv_rhs => rw [whole]
  simp [opening.not_mem visible, closing.not_mem visible]

end TableAsm.Text
