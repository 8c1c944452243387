import TableAsm.Proofs.Source.Lines

namespace TableAsm

def beforeComment (raw : Text) : Text := raw.takeWhile (· != commentMark)

theorem linePieces_eq (raw : Text) : linePieces raw = gapSeparated (beforeComment raw).trim := rfl

theorem beforeComment_append (front back : Text) :
    beforeComment (front ++ back) =
      if commentMark ∈ front then beforeComment front else front ++ beforeComment back := by
  induction front with
  | nil => simp
  | cons b front ih =>
    unfold beforeComment at ih ⊢
    rw [List.cons_append, List.takeWhile_cons, List.takeWhile_cons, ih]
    by_cases mark : b = commentMark
    · simp [mark]
    · have differ : (b != commentMark) = true := by simpa using mark
      by_cases later : commentMark ∈ front <;> simp [differ, later, Ne.symm mark]

theorem beforeComment_eq_self {t : Text} (plain : commentMark ∉ t) : beforeComment t = t := by
  have whole := beforeComment_append t []
  rw [if_neg plain] at whole
  simpa [beforeComment] using whole

theorem Gaps.plain {run : Text} (gaps : Gaps run) : commentMark ∉ run := by
  intro member
  have gap := gaps commentMark member
  exact absurd gap (by decide)

theorem Gaps.beforeComment_append {run : Text} (gaps : Gaps run) (back : Text) :
    beforeComment (run ++ back) = run ++ beforeComment back := by
  rw [TableAsm.beforeComment_append, if_neg gaps.plain]

theorem beforeComment_comment (raw remark : Text) :
    beforeComment (raw ++ commentMark :: remark) = beforeComment raw := by
  rw [beforeComment_append]
  split
  · rfl
  · rename_i plain
    rw [beforeComment_eq_self plain]
    simp [beforeComment]

theorem linePieces_comment (raw remark : Text) :
    linePieces (raw ++ commentMark :: remark) = linePieces raw := by
  rw [linePieces_eq, linePieces_eq, beforeComment_comment]

theorem linePieces_gaps_append {run : Text} (gaps : Gaps run) (raw : Text) :
    linePieces (run ++ raw) = linePieces raw := by
  rw [linePieces_eq, gaps.beforeComment_append, gaps.allBlank.trim_append, linePieces_eq]

theorem linePieces_append_gaps {run : Text} (gaps : Gaps run) (raw : Text) :
    linePieces (raw ++ run) = linePieces raw := by
  rw [linePieces_eq, linePieces_eq, beforeComment_append]
  split
  · rfl
  · rename_i plain
    rw [beforeComment_eq_self gaps.plain, beforeComment_eq_self plain, gaps.allBlank.append_trim]

/-- Which gaps stand in one place of a line makes no difference, be it between tokens, around them or
in a comment. -/
theorem linePieces_gaps_between {run other : Text} (gaps : Gaps run) (gaps' : Gaps other)
    (some : run ≠ []) (some' : other ≠ []) (front back : Text) :
    linePieces (front ++ (run ++ back)) = linePieces (front ++ (other ++ back)) := by
  rw [linePieces_eq, linePieces_eq, beforeComment_append front, beforeComment_append front]
  split
  · rfl
  · rw [gaps.beforeComment_append, gaps'.beforeComment_append]
    exact gapSeparated_trim_gaps gaps gaps' some some' front _

def BlankLine (line : Text) : Prop := ∀ r ∈ (beforeComment line).runes, r.isBlank = true

instance (line : Text) : Decidable (BlankLine line) :=
  inferInstanceAs (Decidable (∀ r ∈ (beforeComment line).runes, r.isBlank = true))

theorem BlankLine.parsed {line : Text} (blank : BlankLine line) : parseLine line = .ok none := by
  have nothing : (beforeComment line).trim = [] := by
    have around := Rune.solidPart_blank_append blank []
    rw [List.append_nil] at around
    rw [Text.trim_eq_solidPart, around]
    rfl
  rw [parseLine_eq_ok_iff, linePieces_eq, nothing]
  rfl

end TableAsm
