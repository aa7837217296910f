import AdvisoryFeed.Text.Blank
import AdvisoryFeed.Text.Lines
import Mathlib.Data.List.Basic
import Mathlib.Data.List.Induction

/-!
# Where a line stands

A text falls into lines piece by piece: what stands up to the end of a line has its lines, and the
rest has the others (`lines_append`), unless the end of the line is torn in two between them. So a
stretch without line ends that begins where a line begins is the front of a line
(`exists_line_of_inLine`).
-/

namespace AdvisoryFeed.Text

/-- The piece ends with the end of a line, or is empty. -/
def EndsLine (s : List Char) : Prop :=
  ∀ c ∈ s.getLast?, isLineEnd c = true

instance (s : List Char) : Decidable (EndsLine s) :=
  decidable_of_iff (s.getLast?.all isLineEnd = true) (Option.all_eq_true _ _)

/-- There is no line end in the piece. -/
def InLine (s : List Char) : Prop :=
  ∀ c ∈ s, isLineEnd c = false

instance (s : List Char) : Decidable (InLine s) :=
  decidable_of_iff (s.any isLineEnd = false) (by simp [InLine])

section Pieces

/-- A line end is a blank. -/
theorem isLineEnd_of_not_isBlank {c : Char} (h : isBlank c = false) : isLineEnd c = false := by
  rw [isBlank, Spans.has, List.any_eq_false] at h
  simp only [blankSpans, List.forall_mem_cons, Bool.and_eq_true, decide_eq_true_eq] at h
  rw [Bool.eq_false_iff, isLineEnd]
  simp only [ne_eq, Bool.or_eq_true, Bool.and_eq_true, decide_eq_true_eq, beq_iff_eq]
  omega

theorem InLine.append {s t : List Char} (hs : InLine s) (ht : InLine t) : InLine (s ++ t) :=
  List.forall_mem_append.2 ⟨hs, ht⟩

theorem EndsLine.tail {c : Char} {s : List Char} (h : EndsLine (c :: s)) : EndsLine s := by
  cases s with
  | nil => exact fun d hd => absurd hd (by simp)
  | cons d s =>
    rw [EndsLine, List.getLast?_cons_cons] at h
    exact h

theorem InLine.head?_ne {s : List Char} (h : InLine s) : s.head? ≠ some '\n' := by
  intro hhead
  have hend : isLineEnd '\n' = false := h '\n' (List.mem_of_mem_head? hhead)
  exact absurd hend (by decide)

/-- Behind the last line end of a text begins the line in which it stops. -/
theorem exists_lineStart (s : List Char) :
    ∃ ended rest, s = ended ++ rest ∧ EndsLine ended ∧ InLine rest := by
  induction s using List.reverseRecOn with
  | nil => exact ⟨[], [], rfl, by simp [EndsLine], by simp [InLine]⟩
  | append_singleton s c ih =>
    cases hc : isLineEnd c with
    | true => exact ⟨s ++ [c], [], by simp, by simpa [EndsLine] using hc, by simp [InLine]⟩
    | false =>
      obtain ⟨ended, rest, rfl, hended, hrest⟩ := ih
      refine ⟨ended, rest ++ [c], by simp, hended, ?_⟩
      intro d hd
      rcases List.mem_append.1 hd with hd | hd
      · exact hrest d hd
      · rw [List.mem_singleton.1 hd]
        exact hc

end Pieces

section Lines

theorem consLine_append {c : Char} {front : List (List Char)} (h : front ≠ [])
    (back : List (List Char)) : consLine c (front ++ back) = consLine c front ++ back := by
  obtain ⟨line, rest, rfl⟩ := List.exists_cons_of_ne_nil h
  rfl

theorem consLine_ne_nil (c : Char) (rest : List (List Char)) : consLine c rest ≠ [] := by
  cases rest <;> exact List.cons_ne_nil _ _

/-- Only the empty text has no lines. -/
theorem lines_ne_nil {s : List Char} (h : s ≠ []) : lines s ≠ [] := by
  cases s using lines.fun_cases with
  | case1 => exact absurd rfl h
  | case2 s =>
    rw [lines]
    exact List.cons_ne_nil _ _
  | case3 c s hpair hc =>
    rw [lines.eq_3 c s hpair, if_pos hc]
    exact List.cons_ne_nil _ _
  | case4 c s hpair hc =>
    rw [lines.eq_3 c s hpair, if_neg hc]
    exact consLine_ne_nil c _

/-- A text falls into lines piece by piece. -/
theorem lines_append {s t : List Char} (hend : EndsLine s) (hnext : t.head? ≠ some '\n') :
    lines (s ++ t) = lines s ++ lines t := by
  -- What follows a character makes no one line end with it, if the rest of the piece does not.
  have hpair : ∀ {c : Char} {s : List Char},
      (∀ rest, c = '\r' → s = '\n' :: rest → False) →
      ∀ rest, c = '\r' → s ++ t = '\n' :: rest → False := by
    intro c s h rest hc happend
    cases s with
    | nil =>
      rw [List.nil_append] at happend
      rw [happend] at hnext
      exact hnext rfl
    | cons d s =>
      obtain ⟨rfl, -⟩ := List.cons.inj happend
      exact h s hc rfl
  induction s using lines.induct with
  | case1 => rfl
  | case2 s ih =>
    rw [List.cons_append, List.cons_append, lines, lines, ih hend.tail.tail, List.cons_append]
  | case3 c s h hc ih =>
    rw [List.cons_append, lines.eq_3 c _ (hpair h), lines.eq_3 c s h, if_pos hc, if_pos hc,
      ih hend.tail, List.cons_append]
  | case4 c s h hc ih =>
    have hne : s ≠ [] := by
      rintro rfl
      exact hc (hend c rfl)
    rw [List.cons_append, lines.eq_3 c _ (hpair h), lines.eq_3 c s h, if_neg hc, if_neg hc,
      ih hend.tail, consLine_append (lines_ne_nil hne)]

/-- A stretch without line ends is the front of the first line. -/
theorem exists_lines_eq_cons {s : List Char} (h : InLine s) (hne : s ≠ []) (t : List Char) :
    ∃ back rest, lines (s ++ t) = (s ++ back) :: rest := by
  induction s with
  | nil => exact absurd rfl hne
  | cons c s ih =>
    have hc : isLineEnd c = false := h c List.mem_cons_self
    have hrest : InLine s := fun d hd => h d (List.mem_cons_of_mem c hd)
    have hreturn : c ≠ '\r' := by
      rintro rfl
      exact absurd hc (by decide)
    have hlines : lines (c :: (s ++ t)) = consLine c (lines (s ++ t)) := by
      rw [lines.eq_3 c _ fun _ hpair => absurd hpair hreturn, if_neg (by simp [hc])]
    rw [List.cons_append, hlines]
    by_cases hnil : s = []
    · subst hnil
      rw [List.nil_append]
      cases lines t with
      | nil => exact ⟨[], [], rfl⟩
      | cons line rest => exact ⟨line, rest, rfl⟩
    · obtain ⟨back, rest, heq⟩ := ih hrest hnil
      rw [heq]
      exact ⟨back, rest, rfl⟩

/-- A stretch without line ends that begins where a line begins is the front of a line. -/
theorem exists_line_of_inLine {ended s : List Char} (hended : EndsLine ended) (h : InLine s)
    (hne : s ≠ []) (t : List Char) : ∃ back, s ++ back ∈ lines (ended ++ (s ++ t)) := by
  obtain ⟨back, rest, hlines⟩ := exists_lines_eq_cons h hne t
  have hnext : (s ++ t).head? ≠ some '\n' := by
    rw [List.head?_append_of_ne_nil _ hne]
    exact h.head?_ne
  refine ⟨back, ?_⟩
  rw [lines_append hended hnext, hlines]
  simp

/-- The lines are stretches of the text, and the first one stands at its front. -/
theorem lines_stretch (s : List Char) :
    (∀ line ∈ (lines s).head?, line <+: s) ∧ ∀ line ∈ lines s, line <:+: s := by
  induction s using lines.induct with
  | case1 => exact ⟨by simp [lines], by simp [lines]⟩
  | case2 s ih =>
    rw [lines]
    refine ⟨by simp, ?_⟩
    intro line hline
    rcases List.mem_cons.1 hline with rfl | hline
    · exact List.nil_infix
    · exact List.infix_cons (List.infix_cons (ih.2 line hline))
  | case3 c s h hc ih =>
    rw [lines.eq_3 c s h, if_pos hc]
    refine ⟨by simp, ?_⟩
    intro line hline
    rcases List.mem_cons.1 hline with rfl | hline
    · exact List.nil_infix
    · exact List.infix_cons (ih.2 line hline)
  | case4 c s h hc ih =>
    rw [lines.eq_3 c s h, if_neg hc]
    cases hlines : lines s with
    | nil =>
      have hone : [c] <+: c :: s := List.cons_prefix_cons.2 ⟨rfl, List.nil_prefix⟩
      exact ⟨by simp [consLine], by simpa [consLine] using hone.isInfix⟩
    | cons first rest =>
      have hfirst : c :: first <+: c :: s :=
        List.cons_prefix_cons.2 ⟨rfl, ih.1 first (by rw [hlines]; rfl)⟩
      refine ⟨?_, ?_⟩
      · rintro line hline
        obtain rfl : c :: first = line := Option.some.inj hline
        exact hfirst
      · intro line hline
        rcases List.mem_cons.1 hline with rfl | hline
        · exact hfirst.isInfix
        · exact List.infix_cons (ih.2 line (hlines ▸ List.mem_cons_of_mem first hline))

/-- A line is a stretch of its text. -/
theorem isInfix_of_mem_lines {s line : List Char} (h : line ∈ lines s) : line <:+: s :=
  (lines_stretch s).2 line h

end Lines

end AdvisoryFeed.Text
