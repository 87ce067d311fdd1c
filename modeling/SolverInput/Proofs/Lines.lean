import Mathlib.Data.List.Basic
import SolverInput.Text

namespace SolverInput
set_option autoImplicit true

/-- A text is its first line and the rest, or a last line alone. -/
@[elab_as_elim]
theorem lines_induction {motive : Text → Prop} (last : ∀ s, '\n' ∉ s → motive s)
    (line : ∀ l s, '\n' ∉ l → motive s → motive (l ++ '\n' :: s)) (s : Text) : motive s := by
  by_cases h : '\n' ∈ s
  · obtain ⟨l, t, rfl, hl⟩ := List.eq_append_cons_of_mem h
    exact line l t hl (lines_induction last line t)
  · exact last s h
termination_by s.length

theorem beq_newline_of_not_mem {l : Text} (h : '\n' ∉ l) : ∀ x ∈ l, (x == '\n') = false := by
  intro x hx
  exact beq_false_of_ne fun he => h (he ▸ hx)

theorem lines_append_newline (s : Text) (h : '\n' ∉ l) :
    lines (l ++ '\n' :: s) = dropReturn l :: lines s := by
  have hp := List.splitOnP_append_cons_of_forall_mem (beq_newline_of_not_mem h) '\n' rfl s
  obtain ⟨p, ps, hs⟩ := List.exists_cons_of_ne_nil (List.splitOnP_ne_nil (· == '\n') s)
  simp only [lines, hp, hs, List.dropLast_cons_cons, List.map_cons, List.getLast?_cons_cons]
  split <;> rfl

theorem lines_of_not_mem (h : '\n' ∉ s) : lines s = if s = [] then [] else [s] := by
  rw [lines, List.splitOnP_eq_singleton (beq_newline_of_not_mem h)]
  cases s <;> rfl

theorem dropReturn_isPrefix (l : Text) : dropReturn l <+: l := by
  unfold dropReturn
  split
  · exact List.dropLast_prefix l
  · exact List.prefix_rfl

theorem length_le_of_mem_lines (h : l ∈ lines s) : l.length ≤ s.length := by
  induction s using lines_induction with
  | last s hs =>
    rw [lines_of_not_mem hs] at h
    split at h
    · cases h
    · exact Nat.le_of_eq (congrArg List.length (List.mem_singleton.1 h))
  | line a s ha ih =>
    rw [lines_append_newline s ha] at h
    simp only [List.length_append, List.length_cons]
    rcases List.mem_cons.1 h with rfl | h
    · have hle := (dropReturn_isPrefix a).length_le
      omega
    · have hle := ih h
      omega

theorem newline_notMem_of_mem_lines (h : l ∈ lines s) : '\n' ∉ l := by
  induction s using lines_induction with
  | last s hs =>
    rw [lines_of_not_mem hs] at h
    split at h
    · cases h
    · exact List.mem_singleton.1 h ▸ hs
  | line a s ha ih =>
    rw [lines_append_newline s ha] at h
    rcases List.mem_cons.1 h with rfl | h
    · exact fun hn => ha ((dropReturn_isPrefix a).subset hn)
    · exact ih h

/-- As many line feeds stand before a line as lines do, and the last of them just before it. -/
theorem exists_prior_of_getElem?_lines (h : (lines s)[i]? = some l) :
    ∃ prior, prior ++ l <+: s ∧ prior.count '\n' = i ∧
      (prior = [] ∨ prior.getLast? = some '\n') := by
  induction s using lines_induction generalizing i with
  | last s hs =>
    rw [lines_of_not_mem hs] at h
    split at h
    · cases h
    · cases i with
      | zero =>
        cases h
        exact ⟨[], List.prefix_rfl, rfl, .inl rfl⟩
      | succ i => cases h
  | line a s ha ih =>
    rw [lines_append_newline s ha] at h
    cases i with
    | zero =>
      cases h
      exact ⟨[], (dropReturn_isPrefix a).trans (List.prefix_append _ _), rfl, .inl rfl⟩
    | succ i =>
      obtain ⟨prior, hp, hc, he⟩ := ih h
      refine ⟨a ++ '\n' :: prior, ?_, ?_, .inr ?_⟩
      · rw [List.append_assoc, List.cons_append]
        exact (List.prefix_append_right_inj a).2 (List.cons_prefix_cons.2 ⟨rfl, hp⟩)
      · rw [List.count_append, List.count_eq_zero_of_not_mem ha, List.count_cons_self, hc]
        omega
      · rw [List.getLast?_append_of_ne_nil a (List.cons_ne_nil _ _), List.getLast?_cons]
        rcases he with rfl | he
        · rfl
        · rw [he, Option.getD_some]

theorem length_lines_le (s : Text) : (lines s).length ≤ s.length := by
  induction s using lines_induction with
  | last s hs =>
    rw [lines_of_not_mem hs]
    cases s with
    | nil => exact Nat.le_refl _
    | cons c s => simp
  | line a s ha ih =>
    rw [lines_append_newline s ha]
    simp only [List.length_append, List.length_cons]
    omega

theorem tail_lines_cons (s : Text) (h : c ≠ '\n') : (lines (c :: s)).tail = (lines s).tail := by
  by_cases hs : '\n' ∈ s
  · obtain ⟨l, t, rfl, hl⟩ := List.eq_append_cons_of_mem hs
    have hcl : '\n' ∉ c :: l := by
      simp [hl, Ne.symm h]
    rw [← List.cons_append, lines_append_newline t hcl, lines_append_newline t hl]
    rfl
  · have hcs : '\n' ∉ c :: s := by
      simp [hs, Ne.symm h]
    rw [lines_of_not_mem hs, lines_of_not_mem hcs]
    cases s <;> rfl

theorem lines_ne_nil (h : s ≠ []) : lines s ≠ [] := by
  by_cases hs : '\n' ∈ s
  · obtain ⟨l, t, rfl, hl⟩ := List.eq_append_cons_of_mem hs
    rw [lines_append_newline t hl]
    exact List.cons_ne_nil _ _
  · rw [lines_of_not_mem hs, if_neg h]
    exact List.cons_ne_nil s []

/-- The mark is part of the first line alone. -/
theorem getElem?_lines_dropMark (text : Text) (i : Nat) :
    (lines (dropMark text))[i + 1]? = (lines text)[i + 1]? := by
  unfold dropMark
  split
  · rename_i s
    rw [← List.getElem?_tail, ← List.getElem?_tail, tail_lines_cons s (by decide)]
  · rfl

theorem dropMark_of_head?_ne (h : s.head? ≠ some '\ufeff') : dropMark s = s := by
  unfold dropMark
  split
  · exact (h rfl).elim
  · rfl

theorem dropMark_append_cons (l s : Text) (h : c ≠ '\ufeff') :
    dropMark (l ++ c :: s) = dropMark l ++ c :: s := by
  cases l with
  | nil => exact dropMark_of_head?_ne (by simpa using h)
  | cons x l =>
    by_cases hx : x = '\ufeff'
    · rw [hx]
      rfl
    · rw [dropMark_of_head?_ne (s := x :: l) (by simpa using hx)]
      exact dropMark_of_head?_ne (by simpa using hx)

theorem dropMark_cases (s : Text) : s = dropMark s ∨ s = '\ufeff' :: dropMark s := by
  unfold dropMark
  split
  · exact .inr rfl
  · exact .inl rfl

theorem length_dropMark_le (s : Text) : (dropMark s).length ≤ s.length := by
  rcases dropMark_cases s with h | h
  · exact Nat.le_of_eq (congrArg List.length h.symm)
  · have hs := congrArg List.length h
    rw [List.length_cons] at hs
    omega

theorem length_lines_dropMark_le (s : Text) : (lines (dropMark s)).length ≤ (lines s).length := by
  rcases dropMark_cases s with h | h
  · exact Nat.le_of_eq (congrArg (fun s => (lines s).length) h.symm)
  · have htail := congrArg List.length (tail_lines_cons (dropMark s) (c := '\ufeff') (by decide))
    rw [← h, List.length_tail, List.length_tail] at htail
    have hne : s ≠ [] := by
      rw [h]
      exact List.cons_ne_nil _ _
    have hpos := List.length_pos_iff.2 (lines_ne_nil hne)
    omega

/-- After a line feed a new text begins, as far as lines are concerned. -/
theorem lines_append_newline_append (s t : Text) :
    lines (s ++ '\n' :: t) = lines (s ++ ['\n']) ++ lines t := by
  induction s using lines_induction with
  | last s hs =>
    rw [lines_append_newline t hs, lines_append_newline [] hs]
    rfl
  | line l s hl ih =>
    simp only [List.append_assoc, List.cons_append, lines_append_newline _ hl, ih]

/-- What stands between the line feeds of a text. The last piece may be empty, and a piece may end
with a carriage return. -/
def rawLines (s : Text) : List Text :=
  s.splitOn '\n'

def unlines (ls : List Text) : Text :=
  ['\n'].intercalate ls

/-- The lines that come of the pieces between line feeds. -/
def endLines : List Text → List Text
  | [] => []
  | [l] => if l = [] then [] else [l]
  | l :: m :: ls => dropReturn l :: endLines (m :: ls)

theorem rawLines_append_newline (s : Text) (h : '\n' ∉ l) :
    rawLines (l ++ '\n' :: s) = l :: rawLines s :=
  List.splitOnP_append_cons_of_forall_mem (beq_newline_of_not_mem h) '\n' rfl s

theorem rawLines_of_not_mem (h : '\n' ∉ s) : rawLines s = [s] :=
  List.splitOnP_eq_singleton (beq_newline_of_not_mem h)

theorem lines_eq_endLines (s : Text) : lines s = endLines (rawLines s) := by
  induction s using lines_induction with
  | last s hs =>
    rw [lines_of_not_mem hs, rawLines_of_not_mem hs]
    rfl
  | line l s hl ih =>
    rw [lines_append_newline s hl, rawLines_append_newline s hl, ih]
    obtain ⟨m, ls, he⟩ := List.exists_cons_of_ne_nil (List.splitOnP_ne_nil (· == '\n') s)
    rw [show rawLines s = m :: ls from he]
    rfl

theorem dropMark_subset (l : Text) : dropMark l ⊆ l := by
  unfold dropMark
  split
  · exact List.subset_cons_self _ _
  · exact List.Subset.refl _

theorem rawLines_dropMark (s : Text) :
    rawLines (dropMark s) = (rawLines s).modifyHead dropMark := by
  by_cases h : '\n' ∈ s
  · obtain ⟨l, t, rfl, hl⟩ := List.eq_append_cons_of_mem h
    rw [dropMark_append_cons l t (by decide), rawLines_append_newline t hl,
      rawLines_append_newline t fun hn => hl (dropMark_subset l hn), List.modifyHead_cons]
  · rw [rawLines_of_not_mem h, rawLines_of_not_mem fun hn => h (dropMark_subset s hn),
      List.modifyHead_cons]

theorem rawLines_unlines (h : ∀ l ∈ ls, '\n' ∉ l) (hne : ls ≠ []) : rawLines (unlines ls) = ls :=
  List.splitOn_intercalate '\n' h hne

theorem lines_unlines (h : ∀ l ∈ ls, '\n' ∉ l) : lines (unlines ls) = endLines ls := by
  cases ls with
  | nil => rfl
  | cons l ls => rw [lines_eq_endLines, rawLines_unlines h (List.cons_ne_nil l ls)]

theorem head?_unlines_cons (hx : x ≠ '\n') :
    (unlines (l :: ls)).head? = some x ↔ l.head? = some x := by
  cases ls with
  | nil => rw [unlines, List.intercalate_singleton]
  | cons m ls =>
    rw [unlines, List.intercalate_cons_cons]
    cases l with
    | nil => simpa using Ne.symm hx
    | cons c l => rfl

end SolverInput
