import SolverInput.Keyword
import SolverInput.Proofs.SmallLetters
import SolverInput.Proofs.Words

namespace SolverInput
set_option autoImplicit true

/-- What can become of a character in lower case. Only the capital sigma depends on what surrounds
it. -/
def SmallForm (c : Char) (u : Text) : Prop :=
  u = smallLetter c ∨ c = 'Σ' ∧ u = ['ς']

theorem SmallForm.isSmall (h : SmallForm c u) : ∀ x ∈ u, smallLetter x = [x] := by
  intro x hx
  rcases h with rfl | ⟨_, rfl⟩
  · exact smallLetter_of_mem hx
  · rw [List.mem_singleton.1 hx]
    exact smallLetter_of_no_capital (by decide) (by decide) (by decide +kernel)

theorem SmallForm.isBlank (h : SmallForm c u) : ∀ x ∈ u, isBlank x = isBlank c := by
  intro x hx
  rcases h with rfl | ⟨rfl, rfl⟩
  · exact isBlank_of_mem_smallLetter hx
  · rw [List.mem_singleton.1 hx]
    decide

theorem SmallForm.ne_nil (h : SmallForm c u) : u ≠ [] := by
  rcases h with rfl | ⟨_, rfl⟩
  · exact smallLetter_ne_nil c
  · exact List.cons_ne_nil _ _

/-- The second text has a small form of each character of the first, in their order. -/
inductive Lowered : Text → Text → Prop
  | nil : Lowered [] []
  | cons (h : SmallForm c u) (hs : Lowered s t) : Lowered (c :: s) (u ++ t)

theorem lowered_lowerAfter (before s : Text) : Lowered s (lowerAfter before s) := by
  fun_induction lowerAfter before s with
  | case1 => exact .nil
  | case2 before rest ih =>
    apply Lowered.cons (u := [smallSigma before rest]) ?_ ih
    rw [smallSigma]
    split
    · exact .inr ⟨rfl, rfl⟩
    · exact .inl (by decide +kernel)
  | case3 before c rest _ ih => exact .cons (.inl rfl) ih

namespace Lowered

theorem isSmall (h : Lowered s t) : ∀ x ∈ t, smallLetter x = [x] := by
  induction h with
  | nil => simp
  | cons h _ ih =>
    intro x hx
    rcases List.mem_append.1 hx with hx | hx
    · exact h.isSmall x hx
    · exact ih x hx

theorem ne_nil (h : Lowered s t) (hs : s ≠ []) : t ≠ [] := by
  cases h with
  | nil => exact hs
  | cons h _ => simp [h.ne_nil]

theorem isWord (h : Lowered w t) (hw : IsWord w) : IsWord t := by
  refine ⟨h.ne_nil hw.ne_nil, ?_⟩
  have hb := hw.not_blank
  clear hw
  induction h with
  | nil => simp
  | cons h _ ih =>
    obtain ⟨hc, hs⟩ := List.forall_mem_cons.1 hb
    intro x hx
    rcases List.mem_append.1 hx with hx | hx
    · rw [h.isBlank x hx]
      exact hc
    · exact ih hs x hx

end Lowered

theorem lowerAfter_eq_map (before : Text) {f : Char → Char} (hf : f 'Σ' = 'Σ')
    (h : ∀ x ∈ s, smallLetter x = [f x]) : lowerAfter before s = s.map f := by
  fun_induction lowerAfter before s with
  | case1 => rfl
  | case2 before rest _ =>
    have hs := h 'Σ' List.mem_cons_self
    rw [hf] at hs
    exact absurd hs (by decide +kernel)
  | case3 before c rest _ ih =>
    obtain ⟨hc, hs⟩ := List.forall_mem_cons.1 h
    rw [hc, ih hs]
    rfl

theorem lowerAfter_of_isSmall (before : Text) (h : ∀ x ∈ s, smallLetter x = [x]) :
    lowerAfter before s = s := by
  rw [lowerAfter_eq_map before (f := id) rfl h, List.map_id]

theorem lowerAfter_of_ascii (before : Text) (h : ∀ c ∈ s, c.toNat < 0x80) :
    lowerAfter before s = s.map Char.toLower :=
  lowerAfter_eq_map before (by decide) fun c hc => smallLetter_of_ascii (h c hc)

@[simp] theorem lowercase_lowercase (s : Text) : lowercase (lowercase s) = lowercase s :=
  lowerAfter_of_isSmall [] (lowered_lowerAfter [] s).isSmall

theorem isWord_lowercase (h : IsWord w) : IsWord (lowercase w) :=
  (lowered_lowerAfter [] w).isWord h

/-- A space is neither passed over nor a letter. -/
theorem startsCased_append_space (s t : Text) : startsCased (s ++ ' ' :: t) = startsCased s := by
  have hignorable : inRanges caseIgnorable ' ' = false := by
    decide +kernel
  have hcased : inRanges casedLetters ' ' = false := by
    decide +kernel
  rw [startsCased, startsCased, List.dropWhile_append,
    List.dropWhile_cons_of_neg (by simp [hignorable])]
  cases s.dropWhile (inRanges caseIgnorable) with
  | nil => exact hcased
  | cons c s => rfl

theorem lowerAfter_of_space (s before t : Text) :
    lowerAfter (s ++ ' ' :: before) t = lowerAfter s t := by
  fun_induction lowerAfter s t with
  | case1 => rfl
  | case2 s rest ih =>
    rw [List.cons_append] at ih
    rw [lowerAfter, ih, smallSigma, startsCased_append_space, smallSigma]
  | case3 s c rest hc ih =>
    rw [List.cons_append] at ih
    rw [lowerAfter, ih]
    exact hc

/-- What stands on one side of a space does not change the lower case of the other, a sigma
included. -/
theorem lowerAfter_append_space (before s t : Text) :
    lowerAfter before (s ++ ' ' :: t) = lowerAfter before s ++ ' ' :: lowercase t := by
  have hspace : smallLetter ' ' = [' '] := by
    decide
  fun_induction lowerAfter before s with
  | case1 before =>
    rw [List.nil_append, lowerAfter, hspace]
    · exact congrArg (' ' :: ·) (lowerAfter_of_space [] before t)
    · decide
  | case2 before rest ih =>
    rw [List.cons_append, lowerAfter, ih, smallSigma, startsCased_append_space, smallSigma]
    rfl
  | case3 before c rest hc ih =>
    rw [List.cons_append, lowerAfter, ih, List.append_assoc]
    exact hc

theorem lowercase_unwords (ws : List Text) :
    lowercase (unwords ws) = unwords (ws.map lowercase) := by
  induction ws with
  | nil => rfl
  | cons w ws ih =>
    by_cases hne : ws = []
    · rw [hne, unwords_singleton]
      exact (unwords_singleton _).symm
    · have hmap : ws.map lowercase ≠ [] := fun he => hne (List.map_eq_nil_iff.1 he)
      rw [unwords_cons w hne, List.map_cons, unwords_cons _ hmap, ← ih]
      exact lowerAfter_append_space [] w (unwords ws)

/-- The normal form is made word by word. -/
theorem normalize_eq_unwords (s : Text) : normalize s = unwords ((words s).map lowercase) :=
  lowercase_unwords (words s)

theorem isWord_of_mem_map_lowercase (h : w ∈ (words s).map lowercase) : IsWord w := by
  obtain ⟨v, hv, rfl⟩ := List.mem_map.1 h
  exact isWord_lowercase (isWord_of_mem_words hv)

@[simp] theorem words_normalize (s : Text) : words (normalize s) = (words s).map lowercase := by
  rw [normalize_eq_unwords]
  exact words_unwords fun _ hw => isWord_of_mem_map_lowercase hw

/-- The normal form is final, whatever the letters. -/
@[simp] theorem normalize_normalize (s : Text) : normalize (normalize s) = normalize s := by
  have hw : (words (normalize s)).map lowercase = (words s).map lowercase := by
    rw [words_normalize, List.map_map]
    exact List.map_congr_left fun w _ => lowercase_lowercase w
  rw [normalize_eq_unwords, hw, ← normalize_eq_unwords]

theorem normalize_eq_nil_iff : normalize s = [] ↔ ∀ c ∈ s, isBlank c := by
  rw [← words_eq_nil_iff]
  constructor
  · intro h
    have hw := words_normalize s
    rw [h] at hw
    exact List.map_eq_nil_iff.1 hw.symm
  · intro h
    rw [normalize, h]
    rfl

end SolverInput
