import SolverInput.Pattern.Property
import SolverInput.Proofs.Token

namespace SolverInput
set_option autoImplicit true

theorem CharSet.contains_span : (span a b).contains c ↔ a.toNat ≤ c.toNat ∧ c.toNat ≤ b.toNat := by
  simp [span, contains, CharRun.contains, Nat.mod_one]

@[simp] theorem CharSet.contains_single : (single x).contains c ↔ c = x := by
  rw [single, contains_span, ← Char.toNat_inj]
  omega

@[simp] theorem Property.contains_blanks (c : Char) : blanks.contains c = isBlank c := by
  rw [Bool.eq_iff_iff]
  simp [blanks, CharSet.unions, CharSet.empty, CharSet.contains, CharRun.contains, Category.spaces,
    Category.lineSeparators, Category.paragraphSeparators, isBlank, Nat.mod_one]
  omega

/-- What is checked of a run of letters that differ in case: its capitals are not ASCII, and neither
are its small letters, those of the long s and of the sign for kelvins apart. -/
def CaseRun.isForeign (r : CaseRun) : Bool :=
  0x80 ≤ r.first &&
    (0x80 ≤ r.small || r.last == r.first && (r.first == 0x17f || r.first == 0x212a)) &&
    (r.target r.last < 0xd800 || 0xdfff < r.small && r.target r.last < 0x110000)

theorem isForeign_of_mem : ∀ r ∈ foldRuns ++ caseRuns, r.isForeign :=
  List.all_eq_true.1 (by decide +kernel)

/-- Two characters beyond ASCII stand for a letter of ASCII when case is ignored. -/
theorem foldCase_cases (c : Char) :
    (c.toNat < 0x80 ∧ foldCase c = c.toLower) ∨ c = 'ſ' ∨ c = '\u212a' ∨
      0x80 ≤ c.toNat ∧ 0x80 ≤ (foldCase c).toNat := by
  by_cases hc : c.toNat < 0x80
  · exact .inl ⟨hc, if_pos hc⟩
  · have hge : 0x80 ≤ c.toNat := Nat.not_lt.1 hc
    rw [foldCase, if_neg hc]
    cases h : (foldRuns ++ caseRuns).find? (·.contains c.toNat) with
    | none => exact .inr (.inr (.inr ⟨hge, hge⟩))
    | some r =>
      have hr := isForeign_of_mem r (List.mem_of_find?_eq_some h)
      have hn := List.find?_some h
      have hle := CaseRun.target_le hn
      have hsmall : r.small ≤ r.target c.toNat := Nat.le_add_right _ _
      obtain ⟨hf, hl, _⟩ := CaseRun.contains_iff.1 hn
      simp only [CaseRun.isForeign, Bool.and_eq_true, Bool.or_eq_true, decide_eq_true_eq,
        beq_iff_eq] at hr
      obtain ⟨⟨_, hs | ⟨hone, hs | hs⟩⟩, hvalid⟩ := hr
      · have hv : (r.target c.toNat).isValidChar := by
          simp only [Nat.isValidChar]
          omega
        refine .inr (.inr (.inr ⟨hge, ?_⟩))
        rw [toNat_ofNat hv]
        exact Nat.le_trans hs hsmall
      · exact .inr (.inl (Char.toNat_inj.1 (show c.toNat = 0x17f by omega)))
      · exact .inr (.inr (.inl (Char.toNat_inj.1 (show c.toNat = 0x212a by omega))))

@[simp] theorem foldCase_longS : foldCase 'ſ' = 's' := by
  decide +kernel

@[simp] theorem foldCase_kelvin : foldCase '\u212a' = 'k' := by
  decide +kernel

/-- The characters of ASCII that differ from another in case only are its folded form and the
capital of that. -/
theorem mem_caseVariants_iff (hpos : 0 < x.toNat) (hx : x.toNat < 0x80) :
    x ∈ caseVariants c ↔ x = foldCase c ∨ x = (foldCase c).toUpper := by
  simp only [caseVariants, List.mem_cons, List.mem_map, List.mem_filterMap]
  refine or_congr_right (or_iff_left ?_)
  rintro ⟨n, ⟨r, hr, hn⟩, rfl⟩
  have hf := isForeign_of_mem r hr
  simp only [CaseRun.isForeign, Bool.and_eq_true, decide_eq_true_eq] at hf
  have hge : 0x80 ≤ n := by
    simp only [CaseRun.source?, Option.ite_none_right_eq_some, Option.some.injEq] at hn
    omega
  by_cases hv : n.isValidChar
  · rw [toNat_ofNat hv] at hx
    omega
  · rw [Char.ofNat, dif_neg hv] at hpos
    exact absurd hpos (by decide)

theorem apply_toUpper {p : Char → α}
    (h : ∀ n : Fin 0x80, p (Char.ofNat n).toUpper = p (Char.ofNat n)) (c : Char) :
    p c.toUpper = p c := by
  by_cases hc : c.toNat < 0x80
  · exact forall_ascii (P := fun c => p c.toUpper = p c) h hc
  · have hsame : c.toUpper = c := dif_neg fun ⟨_, hz⟩ =>
      hc (Nat.lt_of_le_of_lt hz (by decide))
    rw [hsame]

@[simp] theorem toLower_foldCase (c : Char) : (foldCase c).toLower = foldCase c := by
  obtain ⟨hc, hf⟩ | rfl | rfl | ⟨_, hf⟩ := foldCase_cases c
  · rw [hf, (toLower_of_ascii hc).2]
  · decide +kernel
  · decide +kernel
  · exact toLower_of_not_ascii hf

namespace CharSet

/-- A letter in either case stands for the characters that fold to it. -/
theorem contains_caseless_single (hx : x.isAlpha) :
    (caseless (single x)).contains c ↔ foldCase c = x.toLower := by
  have hn := toNat_of_isAlpha hx
  have hmem : (caseless (single x)).contains c ↔ x ∈ caseVariants c := by
    simp only [contains, List.any_eq_true, contains_single, exists_eq_right]
  rw [hmem, mem_caseVariants_iff (by omega) (by omega)]
  constructor
  · rintro (rfl | rfl)
    · exact (toLower_foldCase c).symm
    · rw [apply_toUpper (p := Char.toLower) (by decide +kernel), toLower_foldCase]
  · intro h
    rw [h]
    exact forall_ascii (P := fun x => x.isAlpha → x = x.toLower ∨ x = x.toLower.toUpper)
      (by decide +kernel) (by omega) hx

@[simp] theorem contains_span_digits : (span '0' '9').contains c ↔ c.isDigit := by
  rw [contains_span]
  exact ⟨fun h => Bool.and_eq_true_iff.2 ⟨decide_eq_true h.1, decide_eq_true h.2⟩, toNat_of_isDigit⟩

@[simp] theorem contains_caseless_digits : (caseless (span '0' '9')).contains c ↔ c.isDigit := by
  simp only [contains, List.any_eq_true, contains_span_digits]
  constructor
  · rintro ⟨v, hv, hd⟩
    have hn := toNat_of_isDigit hd
    have hfold : (foldCase c).isDigit := by
      obtain rfl | rfl := (mem_caseVariants_iff (by omega) (by omega)).1 hv
      · exact hd
      · rwa [apply_toUpper (p := Char.isDigit) (by decide +kernel)] at hd
    obtain ⟨_, hf⟩ | rfl | rfl | ⟨_, hf⟩ := foldCase_cases c
    · rwa [hf, apply_toLower (p := Char.isDigit) (by decide +kernel)] at hfold
    · exact absurd hfold (by decide +kernel)
    · exact absurd hfold (by decide +kernel)
    · have hn := toNat_of_isDigit hfold
      omega
  · intro hd
    have hn := toNat_of_isDigit hd
    have hfold : foldCase c = c := by rw [foldCase, if_pos (by omega), toLower_of_isDigit hd]
    exact ⟨c, (mem_caseVariants_iff (by omega) (by omega)).2 (.inl hfold.symm), hd⟩

end CharSet

end SolverInput
