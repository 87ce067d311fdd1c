import SolverInput.Text.LetterCase

namespace SolverInput
set_option autoImplicit true

def blankRanges : List (Nat × Nat) :=
  [(0x9, 0xd), (0x20, 0x20), (0x85, 0x85), (0xa0, 0xa0), (0x1680, 0x1680), (0x2000, 0x200a),
    (0x2028, 0x2029), (0x202f, 0x202f), (0x205f, 0x205f), (0x3000, 0x3000)]

/-- No blank has a number from `a` to `b`. -/
def blankFree (a b : Nat) : Bool :=
  blankRanges.all fun (first, last) => b < first || last < a

theorem isBlank_of_blankFree {c : Char} (h : blankFree a b) (ha : a ≤ c.toNat)
    (hb : c.toNat ≤ b) : isBlank c = false := by
  simp [blankFree, blankRanges] at h
  simp [isBlank]
  omega

namespace CaseRun

/-- No small letter of `r` is a capital of `q`. -/
def apart (r q : CaseRun) : Bool :=
  Nat.blt (r.target r.last) q.first || Nat.blt q.last r.small ||
    (r.step == 2 && q.step == 2 && (r.small + q.first) % 2 == 1) ||
    (r.first == r.last && !q.contains r.small)

theorem contains_iff {r : CaseRun} :
    r.contains n ↔ r.first ≤ n ∧ n ≤ r.last ∧ (n - r.first) % r.step = 0 := by
  simp [contains, and_assoc]

theorem target_le {r : CaseRun} (h : r.contains n) : r.target n ≤ r.target r.last := by
  obtain ⟨_, hl, _⟩ := contains_iff.1 h
  simp only [target]
  omega

theorem contains_target (h : apart r q) (hn : r.contains n) : q.contains (r.target n) = false := by
  rw [Bool.eq_false_iff]
  intro hc
  obtain ⟨hf, hl, hs⟩ := contains_iff.1 hn
  obtain ⟨hcf, hcl, hcs⟩ := contains_iff.1 hc
  simp only [apart, Bool.or_eq_true, Bool.and_eq_true, Nat.blt_eq, beq_iff_eq] at h
  simp only [target] at h hcf hcl hcs
  rcases h with ((h | h) | ⟨⟨hr, hq⟩, h⟩) | ⟨he, h⟩
  · omega
  · omega
  · -- Both runs hold every second number, one the even and one the odd ones.
    rw [hr] at hs
    rw [hq] at hcs
    omega
  · have ht : r.target n = r.small := by
      simp only [target]
      omega
    rw [ht] at hc
    simp [hc] at h

/-- What makes lower case final: no small letter of the run is a capital of the table, none is a
blank, and each is a character. -/
def sound (r : CaseRun) : Bool :=
  caseRuns.all r.apart && blankFree r.first r.last && blankFree r.small (r.target r.last) &&
    (r.target r.last < 0xd800 || 0xdfff < r.small && r.target r.last < 0x110000) &&
    (r.target r.last < 0x130 || 0x130 < r.small) &&
    (0x80 ≤ r.small || r.target r.last == 0x6b && r.small == 0x6b)

end CaseRun

theorem sound_caseRuns : ∀ r ∈ caseRuns, r.sound :=
  List.all_eq_true.1 (by decide +kernel)

theorem toNat_ofNat (h : n.isValidChar) : (Char.ofNat n).toNat = n := by
  rw [Char.ofNat, dif_pos h]
  rfl

theorem toNat_target (hr : r ∈ caseRuns) (hn : r.contains n) :
    (Char.ofNat (r.target n)).toNat = r.target n := by
  have hs := sound_caseRuns r hr
  have hle := CaseRun.target_le hn
  simp only [CaseRun.sound, Bool.and_eq_true, Bool.or_eq_true, decide_eq_true_eq] at hs
  have hge : r.small ≤ r.target n := Nat.le_add_right _ _
  apply toNat_ofNat
  simp only [Nat.isValidChar]
  omega

theorem contains_target_eq_false (hr : r ∈ caseRuns) (hn : r.contains n) (hq : q ∈ caseRuns) :
    q.contains (r.target n) = false := by
  have hs := sound_caseRuns r hr
  simp only [CaseRun.sound, Bool.and_eq_true, List.all_eq_true] at hs
  exact CaseRun.contains_target (hs.1.1.1.1.1 q hq) hn

theorem forall_ascii {P : Char → Prop} (h : ∀ n : Fin 0x80, P (Char.ofNat n))
    (hc : c.toNat < 0x80) : P c := by
  have hn := h ⟨c.toNat, hc⟩
  rw [Char.ofNat_toNat] at hn
  exact hn

theorem toLower_of_not_ascii {c : Char} (h : 0x80 ≤ c.toNat) : c.toLower = c :=
  dif_neg fun ⟨_, hz⟩ => Nat.not_le.2 (Nat.lt_of_lt_of_le (by decide) h) hz

/-- Lower case moves only ASCII letters, so what is said of characters is checked on those. -/
theorem apply_toLower {p : Char → α}
    (h : ∀ n : Fin 0x80, p (Char.ofNat n).toLower = p (Char.ofNat n)) (c : Char) :
    p c.toLower = p c := by
  by_cases hc : c.toNat < 0x80
  · exact forall_ascii (P := fun c => p c.toLower = p c) h hc
  · rw [toLower_of_not_ascii (Nat.not_lt.1 hc)]

@[simp] theorem isBlank_toLower (c : Char) : isBlank c.toLower = isBlank c :=
  apply_toLower (by decide +kernel) c

/-- ASCII letters are made small once for all. -/
theorem toLower_of_ascii {c : Char} (h : c.toNat < 0x80) :
    c.toLower.toNat < 0x80 ∧ c.toLower.toLower = c.toLower :=
  forall_ascii (P := fun c => c.toLower.toNat < 0x80 ∧ c.toLower.toLower = c.toLower)
    (by decide +kernel) h

theorem smallLetter_of_ascii {c : Char} (h : c.toNat < 0x80) : smallLetter c = [c.toLower] := by
  rw [smallLetter, if_pos h]

theorem smallLetter_of_no_capital {c : Char} (h : 0x80 ≤ c.toNat) (hd : c ≠ '\u0130')
    (hn : ∀ r ∈ caseRuns, r.contains c.toNat = false) : smallLetter c = [c] := by
  have hf : caseRuns.find? (·.contains c.toNat) = none := by
    rw [List.find?_eq_none]
    intro r hr
    rw [hn r hr]
    exact Bool.false_ne_true
  rw [smallLetter, if_neg (Nat.not_lt.2 h), if_neg hd, hf]

theorem smallLetter_dotted : smallLetter '\u0130' = ['i', '\u0307'] :=
  rfl

/-- A small letter is that of ASCII, the dotted one, that of a run or the character itself. -/
theorem smallLetter_cases (c : Char) :
    (c.toNat < 0x80 ∧ smallLetter c = [c.toLower]) ∨ c = '\u0130' ∨
      (∃ r ∈ caseRuns, r.contains c.toNat ∧ smallLetter c = [Char.ofNat (r.target c.toNat)]) ∨
      smallLetter c = [c] := by
  by_cases h : c.toNat < 0x80
  · exact .inl ⟨h, smallLetter_of_ascii h⟩
  · by_cases hd : c = '\u0130'
    · exact .inr (.inl hd)
    · rw [smallLetter, if_neg h, if_neg hd]
      cases hf : caseRuns.find? (·.contains c.toNat) with
      | none => exact .inr (.inr (.inr rfl))
      | some r =>
        have hc := List.find?_some hf
        exact .inr (.inr (.inl ⟨r, List.mem_of_find?_eq_some hf, hc, rfl⟩))

theorem smallLetter_ofNat_target (hr : r ∈ caseRuns) (hn : r.contains n) :
    smallLetter (Char.ofNat (r.target n)) = [Char.ofNat (r.target n)] := by
  have hm := toNat_target hr hn
  have hs := sound_caseRuns r hr
  have hle := CaseRun.target_le hn
  have hge : r.small ≤ r.target n := Nat.le_add_right _ _
  simp only [CaseRun.sound, Bool.and_eq_true, Bool.or_eq_true, decide_eq_true_eq, beq_iff_eq] at hs
  by_cases h : 0x80 ≤ r.target n
  · apply smallLetter_of_no_capital
    · rw [hm]
      exact h
    · intro hd
      rw [hd] at hm
      have hv : '\u0130'.toNat = 0x130 := rfl
      omega
    · intro q hq
      rw [hm]
      exact contains_target_eq_false hr hn hq
  · have hk : r.target n = 0x6b := by omega
    rw [hk]
    decide

/-- Lower case is final. -/
theorem smallLetter_of_mem (h : x ∈ smallLetter c) : smallLetter x = [x] := by
  rcases smallLetter_cases c with ⟨ha, hs⟩ | rfl | ⟨r, hr, hn, hs⟩ | hs
  · rw [hs, List.mem_singleton] at h
    obtain ⟨hlt, hsame⟩ := toLower_of_ascii ha
    rw [h, smallLetter_of_ascii hlt, hsame]
  · rw [smallLetter_dotted] at h
    rcases List.mem_cons.1 h with rfl | h
    · rfl
    · rw [List.mem_singleton.1 h]
      exact smallLetter_of_no_capital (by decide) (by decide) (by decide +kernel)
  · rw [hs, List.mem_singleton] at h
    rw [h]
    exact smallLetter_ofNat_target hr hn
  · rw [hs, List.mem_singleton] at h
    rw [h]
    exact hs

theorem isBlank_of_contains {c : Char} (hr : r ∈ caseRuns) (hn : r.contains c.toNat) :
    isBlank c = false := by
  have hs := sound_caseRuns r hr
  obtain ⟨hf, hl, _⟩ := CaseRun.contains_iff.1 hn
  simp only [CaseRun.sound, Bool.and_eq_true] at hs
  exact isBlank_of_blankFree hs.1.1.1.1.2 hf hl

theorem isBlank_ofNat_target (hr : r ∈ caseRuns) (hn : r.contains n) :
    isBlank (Char.ofNat (r.target n)) = false := by
  have hs := sound_caseRuns r hr
  have hm := toNat_target hr hn
  simp only [CaseRun.sound, Bool.and_eq_true] at hs
  apply isBlank_of_blankFree hs.1.1.1.2
  · rw [hm]
    exact Nat.le_add_right _ _
  · rw [hm]
    exact CaseRun.target_le hn

theorem isBlank_of_mem_smallLetter (h : x ∈ smallLetter c) : isBlank x = isBlank c := by
  rcases smallLetter_cases c with ⟨_, hs⟩ | rfl | ⟨r, hr, hn, hs⟩ | hs
  · rw [hs, List.mem_singleton] at h
    rw [h, isBlank_toLower]
  · rw [smallLetter_dotted] at h
    rcases List.mem_cons.1 h with rfl | h
    · rfl
    · rw [List.mem_singleton.1 h]
      rfl
  · rw [hs, List.mem_singleton] at h
    rw [h, isBlank_ofNat_target hr hn, isBlank_of_contains hr hn]
  · rw [hs, List.mem_singleton] at h
    rw [h]

theorem smallLetter_ne_nil (c : Char) : smallLetter c ≠ [] := by
  rcases smallLetter_cases c with ⟨_, hs⟩ | rfl | ⟨r, _, _, hs⟩ | hs
  · simp [hs]
  · decide
  · simp [hs]
  · simp [hs]

end SolverInput
