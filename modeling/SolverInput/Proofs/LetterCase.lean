import SolverInput.Proofs.Likeness
import SolverInput.Proofs.Roles

namespace SolverInput
set_option autoImplicit true

/-- The texts differ in nothing but the case of ASCII letters. -/
def SameLetters (s t : Text) : Prop :=
  s.map Char.toLower = t.map Char.toLower

theorem toLower_of_not_isAlpha {c : Char} (hc : c.isAlpha = false) : c.toLower = c := by
  apply dif_neg
  intro h
  have halpha : c.isAlpha := Bool.or_eq_true_iff.2 (.inl (decide_eq_true h))
  rw [hc] at halpha
  cases halpha

theorem toLower_eq_iff (hx : x.isAlpha = false) : Char.toLower c = x ↔ c = x := by
  constructor
  · intro h
    have hc : c.isAlpha = false := by
      rw [← isAlpha_toLower, h, hx]
    rw [← toLower_of_not_isAlpha hc, h]
  · rintro rfl
    exact toLower_of_not_isAlpha hx

theorem map_toLower_eq_some_iff {o : Option Char} (hx : x.isAlpha = false) :
    o.map Char.toLower = some x ↔ o = some x := by
  simp only [Option.map_eq_some_iff, toLower_eq_iff hx, exists_eq_right]

theorem map_eq_iff {f : α → α} {xs : List α} (h : ∀ y ∈ ys, ∀ x, f x = y ↔ x = y) :
    xs.map f = ys ↔ xs = ys := by
  rw [← forall₂_iff_map_eq fun y hy x => (h y hy x).symm, List.forall₂_eq_eq_eq]

theorem splitOnP_map_toLower {p : Char → Bool} (hp : ∀ c : Char, p c.toLower = p c) (s : Text) :
    (s.map Char.toLower).splitOnP p = (s.splitOnP p).map (·.map Char.toLower) := by
  induction s with
  | nil => rfl
  | cons c s ih =>
    rw [List.map_cons, List.splitOnP_cons_eq_if_modifyHead, List.splitOnP_cons_eq_if_modifyHead, hp,
      ih]
    split
    · rfl
    · cases s.splitOnP p with
      | nil => rfl
      | cons w ws => rfl

theorem map_map_toLower {f : Char → Char} (hf : ∀ c : Char, f c.toLower = f c) (ws : List Text) :
    (ws.map (·.map Char.toLower)).map (·.map f) = ws.map (·.map f) := by
  simp only [List.map_map, Function.comp_def, hf]

theorem isBlank_comp_toLower : isBlank ∘ Char.toLower = isBlank :=
  funext isBlank_toLower

@[simp] theorem words_map_toLower (s : Text) :
    words (s.map Char.toLower) = (words s).map (·.map Char.toLower) := by
  rw [words, splitOnP_map_toLower isBlank_toLower, List.filter_map]
  congr 1
  apply List.filter_congr
  intro w _
  cases w with
  | nil => rfl
  | cons c w => rfl

@[simp] theorem trimLeft_map_toLower (s : Text) :
    trimLeft (s.map Char.toLower) = (trimLeft s).map Char.toLower := by
  rw [trimLeft, List.dropWhile_map, isBlank_comp_toLower]
  rfl

@[simp] theorem trim_map_toLower (s : Text) :
    trim (s.map Char.toLower) = (trim s).map Char.toLower := by
  rw [trim, trimLeft_map_toLower, trimRight, ← List.map_reverse, List.dropWhile_map,
    isBlank_comp_toLower, ← List.map_reverse]
  rfl

@[simp] theorem length_takeWhile_map_toLower (s : Text) :
    ((s.map Char.toLower).takeWhile isBlank).length = (s.takeWhile isBlank).length := by
  rw [List.takeWhile_map, isBlank_comp_toLower, List.length_map]

@[simp] theorem smallLetter_toLower (c : Char) : smallLetter c.toLower = smallLetter c :=
  apply_toLower (by decide +kernel) c

/-- An ASCII character is in no range that begins above ASCII. -/
theorem inRanges_filter (ranges : List (Nat × Nat)) (hc : c.toNat < 0x80) :
    inRanges (ranges.filter (·.1 < 0x80)) c = inRanges ranges c := by
  rw [inRanges, List.any_filter]
  apply List.any_congr rfl
  rintro ⟨first, last⟩
  rw [Bool.eq_iff_iff]
  simp only [Bool.and_eq_true, decide_eq_true_eq]
  omega

theorem inRanges_toLower
    (h : ∀ n : Fin 0x80, inRanges (ranges.filter (·.1 < 0x80)) (Char.ofNat n).toLower =
      inRanges (ranges.filter (·.1 < 0x80)) (Char.ofNat n)) (c : Char) :
    inRanges ranges c.toLower = inRanges ranges c := by
  apply apply_toLower
  intro n
  have hn : (Char.ofNat n).toNat < 0x80 := by
    revert n
    decide
  rw [← inRanges_filter ranges hn, ← inRanges_filter ranges (toLower_of_ascii hn).1]
  exact h n

@[simp] theorem startsCased_map_toLower (s : Text) :
    startsCased (s.map Char.toLower) = startsCased s := by
  have hignorable : inRanges caseIgnorable ∘ Char.toLower = inRanges caseIgnorable :=
    funext (inRanges_toLower (by decide +kernel))
  rw [startsCased, startsCased, List.dropWhile_map, hignorable]
  cases s.dropWhile (inRanges caseIgnorable) with
  | nil => rfl
  | cons c t => exact inRanges_toLower (by decide +kernel) c

/-- Lower case is the same whatever the case of the ASCII letters, also around a sigma. -/
theorem lowerAfter_map_toLower (before s : Text) :
    lowerAfter (before.map Char.toLower) (s.map Char.toLower) = lowerAfter before s := by
  have hsigma (c : Char) : c.toLower = 'Σ' ↔ c = 'Σ' := toLower_eq_iff (by decide)
  fun_induction lowerAfter before s with
  | case1 => rfl
  | case2 before rest ih =>
    have hsmall : smallSigma (before.map Char.toLower) (rest.map Char.toLower) =
        smallSigma before rest := by
      rw [smallSigma, smallSigma, startsCased_map_toLower, startsCased_map_toLower]
    have hlower : 'Σ'.toLower = 'Σ' := (hsigma 'Σ').2 rfl
    rw [List.map_cons, hlower, lowerAfter, hsmall, ← ih, List.map_cons, hlower]
  | case3 before c rest hc ih =>
    have hne : c.toLower ≠ 'Σ' := fun h => hc ((hsigma c).1 h)
    rw [List.map_cons, lowerAfter, smallLetter_toLower, ← ih, List.map_cons]
    exact hne

@[simp] theorem lowercase_map_toLower (s : Text) : lowercase (s.map Char.toLower) = lowercase s :=
  lowerAfter_map_toLower [] s

@[simp] theorem normalize_map_toLower (s : Text) :
    normalize (s.map Char.toLower) = normalize s := by
  rw [normalize, words_map_toLower, ← map_unwords rfl, lowercase_map_toLower]
  rfl

@[simp] theorem dropMark_map_toLower (s : Text) :
    dropMark (s.map Char.toLower) = (dropMark s).map Char.toLower := by
  by_cases h : s.head? = some '\ufeff'
  · obtain ⟨t, rfl⟩ := List.head?_eq_some_iff.1 h
    rfl
  · rw [dropMark_of_head?_ne h]
    apply dropMark_of_head?_ne
    rw [List.head?_map, ne_eq, map_toLower_eq_some_iff (by decide)]
    exact h

@[simp] theorem dropReturn_map_toLower (l : Text) :
    dropReturn (l.map Char.toLower) = (dropReturn l).map Char.toLower := by
  simp only [dropReturn, List.getLast?_map,
    map_toLower_eq_some_iff (x := '\r') (by decide), ← List.map_dropLast]
  split
  · rfl
  · rfl

namespace Header

theorem map_toLower_eq_index_iff {index : Option Text}
    (hd : ∀ n ∈ index, n ≠ [] ∧ ∀ c ∈ n, c.isDigit) :
    ws.map (·.map Char.toLower) = index.toList ↔ ws = index.toList := by
  apply map_eq_iff
  intro n hn w
  apply map_eq_iff
  intro x hx c
  apply toLower_eq_iff
  rw [Bool.eq_false_iff]
  intro ha
  have ha := toNat_of_isAlpha ha
  have hx := toNat_of_isDigit ((hd n (Option.mem_toList.1 hn)).2 x hx)
  omega

theorem Heads.map_toLower_iff {h : Header} :
    h.Heads s (title.map (·.map Char.toLower)) ↔ h.Heads s title := by
  have hspells : Spells (title.map (·.map Char.toLower)) s ↔ Spells title s := by
    rw [spells_iff, spells_iff, map_map_toLower (apply_toLower (by decide +kernel))]
  have hlower : (title.map (·.map Char.toLower)).map (·.map Char.toLower) =
      title.map (·.map Char.toLower) :=
    map_map_toLower (apply_toLower (by decide +kernel)) title
  constructor
  · rintro ⟨hs, hd, hn⟩
    exact ⟨hspells.1 hs, hd, hlower ▸ hn⟩
  · rintro ⟨hs, hd, hn⟩
    exact ⟨hspells.2 hs, hd, hlower.symm ▸ hn⟩

@[simp] theorem ofLine?_map_toLower (line : Text) :
    ofLine? (line.map Char.toLower) = ofLine? line := by
  ext h
  rw [ofLine?_eq_some_iff, ofLine?_eq_some_iff, words_map_toLower]
  apply exists_congr
  intro s
  constructor
  · rintro ⟨_, hh, hw⟩
    obtain ⟨title, ws, hws, rfl, hindex⟩ := List.map_eq_append_iff.1 hw
    refine ⟨title, Heads.map_toLower_iff.1 hh, ?_⟩
    rw [hws, (map_toLower_eq_index_iff hh.digits).1 hindex]
  · rintro ⟨title, hh, hw⟩
    refine ⟨_, Heads.map_toLower_iff.2 hh, ?_⟩
    rw [hw, List.map_append, (map_toLower_eq_index_iff hh.digits).2 rfl]

end Header

namespace LineRole

@[simp] theorem occursIn_endPattern_map_toLower (line : Text) :
    endPattern.occursIn (line.map Char.toLower) = endPattern.occursIn line := by
  rw [Bool.eq_iff_iff, occursIn_endPattern_iff, occursIn_endPattern_iff, words_map_toLower,
    map_map_toLower (apply_toLower (by decide +kernel))]

@[simp] theorem ofLine_map_toLower (line : Text) :
    ofLine (line.map Char.toLower) = ofLine line := by
  have hmark : (trimLeft (line.map Char.toLower)).head? = some '!' ↔
      (trimLeft line).head? = some '!' := by
    rw [trimLeft_map_toLower, List.head?_map, map_toLower_eq_some_iff (by decide)]
  simp only [ofLine_eq, head?_words, hmark, Header.ofLine?_map_toLower,
    occursIn_endPattern_map_toLower]
  rw [words_map_toLower]
  simp only [List.map_eq_nil_iff]

end LineRole

namespace Token

@[simp] theorem delimiterFollows_map_toLower (s : Text) :
    delimiterFollows (s.map Char.toLower) = delimiterFollows s := by
  simp only [delimiterFollows, trimLeft_map_toLower, List.head?_map, Option.any_map,
    isDelimiter_toLower]

@[simp] theorem takeToDelimiter?_map_toLower (s : Text) :
    takeToDelimiter? (s.map Char.toLower) = (takeToDelimiter? s).map (·.map Char.toLower) := by
  induction s with
  | nil => rfl
  | cons c s ih =>
    have hd := delimiterFollows_map_toLower (c :: s)
    rw [List.map_cons] at hd ⊢
    rw [takeToDelimiter?, takeToDelimiter?, hd, isAllowed_toLower, ih]
    split
    · rfl
    · split
      · rw [Option.map_map, Option.map_map]
        rfl
      · rfl

@[simp] theorem capture?_map_toLower (line : Text) :
    capture? (line.map Char.toLower) = (capture? line).map (·.map Char.toLower) := by
  unfold capture?
  rw [trimLeft_map_toLower]
  cases trimLeft line with
  | nil => rfl
  | cons c rest =>
    rw [List.map_cons]
    dsimp only
    rw [isAlpha_toLower, takeToDelimiter?_map_toLower]
    split
    · rw [Option.map_map, Option.map_map]
      rfl
    · rfl

@[simp] theorem ofLine?_map_toLower (line : Text) :
    ofLine? (line.map Char.toLower) =
      (ofLine? line).map fun t => { t with raw := t.raw.map Char.toLower } := by
  rw [ofLine?_eq_map, ofLine?_eq_map, capture?_map_toLower, length_takeWhile_map_toLower,
    Option.map_map, Option.map_map]
  congr 1
  funext captured
  exact congrArg (Token.mk · _) (trim_map_toLower captured)

end Token

namespace SameLetters

theorem apply_eq {f : Text → α} (h : SameLetters s t) (hf : ∀ s, f (s.map Char.toLower) = f s) :
    f s = f t := by
  rw [← hf s, ← hf t]
  exact congrArg f h

theorem apply {f : Text → Text} (h : SameLetters s t)
    (hf : ∀ s, f (s.map Char.toLower) = (f s).map Char.toLower) : SameLetters (f s) (f t) := by
  rw [SameLetters, ← hf s, ← hf t]
  exact congrArg f h

theorem token (h : SameLetters l m) :
    Option.Rel (Token.Like SameLetters) (Token.ofLine? l) (Token.ofLine? m) := by
  have he := congrArg Token.ofLine? h
  rw [Token.ofLine?_map_toLower, Token.ofLine?_map_toLower] at he
  cases hl : Token.ofLine? l with
  | none =>
    rw [hl, Option.map_none, eq_comm, Option.map_eq_none_iff] at he
    rw [he]
    exact .none
  | some t =>
    rw [hl, Option.map_some, eq_comm, Option.map_eq_some_iff] at he
    obtain ⟨u, hu, he⟩ := he
    rw [hu]
    injection he with hraw hstart
    exact .some ⟨hraw.symm, hstart.symm⟩

theorem likeness : Likeness SameLetters SameLetters where
  keyword h := by
    have hlen := congrArg List.length h
    rw [List.length_map, List.length_map] at hlen
    exact ⟨hlen, h.apply_eq normalize_map_toLower⟩
  role h := h.apply_eq LineRole.ofLine_map_toLower
  title h _ := h.apply trim_map_toLower
  token := token
  without_mark h := h.apply dropMark_map_toLower
  without_return h := h.apply dropReturn_map_toLower
  nil_iff h := by
    rw [← List.map_eq_nil_iff, h, List.map_eq_nil_iff]

theorem forall₂_rawLines (h : SameLetters text text') :
    List.Forall₂ SameLetters (rawLines text) (rawLines text') := by
  have hnewline (c : Char) : (c.toLower == '\n') = (c == '\n') := by
    rw [Bool.eq_iff_iff, beq_iff_eq, beq_iff_eq, toLower_eq_iff (by decide)]
  have he := congrArg rawLines h
  rw [rawLines, rawLines, List.splitOn, List.splitOn, splitOnP_map_toLower hnewline,
    splitOnP_map_toLower hnewline, ← List.forall₂_eq_eq_eq, List.forall₂_map_left_iff,
    List.forall₂_map_right_iff] at he
  exact he

end SameLetters

/-- No letter's case matters: the findings and the outline quote the document as it is written, and
otherwise they are the same in any ASCII case. -/
theorem findings_of_sameLetters (h : SameLetters text text') :
    (∀ d : Dictionary,
      List.Forall₂ (Finding.Like SameLetters) (d.findings text) (d.findings text')) ∧
      List.Forall₂ (Span.Like SameLetters) (outline text) (outline text') :=
  ⟨fun d => SameLetters.likeness.findings d h.forall₂_rawLines,
    SameLetters.likeness.outline h.forall₂_rawLines⟩

/-- A marked document in other letters, with a value in capitals of another script and a header that
is spelt with a long s. -/
theorem findings_of_sameLetters_capitals :
    let d := (Dictionary.empty.insert "solver".toList "equation".toList).insert
      "bodyforce".toList "name".toList
    let text := "\ufeffSolver 1\r\n  Foo Bar = ΑΣ\nEnd\nBody Force 2\nbaz\t3 (a)\nſolver".toList
    let text' := "\ufeffSOLVER 1\r\n  fOO bar = ΑΣ\nEND\nbody force 2\nBaz\t3 (A)\nſOLVER".toList
    SameLetters text text' ∧ text ≠ text' ∧
      (d.findings text).map (fun f => (f.line, f.start, f.stop)) = [(1, 2, 9), (4, 0, 5)] ∧
      List.Forall₂ (Finding.Like SameLetters) (d.findings text) (d.findings text') ∧
      (outline text).map (·.kind) = [some .solver, some .bodyForce, none] ∧
      List.Forall₂ (Span.Like SameLetters) (outline text) (outline text') := by
  intro d text text'
  have h : SameLetters text text' := by
    unfold SameLetters
    decide +kernel
  obtain ⟨hfindings, houtline⟩ := findings_of_sameLetters h
  exact ⟨h, by decide +kernel, by decide +kernel, hfindings d, by decide +kernel, houtline⟩

end SolverInput
