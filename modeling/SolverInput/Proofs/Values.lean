import SolverInput.Proofs.Likeness
import SolverInput.Proofs.Roles

namespace SolverInput
set_option autoImplicit true

/-- The second line is the first, or the first with another value and perhaps another delimiter
before it. -/
inductive Revalued : Text → Text → Prop
  | same (l : Text) : Revalued l l
  | value (hf : ∀ x ∈ front, Token.isDelimiter x = false) (hc : Token.isDelimiter c)
    (hd : Token.isDelimiter d) (v w : Text) : Revalued (front ++ c :: v) (front ++ d :: w)

theorem Header.ofLine?_of_isDelimiter (hc : c ∈ line) (hd : Token.isDelimiter c) :
    ofLine? line = none := by
  obtain ⟨w, hw, hcw⟩ := mem_words_of_mem hc (Token.isBlank_of_isDelimiter hd)
  apply ofLine?_eq_none
  intro h s title hh he
  rw [he] at hw
  rcases List.mem_append.1 hw with hw | hw
  · rcases hh.spelled.isAlpha_or hw hcw with ha | rfl
    · have hno : c.isAlpha = false := Token.isDelimiter_cases hd (by decide) (by decide)
      rw [ha] at hno
      cases hno
    · exact absurd hd (by decide)
  · have hdigit := (hh.digits w (Option.mem_toList.1 hw)).2 c hcw
    have hno : c.isDigit = false := Token.isDelimiter_cases hd (by decide) (by decide)
    rw [hdigit] at hno
    cases hno

namespace LineRole

theorem occursIn_endPattern_of_isDelimiter (hc : c ∈ line) (hd : Token.isDelimiter c) :
    endPattern.occursIn line = false := by
  obtain ⟨w, hw, hcw⟩ := mem_words_of_mem hc (Token.isBlank_of_isDelimiter hd)
  rw [Bool.eq_false_iff, ne_eq, occursIn_endPattern_iff]
  intro h
  have hmem : w.map Char.toLower ∈ ["end".toList] := h ▸ List.mem_map_of_mem hw
  have hcm : c.toLower ∈ "end".toList := by
    rw [← List.mem_singleton.1 hmem]
    exact List.mem_map_of_mem hcw
  have hno := Token.not_isDelimiter_of_all (by decide) _ hcm
  rw [Token.isDelimiter_toLower, hd] at hno
  cases hno

/-- A line with a delimiter is a comment or content. -/
theorem ofLine_of_isDelimiter (hc : c ∈ line) (hd : Token.isDelimiter c) :
    ofLine line = if (trimLeft line).head? = some '!' then .comment else .content := by
  obtain ⟨w, hw, _⟩ := mem_words_of_mem hc (Token.isBlank_of_isDelimiter hd)
  rw [ofLine_eq, head?_words, if_neg (List.ne_nil_of_mem hw), Header.ofLine?_of_isDelimiter hc hd,
    occursIn_endPattern_of_isDelimiter hc hd]
  rfl

end LineRole

theorem head?_trimLeft_append_congr (hc : Token.isDelimiter c) (hd : Token.isDelimiter d)
    (front v w : Text) :
    (trimLeft (front ++ c :: v)).head? = some '!' ↔
      (trimLeft (front ++ d :: w)).head? = some '!' := by
  have hne (x : Char) (hx : Token.isDelimiter x) : x ≠ '!' :=
    Token.isDelimiter_cases hx (by decide) (by decide)
  rw [trimLeft_append_cons _ _ (Token.isBlank_of_isDelimiter hc),
    trimLeft_append_cons _ _ (Token.isBlank_of_isDelimiter hd)]
  cases trimLeft front with
  | nil => simp [hne c hc, hne d hd]
  | cons x rest => rfl

theorem capture?_append_congr (hf : ∀ x ∈ front, Token.isDelimiter x = false)
    (hc : Token.isDelimiter c) (hd : Token.isDelimiter d) (v w : Text) :
    Token.capture? (front ++ c :: v) = Token.capture? (front ++ d :: w) := by
  unfold Token.capture?
  rw [trimLeft_append_cons _ _ (Token.isBlank_of_isDelimiter hc),
    trimLeft_append_cons _ _ (Token.isBlank_of_isDelimiter hd)]
  have hsub : trimLeft front ⊆ front := List.dropWhile_subset isBlank
  cases h : trimLeft front with
  | nil =>
    have hno (y : Char) (hy : Token.isDelimiter y) : y.isAlpha = false :=
      Token.isDelimiter_cases hy (by decide) (by decide)
    simp [hno c hc, hno d hd]
  | cons x rest =>
    have hrest : ∀ y ∈ rest, Token.isDelimiter y = false := by
      intro y hy
      apply hf
      apply hsub
      rw [h]
      exact List.mem_cons_of_mem x hy
    simp only [List.cons_append, Token.takeToDelimiter?_append_congr hrest hc hd v w]

/-- The keyword of a line is found without a look at its value. -/
theorem ofLine?_append_congr (hf : ∀ x ∈ front, Token.isDelimiter x = false)
    (hc : Token.isDelimiter c) (hd : Token.isDelimiter d) (v w : Text) :
    Token.ofLine? (front ++ c :: v) = Token.ofLine? (front ++ d :: w) := by
  have hcount := length_takeWhile_isBlank (front ++ c :: v)
  have hcount' := length_takeWhile_isBlank (front ++ d :: w)
  rw [trimLeft_append_cons _ _ (Token.isBlank_of_isDelimiter hc)] at hcount
  rw [trimLeft_append_cons _ _ (Token.isBlank_of_isDelimiter hd)] at hcount'
  simp only [List.length_append, List.length_cons] at hcount hcount'
  have hstart : ((front ++ c :: v).takeWhile isBlank).length =
      ((front ++ d :: w).takeWhile isBlank).length := by
    omega
  rw [Token.ofLine?_eq_map, Token.ofLine?_eq_map, capture?_append_congr hf hc hd v w, hstart]

theorem dropReturn_append_cons (l s : Text) (hc : c ≠ '\r') :
    ∃ t, dropReturn (l ++ c :: s) = l ++ c :: t := by
  unfold dropReturn
  split
  · rename_i hlast
    cases s with
    | nil =>
      rw [List.getLast?_concat] at hlast
      exact (hc (Option.some.inj hlast)).elim
    | cons x s => exact ⟨(x :: s).dropLast, by simp [List.dropLast_append_of_ne_nil]⟩
  · exact ⟨s, rfl⟩

namespace Revalued

theorem role (h : Revalued l m) : LineRole.ofLine l = LineRole.ofLine m := by
  cases h with
  | same => rfl
  | @value front c d hf hc hd v w =>
    have hmem (x : Char) (u : Text) : x ∈ front ++ x :: u :=
      List.mem_append_right front List.mem_cons_self
    rw [LineRole.ofLine_of_isDelimiter (hmem c v) hc, LineRole.ofLine_of_isDelimiter (hmem d w) hd]
    simp only [head?_trimLeft_append_congr hc hd front v w]

theorem title (h : Revalued l m) (hl : LineRole.ofLine l = .header hd) : trim l = trim m := by
  cases h with
  | same => rfl
  | @value front c d hf hc hd v w =>
    have hmem : c ∈ front ++ c :: v := List.mem_append_right front List.mem_cons_self
    rw [LineRole.ofLine_of_isDelimiter hmem hc] at hl
    split at hl
    · cases hl
    · cases hl

theorem token (h : Revalued l m) : Token.ofLine? l = Token.ofLine? m := by
  cases h with
  | same => rfl
  | value hf hc hd v w => exact ofLine?_append_congr hf hc hd v w

theorem without_mark (h : Revalued l m) : Revalued (dropMark l) (dropMark m) := by
  have hne (x : Char) (hx : Token.isDelimiter x) : x ≠ '\ufeff' :=
    Token.isDelimiter_cases hx (by decide) (by decide)
  cases h with
  | same => exact .same _
  | @value front c d hf hc hd v w =>
    rw [dropMark_append_cons front v (hne c hc), dropMark_append_cons front w (hne d hd)]
    exact .value (fun x hx => hf x (dropMark_subset front hx)) hc hd v w

theorem without_return (h : Revalued l m) : Revalued (dropReturn l) (dropReturn m) := by
  have hne (x : Char) (hx : Token.isDelimiter x) : x ≠ '\r' :=
    Token.isDelimiter_cases hx (by decide) (by decide)
  cases h with
  | same => exact .same _
  | @value front c d hf hc hd v w =>
    obtain ⟨v', hv⟩ := dropReturn_append_cons front v (hne c hc)
    obtain ⟨w', hw⟩ := dropReturn_append_cons front w (hne d hd)
    rw [hv, hw]
    exact .value hf hc hd v' w'

theorem nil_iff (h : Revalued l m) : l = [] ↔ m = [] := by
  cases h with
  | same => rfl
  | value => simp

theorem likeness : Likeness Eq Revalued := by
  refine ⟨?_, role, title, ?_, without_mark, without_return, nil_iff⟩
  · rintro k _ rfl
    exact ⟨rfl, rfl⟩
  · intro l m h
    rw [h.token]
    cases Token.ofLine? m with
    | none => exact .none
    | some t => exact .some ⟨rfl, rfl⟩

end Revalued

theorem Finding.Like.eq (h : Finding.Like Eq f g) : f = g := by
  obtain ⟨line, start, stop, k, _, s, rfl, hf, hg⟩ := h
  cases f
  cases g
  simp_all

theorem Span.Like.eq (h : Span.Like Eq S T) : S = T := by
  obtain ⟨title, kind, start, stop⟩ := h
  cases S
  cases T
  simp_all

/-- No value matters: whatever comes after the first delimiter of a line, and whichever delimiter
that is, the findings and the outline of the document are the same. -/
theorem findings_of_revalued (text : Text) (ls : List Text)
    (h : List.Forall₂ Revalued (rawLines text) ls) (hn : ∀ l ∈ ls, '\n' ∉ l) :
    (∀ d : Dictionary, d.findings (unlines ls) = d.findings text) ∧
      outline (unlines ls) = outline text := by
  have hne : ls ≠ [] := by
    rintro rfl
    exact List.splitOnP_ne_nil _ _ (List.forall₂_nil_right_iff.1 h)
  rw [← rawLines_unlines hn hne] at h
  refine ⟨?_, ?_⟩
  · intro d
    have hlike := (Revalued.likeness.findings d h).imp fun _ _ => Finding.Like.eq
    rw [List.forall₂_eq_eq_eq] at hlike
    exact hlike.symm
  · have hlike := (Revalued.likeness.outline h).imp fun _ _ => Span.Like.eq
    rw [List.forall₂_eq_eq_eq] at hlike
    exact hlike.symm

/-- A marked document whose values become quotations, comments, delimiters and structure. -/
theorem findings_of_revalued_quoted :
    let d := Dictionary.empty.insert "solver".toList "equation".toList
    let text := "\ufeffSolver 1\r\n Foo = 1\r\nBar (2) = 3\n! x = 4\nEnd".toList
    let ls := ["\ufeffSolver 1\r".toList, " Foo ".toList ++ '(' :: "End".toList,
      "Bar ".toList ++ '=' :: "! \"(\" Body 1".toList, "! x ".toList ++ '(' :: "y = 5\r".toList,
      "End".toList]
    (d.findings text).map (·.line) = [1, 2] ∧ d.findings (unlines ls) = d.findings text ∧
      outline (unlines ls) = outline text := by
  intro d text ls
  have hraw : rawLines text = ["\ufeffSolver 1\r".toList, " Foo ".toList ++ '=' :: " 1\r".toList,
      "Bar ".toList ++ '(' :: "2) = 3".toList, "! x ".toList ++ '=' :: " 4".toList,
      "End".toList] := by
    decide +kernel
  have h : List.Forall₂ Revalued (rawLines text) ls := by
    rw [hraw]
    refine .cons (.same _) (.cons ?_ (.cons ?_ (.cons ?_ (.cons (.same _) .nil))))
    all_goals exact .value (Token.not_isDelimiter_of_all (by decide)) (by decide) (by decide) _ _
  have hn : ∀ l ∈ ls, '\n' ∉ l := by
    decide
  obtain ⟨hfindings, houtline⟩ := findings_of_revalued text ls h hn
  exact ⟨by decide +kernel, hfindings d, houtline⟩

end SolverInput
