import SolverInput.Proofs.CanonicalForm
import SolverInput.Proofs.Positions
import SolverInput.Proofs.WellFormed

namespace SolverInput
set_option autoImplicit true

def smallWords (ws : List Text) : List Text :=
  ws.map (·.map Char.toLower)

/-- The second words are the first but for the case of ASCII letters. A final `1` stands for any
number. -/
inductive SpellsWords : List Text → List Text → Prop
  | cased (h : smallWords ks = smallWords ws) : SpellsWords ks ws
  | numbered (h : smallWords ks = smallWords ws) (hne : digits ≠ [])
    (hd : ∀ c ∈ digits, c.isDigit) : SpellsWords (ks ++ [['1']]) (ws ++ [digits])

/-- The text `r` spells the words of the keyword `k`, with blanks of any kind between them. -/
def Spells (k r : Text) : Prop :=
  ∃ ws, SpellsWords (words k) ws ∧ Joined ws r

namespace Token

/-- A word that a keyword may have. -/
structure IsPart (w : Text) : Prop extends IsWord w where
  allowed : ∀ c ∈ w, isAllowed c

theorem IsPart.toNat_lt (h : IsPart w) (hc : c ∈ w) : c.toNat < 0x80 := by
  have ha := h.allowed c hc
  simp only [isAllowed, h.not_blank c hc, Bool.or_false, Bool.or_eq_true, beq_iff_eq] at ha
  rcases ha with ((ha | rfl) | rfl) | rfl
  · exact toNat_lt_of_isAlphanum ha
  all_goals decide

theorem isPart_map_toLower_iff : IsPart (w.map Char.toLower) ↔ IsPart w := by
  constructor
  · rintro ⟨⟨hne, hb⟩, ha⟩
    simp only [List.forall_mem_map, isBlank_toLower, isAllowed_toLower] at hb ha
    exact ⟨⟨fun he => hne (congrArg (List.map Char.toLower) he), hb⟩, ha⟩
  · rintro ⟨⟨hne, hb⟩, ha⟩
    refine ⟨⟨fun he => hne (List.map_eq_nil_iff.1 he), ?_⟩, ?_⟩
    · simp only [List.forall_mem_map, isBlank_toLower]
      exact hb
    · simp only [List.forall_mem_map, isAllowed_toLower]
      exact ha

theorem isPart_smallWords_iff : (∀ w ∈ smallWords ws, IsPart w) ↔ ∀ w ∈ ws, IsPart w := by
  simp only [smallWords, List.forall_mem_map, isPart_map_toLower_iff]

theorem isWord_smallWords (h : ∀ w ∈ ws, IsPart w) : ∀ w ∈ smallWords ws, IsWord w :=
  fun w hw => (isPart_smallWords_iff.2 h w hw).toIsWord

theorem isPart_of_isDigit (hne : digits ≠ []) (hd : ∀ c ∈ digits, c.isDigit) : IsPart digits := by
  have ha : ∀ c ∈ digits, isAllowed c := by
    intro c hc
    simp [isAllowed, Char.isAlphanum, hd c hc]
  exact ⟨⟨hne, fun c hc => isBlank_of_isDigit (hd c hc)⟩, ha⟩

theorem IsKeyword.isPart (h : IsKeyword k) : ∀ w ∈ words k, IsPart w := by
  intro w hw
  exact ⟨isWord_of_mem_words hw, fun c hc => h.isAllowed c (subset_of_mem_words hw hc)⟩

end Token

/-- The first word begins with an ASCII letter. -/
def startsWithLetter (ws : List Text) : Bool :=
  ws.head?.any (·.head?.any Char.isAlpha)

theorem startsWithLetter_smallWords (ws : List Text) :
    startsWithLetter (smallWords ws) = startsWithLetter ws := by
  cases ws with
  | nil => rfl
  | cons w ws =>
    cases w with
    | nil => rfl
    | cons c w => exact isAlpha_toLower c

theorem Joined.startsWithLetter_eq (h : Joined ws s) (hw : ∀ w ∈ ws, IsWord w) :
    startsWithLetter ws = s.head?.any Char.isAlpha := by
  cases ws with
  | nil => cases h
  | cons w ws =>
    rw [h.head?_eq (hw w List.mem_cons_self)]
    rfl

theorem startsWithLetter_append (hne : ws ≠ []) (vs : List Text) :
    startsWithLetter (ws ++ vs) = startsWithLetter ws := by
  rw [startsWithLetter, List.head?_append_of_ne_nil ws hne]
  rfl

theorem normalize_eq_of_isPart (h : ∀ w ∈ words s, Token.IsPart w) :
    normalize s = unwords (smallWords (words s)) := by
  rw [normalize, lowercase, lowerAfter_of_ascii, map_unwords rfl, smallWords]
  intro c hc
  rcases mem_unwords hc with rfl | ⟨w, hw, hc⟩
  · decide
  · exact (h w hw).toNat_lt hc

theorem smallWords_digits (hd : ∀ c ∈ digits, c.isDigit) : smallWords [digits] = [digits] := by
  have hsame : digits.map Char.toLower = digits :=
    (List.map_congr_left fun c hc => toLower_of_isDigit (hd c hc)).trans (List.map_id digits)
  rw [smallWords, List.map_singleton, hsame]

theorem ne_nil_of_startsWithLetter (h : startsWithLetter (ws ++ [['1']])) : ws ≠ [] := by
  rintro rfl
  cases h

namespace SpellsWords

theorem isPart (h : SpellsWords ks ws) (hk : ∀ w ∈ ks, Token.IsPart w) :
    ∀ w ∈ ws, Token.IsPart w := by
  cases h with
  | cased h =>
    rw [← Token.isPart_smallWords_iff, ← h, Token.isPart_smallWords_iff]
    exact hk
  | numbered h hne hd =>
    obtain ⟨hk, _⟩ := List.forall_mem_append.1 hk
    rw [← Token.isPart_smallWords_iff, h, Token.isPart_smallWords_iff] at hk
    exact List.forall_mem_append.2 ⟨hk, by simpa using Token.isPart_of_isDigit hne hd⟩

theorem keeps_letter (h : SpellsWords ks ws) (hk : startsWithLetter ks) :
    startsWithLetter ws := by
  cases h with
  | cased h =>
    rw [← startsWithLetter_smallWords, ← h, startsWithLetter_smallWords]
    exact hk
  | @numbered ks ws digits h hne hd =>
    have hks := ne_nil_of_startsWithLetter hk
    have hws : ws ≠ [] := by
      rintro rfl
      exact hks (List.map_eq_nil_iff.1 h)
    rw [startsWithLetter_append hks, ← startsWithLetter_smallWords, h,
      startsWithLetter_smallWords] at hk
    rw [startsWithLetter_append hws]
    exact hk

/-- In lower case the words are those of the keyword, or their numbered base has them. -/
theorem base_eq (h : SpellsWords ks ws) (hk : ∀ w ∈ ks, Token.IsPart w)
    (hs : startsWithLetter ks) :
    unwords (smallWords ws) = unwords (smallWords ks) ∨
      numberedBase (unwords (smallWords ws)) = unwords (smallWords ks) := by
  cases h with
  | cased h => exact .inl (by rw [h])
  | @numbered ks ws digits h hne hd =>
    obtain ⟨hk, _⟩ := List.forall_mem_append.1 hk
    have hks : smallWords ks ≠ [] := fun he =>
      ne_nil_of_startsWithLetter hs (List.map_eq_nil_iff.1 he)
    have happ (us vs : List Text) : smallWords (us ++ vs) = smallWords us ++ smallWords vs :=
      List.map_append
    have hone : smallWords [['1']] = [['1']] := rfl
    -- No blank ends the words before the number, so the base keeps them as they are.
    have hends := (singleSpaced_unwords (Token.isWord_smallWords hk)).ends
    right
    rw [happ, happ, ← h, smallWords_digits hd, unwords_concat hks, numberedBase_append hends hne hd,
      hone, unwords_concat hks]

end SpellsWords

theorem eq_unwords_of_isKeyword (hk : Token.IsKeyword k) (hn : normalize k = k) :
    k = unwords (smallWords (words k)) := by
  have h := normalize_eq_of_isPart hk.isPart
  rw [hn] at h
  exact h

theorem startsWithLetter_words (hk : Token.IsKeyword k) (hn : normalize k = k) :
    startsWithLetter (words k) := by
  have heq := eq_unwords_of_isKeyword hk hn
  have hne : smallWords (words k) ≠ [] := by
    intro hnil
    rw [hnil] at heq
    exact hk.ne_nil heq
  have hj := joined_unwords hne
  rw [← heq] at hj
  rw [← startsWithLetter_smallWords, hj.startsWithLetter_eq (Token.isWord_smallWords hk.isPart)]
  obtain ⟨c, rest, rfl, hc, _⟩ := hk
  exact hc

namespace Spells

theorem trimRight_eq (h : Spells k r) (hk : Token.IsKeyword k) : trimRight r = r := by
  obtain ⟨ws, hws, hj⟩ := h
  exact hj.trimRight_eq fun w hw => (hws.isPart hk.isPart w hw).toIsWord

theorem isKeyword (h : Spells k r) (hk : Token.IsKeyword k) (hn : normalize k = k) :
    Token.IsKeyword r := by
  obtain ⟨ws, hws, hj⟩ := h
  have hp := hws.isPart hk.isPart
  have hs := hws.keeps_letter (startsWithLetter_words hk hn)
  rw [hj.startsWithLetter_eq fun w hw => (hp w hw).toIsWord] at hs
  have ha : ∀ c ∈ r, Token.isAllowed c := by
    intro c hc
    rcases hj.mem hc with hb | ⟨w, hw, hc⟩
    · simp [Token.isAllowed, hb]
    · exact (hp w hw).allowed c hc
  cases r with
  | nil => cases hs
  | cons c rest => exact ⟨c, rest, rfl, hs, (List.forall_mem_cons.1 ha).2⟩

theorem normalize_eq (h : Spells k r) (hk : Token.IsKeyword k) (hn : normalize k = k) :
    normalize r = k ∨ numberedBase (normalize r) = k := by
  obtain ⟨ws, hws, hj⟩ := h
  have hp := hws.isPart hk.isPart
  have hr : words r = ws := hj.words_eq fun w hw => (hp w hw).toIsWord
  have hb := hws.base_eq hk.isPart (startsWithLetter_words hk hn)
  rw [← eq_unwords_of_isKeyword hk hn] at hb
  rw [normalize_eq_of_isPart (by rw [hr]; exact hp), hr]
  exact hb

end Spells

namespace Dictionary

theorem recognizes_of_spells (hl : listsAnywhere d k) (hn : normalize k = k)
    (hk : Token.IsKeyword k) (hr : Spells k r) : d.recognizes (normalize r) := by
  rw [recognizes, Bool.or_eq_true]
  rcases hr.normalize_eq hk hn with he | he
  · exact .inl (by rw [he]; exact hl)
  · exact .inr (by rw [he]; exact hl)

theorem WellFormed.finding?_eq_none (hd : WellFormed d) (ht : Token.ofLine? line = some t)
    (hk : d.recognizes t.keyword) (i : Nat) (s : Section) : d.finding? i line s = none := by
  rw [Option.eq_none_iff_forall_ne_some]
  intro f hf
  obtain ⟨_, t', ht', _, hu, _⟩ := (finding?_eq_some_iff ..).1 hf
  rw [ht] at ht'
  cases ht'
  rw [hd.knows_eq, hk] at hu
  cases hu

end Dictionary

/-- A listed keyword gives no finding, whatever the case of its letters, its blanks, its number and
the section that it stands in. -/
theorem no_finding_of_spells {id : Text} (d : Dictionary) (hd : d.Built) (hl : d.lists id k)
    (hk : Token.IsKeyword k) (hr : Spells k r) (hu : ∀ x ∈ u, isBlank x)
    (hv : ∀ x ∈ v, isBlank x) (hc : Token.isDelimiter c) (z : Text) :
    let line := u ++ (r ++ (v ++ c :: z))
    (∀ i s, d.finding? i line s = none) ∧
      ∀ text, ∀ f ∈ d.findings text, (lines (dropMark text))[f.line]? ≠ some line := by
  intro line
  have hw := hd.wellFormed
  have hany : d.listsAnywhere k := (hw.listsAnywhere_iff k).2 ⟨id, hl⟩
  obtain ⟨hn, _⟩ := hw.keyword_normal k hany
  have ht : Token.ofLine? line = some ⟨r, u.length⟩ :=
    Token.ofLine?_append (hr.isKeyword hk hn) (hr.trimRight_eq hk) hu hv hc z
  have hnone := hw.finding?_eq_none ht (Dictionary.recognizes_of_spells hany hn hk hr)
  refine ⟨hnone, ?_⟩
  intro text f hf hline
  obtain ⟨s, hs⟩ := Dictionary.finding?_of_mem_findings hf hline
  rw [hnone] at hs
  cases hs

/-- A keyword of the solver section that stands elsewhere with another number, between wide blanks
and with a value in brackets. Without a number it is another keyword. -/
theorem no_finding_of_spells_numbered :
    let d := (Dictionary.empty.insert "Solver".toList "Glow Rate 1".toList).insert "bc".toList
      "Flux".toList
    let r := "GLOW".toList ++ ("\u3000 ".toList ++ ("rAte".toList ++ ("\t".toList ++ "42".toList)))
    let line := "\u00a0".toList ++ (r ++ (" ".toList ++ '(' :: "3) = 1".toList))
    Spells "glow rate 1".toList r ∧ d.finding? 5 line .boundaryCondition = none ∧
      (d.finding? 5 "Glow Rate = 1".toList .boundaryCondition).isSome := by
  intro d r line
  have hd : d.Built := (Dictionary.Built.empty.insert _ _).insert _ _
  have hk : Token.IsKeyword "glow rate 1".toList :=
    ⟨'g', "low rate 1".toList, rfl, by decide, List.all_eq_true.1 (by decide)⟩
  have hw : words "glow rate 1".toList = ["glow".toList, "rate".toList] ++ [['1']] := by
    decide +kernel
  have hws : SpellsWords (["glow".toList, "rate".toList] ++ [['1']])
      (["GLOW".toList, "rAte".toList] ++ ["42".toList]) :=
    .numbered (by decide) (by decide) (List.all_eq_true.1 (by decide))
  have hj : Joined (["GLOW".toList, "rAte".toList] ++ ["42".toList]) r := by
    apply Joined.cons _ (by decide) (List.all_eq_true.1 (by decide))
    exact .cons _ (by decide) (List.all_eq_true.1 (by decide)) (.single _)
  have hr : Spells "glow rate 1".toList r := ⟨_, by rw [hw]; exact hws, hj⟩
  have hl : d.lists "solver".toList "glow rate 1".toList := by decide +kernel
  have hu : ∀ x ∈ "\u00a0".toList, isBlank x := List.all_eq_true.1 (by decide)
  have hv : ∀ x ∈ " ".toList, isBlank x := List.all_eq_true.1 (by decide)
  have hc : Token.isDelimiter '(' := by decide
  have hnone := no_finding_of_spells d hd hl hk hr hu hv hc "3) = 1".toList
  exact ⟨hr, hnone.1 5 .boundaryCondition, by decide +kernel⟩

end SolverInput
