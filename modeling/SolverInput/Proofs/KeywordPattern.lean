import SolverInput.Proofs.Grammar

namespace SolverInput
set_option autoImplicit true

theorem findSome?_eq_of_unique {l : List α} {F : α → Option β} (ha : a ∈ l)
    (h : ∀ x ∈ l, (F x).isSome → x = a) : l.findSome? F = F a := by
  cases hl : l.findSome? F with
  | none => exact (List.findSome?_eq_none_iff.1 hl a ha).symm
  | some b =>
    obtain ⟨x, hx, hb⟩ := List.exists_of_findSome?_eq_some hl
    rw [← h x hx (hb ▸ rfl), hb]

theorem findSome?_bind {l : List α} {F : α → Option β} {g : β → Option γ}
    (h : ∀ x ∈ l, ∀ b ∈ F x, (g b).isSome) :
    (l.findSome? F).bind g = l.findSome? fun x => (F x).bind g := by
  induction l with
  | nil => rfl
  | cons x l ih =>
    obtain ⟨hx, hl⟩ := List.forall_mem_cons.1 h
    rw [List.findSome?_cons, List.findSome?_cons]
    cases hF : F x with
    | none => exact ih hl
    | some b =>
      obtain ⟨y, hy⟩ := Option.isSome_iff_exists.1 (hx b hF)
      simp [hy]

namespace Token
open Pattern

def letters : CharSet :=
  .unions [.span 'a' 'z', .span 'A' 'Z']

def allowed : CharSet :=
  .unions [.single '\x7d', .single '\x7b', .single '-', Property.blanks, .span '0' '9',
    .span 'a' 'z', .span 'A' 'Z']

def word : Pattern :=
  .seq (.one letters) (.repeated (.one allowed) 0 none true)

def delimiter : Pattern :=
  .alt (.seq (.blanks 0) (.one (.single '('))) (.seq (.blanks 0) (.one (.single '=')))

/-- The keyword of a line, as short as can be, and the delimiter after it. -/
def pattern : Pattern :=
  .sequence [.anchor .start, .blanks 0, .group word, delimiter]

/-- The pattern as a regular expression. -/
example : Pattern.ofText?
    "^\\s*([A-Za-z][A-Za-z0-9\\s\\-\\\x7b\\\x7d]*?)(?:\\s*\\(|\\s*=)".toList = some pattern := by
  decide +kernel

theorem isAlpha_iff {c : Char} :
    c.isAlpha ↔ 0x41 ≤ c.toNat ∧ c.toNat ≤ 0x5a ∨ 0x61 ≤ c.toNat ∧ c.toNat ≤ 0x7a := by
  refine ⟨toNat_of_isAlpha, ?_⟩
  rintro (⟨hl, hu⟩ | ⟨hl, hu⟩)
  · exact Bool.or_eq_true_iff.2 (.inl (decide_eq_true ⟨hl, hu⟩))
  · have hlower : c.isLower := Bool.and_eq_true_iff.2 ⟨decide_eq_true hl, decide_eq_true hu⟩
    exact Bool.or_eq_true_iff.2 (.inr hlower)

theorem contains_letters : letters.contains c ↔ c.isAlpha := by
  simp [letters, CharSet.unions, CharSet.empty, CharSet.contains, CharSet.contains_span,
    isAlpha_iff, or_comm]

theorem contains_allowed : allowed.contains c ↔ isAllowed c := by
  rw [isAllowed_iff, ← contains_letters, ← CharSet.contains_span_digits]
  simp only [allowed, letters, CharSet.unions, CharSet.empty, CharSet.contains, List.foldl_cons,
    List.foldl_nil, Bool.or_eq_true, CharSet.contains_single, Property.contains_blanks]
  simp only [List.any_nil, Bool.false_eq_true, false_or]
  grind

theorem takes_delimiter : Takes delimiter fun t =>
    ∃ blanks d, (∀ c ∈ blanks, isBlank c) ∧ isDelimiter d ∧ t = blanks ++ [d] := by
  have h (d : Char) := (Header.takes_blanks 0).seq (Takes.one (.single d))
  apply ((h '(').alt (h '=')).congr
  intro t
  simp only [CharSet.contains_single, isDelimiter_iff]
  constructor
  · rintro (⟨blanks, _, ⟨_, hb⟩, ⟨_, rfl, rfl⟩, rfl⟩ | ⟨blanks, _, ⟨_, hb⟩, ⟨_, rfl, rfl⟩, rfl⟩)
    · exact ⟨blanks, '(', hb, .inl rfl, rfl⟩
    · exact ⟨blanks, '=', hb, .inr rfl, rfl⟩
  · rintro ⟨blanks, d, hb, rfl | rfl, rfl⟩
    · exact .inl ⟨blanks, ['('], ⟨Nat.zero_le _, hb⟩, ⟨'(', rfl, rfl⟩, rfl⟩
    · exact .inr ⟨blanks, ['='], ⟨Nat.zero_le _, hb⟩, ⟨'=', rfl, rfl⟩, rfl⟩

theorem isSome_head?_delimiter :
    (delimiter.fits place).head?.isSome = delimiterFollows place.rest := by
  rw [Bool.eq_iff_iff, List.isSome_head?, delimiterFollows, Option.any_eq_true]
  constructor
  · intro hne
    obtain ⟨f, hf⟩ := List.exists_mem_of_ne_nil _ hne
    obtain ⟨_, ⟨rest, hrest⟩, ⟨blanks, d, hb, hd, rfl⟩, rfl⟩ :=
      (takes_delimiter.mem_fits_iff _ _).1 hf
    refine ⟨d, ?_, hd⟩
    rw [← hrest, List.append_assoc, trimLeft_blanks_append _ hb, List.singleton_append,
      trimLeft_cons _ (isBlank_of_isDelimiter hd), List.head?_cons]
  · rintro ⟨d, hhead, hd⟩
    obtain ⟨rest, hrest⟩ := List.head?_eq_some_iff.1 hhead
    have hp : place.rest.takeWhile isBlank ++ [d] <+: place.rest := by
      refine ⟨rest, ?_⟩
      rw [List.append_assoc, List.singleton_append, ← hrest]
      exact List.takeWhile_append_dropWhile
    exact List.ne_nil_of_mem ((takes_delimiter.mem_fits_iff _ ⟨_, []⟩).2
      ⟨_, hp, ⟨_, d, isBlank_of_mem_takeWhile _, hd, rfl⟩, rfl⟩)

/-- What a fit takes, if a delimiter follows. -/
def beforeDelimiter? (place : Place) (f : Fit) : Option Text :=
  if delimiterFollows (place.after f.taken).rest then some f.taken else none

theorem beforeDelimiter?_cons (place : Place) (c : Char) (f : Fit) :
    beforeDelimiter? place ⟨c :: f.taken, groups⟩ =
      (beforeDelimiter? (place.after [c]) f).map (c :: ·) := by
  rw [beforeDelimiter?, beforeDelimiter?, Place.after_after, List.singleton_append]
  split <;> rfl

/-- The characters of a keyword are taken one by one, up to the first place where a delimiter
follows. -/
theorem findSome?_rounds_allowed (hfuel : place.rest.length < fuel) :
    (rounds (one allowed).fits ⟨[], []⟩ true fuel isFirst 0 none place).findSome?
      (beforeDelimiter? place) = takeToDelimiter? place.rest := by
  induction fuel generalizing isFirst place with
  | zero => cases hfuel
  | succ fuel ih =>
    cases hp : place.rest with
    | nil =>
      rw [rounds_one_nil hp]
      simp [beforeDelimiter?, hp, takeToDelimiter?, delimiterFollows, trimLeft]
    | cons c s =>
      have hnext : (place.after [c]).rest = s := by
        simp [hp]
      have hlen : (place.after [c]).rest.length < fuel := by
        rw [hp, List.length_cons] at hfuel
        rw [hnext]
        omega
      have hstop : beforeDelimiter? place ⟨[], []⟩ =
          if delimiterFollows (c :: s) then some [] else none := by
        rw [beforeDelimiter?, Place.after_nil, hp]
      have hgo : beforeDelimiter? place ∘ Fit.repeatedBy ⟨[c], []⟩ =
          Option.map (c :: ·) ∘ beforeDelimiter? (place.after [c]) :=
        funext fun f => beforeDelimiter?_cons place c f
      rw [rounds_one_cons hp, List.findSome?_cons, takeToDelimiter?, hstop]
      by_cases hd : delimiterFollows (c :: s)
      · rw [if_pos hd, if_pos hd]
      · rw [if_neg hd, if_neg hd]
        by_cases hc : allowed.contains c
        · rw [if_pos hc, if_pos (contains_allowed.1 hc), ← hnext, ← ih hlen, List.map_findSome?,
            ← hgo, ← List.findSome?_map]
        · rw [if_neg hc, if_neg (mt contains_allowed.2 hc)]
          rfl

/-- What the pattern captures where no blanks are next. -/
def captureWord? : Text → Option Text
  | [] => none
  | c :: rest => if c.isAlpha then (takeToDelimiter? rest).map (c :: ·) else none

theorem findSome?_word (place : Place) :
    (word.fits place).findSome? (beforeDelimiter? place) = captureWord? place.rest := by
  cases hp : place.rest with
  | nil => simp [word, fits, hp, captureWord?]
  | cons c rest =>
    have hgo : beforeDelimiter? place ∘ Fit.followedBy ⟨[c], []⟩ =
        Option.map (c :: ·) ∘ beforeDelimiter? (place.after [c]) :=
      funext fun f => beforeDelimiter?_cons place c f
    have hnext : (place.after [c]).rest = rest := by
      simp [hp]
    by_cases hc : letters.contains c
    · have hfits : word.fits place =
          ((repeated (one allowed) 0 none true).fits (place.after [c])).map
            (Fit.followedBy ⟨[c], []⟩) := by
        simp [word, fits, hp, hc, Option.filter]
      rw [hfits, List.findSome?_map, hgo, ← List.map_findSome?, fits, noGroups, groupCount,
        List.replicate_zero, findSome?_rounds_allowed (by omega), hnext]
      exact (if_pos (contains_letters.1 hc)).symm
    · have hfits : word.fits place = [] := by
        simp [word, fits, hp, hc, Option.filter]
      rw [hfits]
      exact (if_neg (mt contains_letters.2 hc)).symm

theorem head?_fits_word (place : Place) :
    ((seq (group word) delimiter).fits place).head?.bind (·.group? 1) =
      captureWord? place.rest := by
  rw [← findSome?_word, fits, List.head?_flatMap, fits, List.findSome?_map, findSome?_bind]
  · congr 1
    funext f
    rw [beforeDelimiter?, ← isSome_head?_delimiter, Function.comp_apply, List.head?_map]
    cases (delimiter.fits (place.after f.taken)).head? <;> rfl
  · intro f _ g hg
    obtain ⟨h, _, rfl⟩ := List.mem_map.1 (List.mem_of_mem_head? hg)
    rfl

theorem captureWord?_of_isBlank (hc : isBlank c) : captureWord? (c :: s) = none := by
  apply if_neg
  intro ha
  rw [isBlank_of_isAlpha ha] at hc
  cases hc

theorem capture?_eq_captureWord? (line : Text) : capture? line = captureWord? (trimLeft line) := by
  rw [capture?]
  cases trimLeft line <;> rfl

/-- Of the blanks that come first all are passed over: before one of them is no keyword. -/
theorem eq_takeWhile_of_captureWord? (ht : t <+: s) (hb : ∀ c ∈ t, isBlank c)
    (h : (captureWord? (s.drop t.length)).isSome) : t = s.takeWhile isBlank := by
  obtain ⟨rest, rfl⟩ := ht
  rw [List.drop_left] at h
  rw [List.takeWhile_append_of_pos hb]
  cases rest with
  | nil => cases h
  | cons c rest =>
    by_cases hc : isBlank c
    · rw [captureWord?_of_isBlank hc] at h
      cases h
    · rw [List.takeWhile_cons_of_neg hc, List.append_nil]

theorem head?_fits_blanks_word (place : Place) :
    ((seq (blanks 0) (seq (group word) delimiter)).fits place).head?.bind (·.group? 1) =
      captureWord? (trimLeft place.rest) := by
  have hword (t : Text) : (((seq (group word) delimiter).fits (place.after t)).map
      (Fit.followedBy ⟨t, []⟩)).head?.bind (·.group? 1) =
        captureWord? (place.rest.drop t.length) := by
    rw [← Place.rest_after, ← head?_fits_word, List.head?_map]
    cases ((seq (group word) delimiter).fits (place.after t)).head? <;> rfl
  have hblanks (f : Fit) := (Header.takes_blanks 0).mem_fits_iff place f
  rw [fits, List.head?_flatMap, findSome?_bind,
    findSome?_eq_of_unique (a := ⟨place.rest.takeWhile isBlank, []⟩), hword,
    drop_length_takeWhile_isBlank]
  · exact (hblanks _).2 ⟨_, List.takeWhile_prefix isBlank,
      ⟨Nat.zero_le _, isBlank_of_mem_takeWhile place.rest⟩, rfl⟩
  · intro f hf hsome
    obtain ⟨t, ht, ⟨_, hb⟩, rfl⟩ := (hblanks f).1 hf
    rw [hword] at hsome
    rw [eq_takeWhile_of_captureWord? ht hb hsome]
  · intro f hf g hg
    obtain ⟨t, _, _, rfl⟩ := (hblanks f).1 hf
    obtain ⟨h, hh, rfl⟩ := List.mem_map.1 (List.mem_of_mem_head? hg)
    obtain ⟨_, hw, _, _, rfl⟩ := mem_fits_seq.1 hh
    obtain ⟨_, _, rfl⟩ := mem_fits_group.1 hw
    rfl

/-- The keyword of a line is what the pattern captures. -/
theorem capture?_eq_captures? (line : Text) :
    capture? line = (pattern.captures? line).bind (·.group? 1) := by
  have hpattern : pattern = seq (anchor .start) (seq (blanks 0) (seq (group word) delimiter)) := rfl
  rw [captures?_of_start, capture?_eq_captureWord?, hpattern, fits_anchor_seq rfl,
    head?_fits_blanks_word]
  intro place f hf
  rw [hpattern, mem_fits_anchor_seq] at hf
  exact Option.isNone_iff_eq_none.1 hf.1

end Token

end SolverInput
