import SolverInput.Keyword
import SolverInput.Proofs.SmallLetters
import SolverInput.Proofs.Words

namespace SolverInput
set_option autoImplicit true

theorem toNat_of_isAlpha {c : Char} (h : c.isAlpha) :
    0x41 ≤ c.toNat ∧ c.toNat ≤ 0x5a ∨ 0x61 ≤ c.toNat ∧ c.toNat ≤ 0x7a := by
  rcases Bool.or_eq_true_iff.1 h with h | h
  · exact .inl (of_decide_eq_true h)
  · obtain ⟨hl, hu⟩ := Bool.and_eq_true_iff.1 h
    exact .inr ⟨of_decide_eq_true hl, of_decide_eq_true hu⟩

theorem isBlank_of_isAlpha {c : Char} (h : c.isAlpha) : isBlank c = false := by
  have hn := toNat_of_isAlpha h
  simp only [isBlank]
  simp
  omega

@[simp] theorem isAlpha_toLower (c : Char) : c.toLower.isAlpha = c.isAlpha :=
  apply_toLower (by decide +kernel) c

theorem toNat_of_isDigit {c : Char} (h : c.isDigit) : 0x30 ≤ c.toNat ∧ c.toNat ≤ 0x39 := by
  obtain ⟨hl, hu⟩ := Bool.and_eq_true_iff.1 h
  exact ⟨of_decide_eq_true hl, of_decide_eq_true hu⟩

theorem isBlank_of_isDigit {c : Char} (h : c.isDigit) : isBlank c = false := by
  have hn := toNat_of_isDigit h
  simp only [isBlank]
  simp
  omega

theorem toLower_of_isDigit {c : Char} (h : c.isDigit) : c.toLower = c := by
  apply dif_neg
  rintro ⟨ha, _⟩
  exact absurd (Nat.le_trans ha (toNat_of_isDigit h).2) (by decide)

theorem trimRight_isPrefix (s : Text) : trimRight s <+: s :=
  List.rdropWhile_prefix isBlank s

theorem trim_cons (rest : Text) (h : isBlank c = false) :
    ∃ mid, trim (c :: rest) = c :: mid ∧ mid <+: rest := by
  have hne : trimRight (c :: rest) ≠ [] := by
    intro he
    have hall := List.rdropWhile_eq_nil_iff.1 he
    have hc := hall c List.mem_cons_self
    simp [h] at hc
  rw [trim, trimLeft_cons rest h]
  exact (List.prefix_cons_iff.1 (trimRight_isPrefix (c :: rest))).resolve_left hne

/-- A text is found where it stands if its first character does not occur before. -/
theorem firstIndex?_append (part rest : Text) (h : ∀ x ∈ front, x ≠ c) :
    firstIndex? (c :: part) (front ++ (c :: part ++ rest)) = some front.length := by
  induction front with
  | nil =>
    have hp : (c :: part).isPrefixOf (c :: part ++ rest) :=
      List.isPrefixOf_iff_prefix.2 (List.prefix_append _ _)
    simp only [List.nil_append, List.cons_append, firstIndex?] at hp ⊢
    rw [if_pos hp]
    rfl
  | cons x front ih =>
    have hx : x ≠ c := h x List.mem_cons_self
    have hp : (c :: part).isPrefixOf (x :: (front ++ (c :: part ++ rest))) = false := by
      simp [List.isPrefixOf, Ne.symm hx]
    rw [List.cons_append, firstIndex?, hp, ih fun y hy => h y (List.mem_cons_of_mem _ hy)]
    rfl

namespace Token

/-- What keywords look like: a letter, then allowed characters. -/
def IsKeyword (s : Text) : Prop :=
  ∃ c rest, s = c :: rest ∧ c.isAlpha ∧ ∀ x ∈ rest, isAllowed x

theorem IsKeyword.isAllowed (h : IsKeyword s) : ∀ c ∈ s, isAllowed c := by
  obtain ⟨c, rest, rfl, hc, ha⟩ := h
  refine List.forall_mem_cons.2 ⟨?_, ha⟩
  simp [Token.isAllowed, Char.isAlphanum, hc]

theorem IsKeyword.ne_nil (h : IsKeyword s) : s ≠ [] := by
  obtain ⟨c, rest, rfl, _, _⟩ := h
  exact List.cons_ne_nil c rest

@[simp] theorem isAllowed_toLower (c : Char) : isAllowed c.toLower = isAllowed c :=
  apply_toLower (by decide +kernel) c

@[simp] theorem isDelimiter_toLower (c : Char) : isDelimiter c.toLower = isDelimiter c :=
  apply_toLower (by decide +kernel) c

theorem takeToDelimiter?_isPrefix (h : takeToDelimiter? s = some t) :
    t <+: s ∧ ∀ x ∈ t, isAllowed x := by
  fun_induction takeToDelimiter? s generalizing t with
  | case1 => cases h
  | case2 c rest hd =>
    cases h
    exact ⟨List.nil_prefix, by simp⟩
  | case3 c rest hd hc ih =>
    obtain ⟨u, hu, rfl⟩ := Option.map_eq_some_iff.1 h
    obtain ⟨hp, ha⟩ := ih hu
    exact ⟨List.cons_prefix_cons.2 ⟨rfl, hp⟩, List.forall_mem_cons.2 ⟨hc, ha⟩⟩
  | case4 => cases h

theorem capture?_eq_some (h : capture? line = some captured) :
    IsKeyword captured ∧ captured <+: trimLeft line := by
  unfold capture? at h
  split at h
  · cases h
  · rename_i c rest he
    split at h
    · rename_i hc
      obtain ⟨u, hu, rfl⟩ := Option.map_eq_some_iff.1 h
      obtain ⟨hp, ha⟩ := takeToDelimiter?_isPrefix hu
      exact ⟨⟨c, u, rfl, hc, ha⟩, he ▸ List.cons_prefix_cons.2 ⟨rfl, hp⟩⟩
    · cases h

theorem IsKeyword.trim (h : IsKeyword s) : IsKeyword (trim s) ∧ trim s <+: s := by
  obtain ⟨c, rest, rfl, hc, ha⟩ := h
  obtain ⟨mid, he, hp⟩ := trim_cons rest (isBlank_of_isAlpha hc)
  rw [he]
  exact ⟨⟨c, mid, rfl, hc, fun x hx => ha x (hp.subset hx)⟩, List.cons_prefix_cons.2 ⟨rfl, hp⟩⟩

theorem IsKeyword.firstIndex? (h : IsKeyword word) (hb : ∀ x ∈ blanks, isBlank x) (rest : Text) :
    firstIndex? word (blanks ++ (word ++ rest)) = some blanks.length := by
  obtain ⟨c, tail, rfl, hc, _⟩ := h
  -- The keyword begins with a letter, so the search cannot stop among the blanks.
  apply firstIndex?_append
  intro x hx he
  have hn := isBlank_of_isAlpha hc
  rw [← he, hb x hx] at hn
  cases hn

theorem exists_eq_append_of_capture? (h : capture? line = some captured) :
    IsKeyword (SolverInput.trim captured) ∧
      ∃ rest, line = line.takeWhile isBlank ++ (SolverInput.trim captured ++ rest) := by
  obtain ⟨hk, hp⟩ := capture?_eq_some h
  obtain ⟨hraw, hpre⟩ := hk.trim
  obtain ⟨rest, hrest⟩ := hpre.trans hp
  refine ⟨hraw, rest, ?_⟩
  rw [hrest]
  exact List.takeWhile_append_dropWhile.symm

/-- The search for the keyword always ends at its place, right after the blanks at the beginning of
the line. -/
theorem ofLine?_eq_map (line : Text) :
    ofLine? line = (capture? line).map fun s =>
      ⟨SolverInput.trim s, (line.takeWhile isBlank).length⟩ := by
  unfold ofLine?
  cases hc : capture? line with
  | none => rfl
  | some captured =>
    obtain ⟨hraw, rest, hline⟩ := exists_eq_append_of_capture? hc
    have hi := hraw.firstIndex? (isBlank_of_mem_takeWhile line) rest
    rw [← hline] at hi
    have hne : (SolverInput.trim captured).isEmpty = false := by
      obtain ⟨c, tail, he, _⟩ := hraw
      rw [he]
      rfl
    simp only [Option.bind_eq_bind, Option.bind_some, hi, hne]
    rfl

/-- Before the keyword of a line stand only blanks, and its column is their number. -/
theorem ofLine?_eq_some (h : ofLine? line = some t) :
    ∃ blanks rest, line = blanks ++ (t.raw ++ rest) ∧ (∀ x ∈ blanks, isBlank x) ∧
      t.start = blanks.length ∧ IsKeyword t.raw := by
  rw [ofLine?_eq_map, Option.map_eq_some_iff] at h
  obtain ⟨captured, hcap, rfl⟩ := h
  obtain ⟨hraw, rest, hline⟩ := exists_eq_append_of_capture? hcap
  exact ⟨_, rest, hline, isBlank_of_mem_takeWhile line, rfl, hraw⟩

@[elab_as_elim]
theorem isDelimiter_cases {motive : Char → Prop} (h : isDelimiter c) (assignment : motive '=')
    (bracket : motive '(') : motive c := by
  simp only [isDelimiter, Bool.or_eq_true, beq_iff_eq] at h
  rcases h with rfl | rfl
  · exact assignment
  · exact bracket

theorem not_isDelimiter_of_all {s : Text} (h : s.all fun c => !isDelimiter c) :
    ∀ c ∈ s, isDelimiter c = false := by
  intro c hc
  have hno := List.all_eq_true.1 h c hc
  rw [Bool.not_eq_true'] at hno
  exact hno

theorem isBlank_of_isDelimiter (h : isDelimiter c) : isBlank c = false :=
  isDelimiter_cases h (by decide) (by decide)

theorem isDelimiter_of_isAllowed (h : isAllowed c) : isDelimiter c = false := by
  rw [Bool.eq_false_iff]
  intro hd
  have hn : isAllowed c = false := isDelimiter_cases hd (by decide) (by decide)
  rw [h] at hn
  cases hn

theorem delimiterFollows_append (ht : ∀ x ∈ t, isDelimiter x = false) (hc : isDelimiter c)
    (z : Text) : delimiterFollows (t ++ c :: z) ↔ trimRight t = [] := by
  rw [trimRight_eq_nil_iff]
  induction t with
  | nil =>
    have hb := isBlank_of_isDelimiter hc
    simp [delimiterFollows, trimLeft, hb, hc]
  | cons x t ih =>
    obtain ⟨hx, ht⟩ := List.forall_mem_cons.1 ht
    rw [List.forall_mem_cons, ← ih ht]
    cases hb : isBlank x <;> simp [delimiterFollows, trimLeft, hb, hx]

/-- Which delimiter comes first and what is behind it does not matter. -/
theorem takeToDelimiter?_append_congr (ht : ∀ x ∈ t, isDelimiter x = false) (hc : isDelimiter c)
    (hd : isDelimiter d) (z w : Text) :
    takeToDelimiter? (t ++ c :: z) = takeToDelimiter? (t ++ d :: w) := by
  induction t with
  | nil =>
    have hone (e : Char) (he : isDelimiter e) (v : Text) : delimiterFollows (e :: v) :=
      (delimiterFollows_append ht he v).2 rfl
    rw [List.nil_append, List.nil_append, takeToDelimiter?, takeToDelimiter?, if_pos (hone c hc z),
      if_pos (hone d hd w)]
  | cons x t ih =>
    have hfollows : delimiterFollows (x :: t ++ c :: z) = delimiterFollows (x :: t ++ d :: w) := by
      rw [Bool.eq_iff_iff, delimiterFollows_append ht hc z, delimiterFollows_append ht hd w]
    obtain ⟨_, ht⟩ := List.forall_mem_cons.1 ht
    simp only [List.cons_append] at hfollows ⊢
    rw [takeToDelimiter?, takeToDelimiter?, hfollows, ih ht]

/-- A keyword is taken whole, without the blanks before its delimiter. -/
theorem takeToDelimiter?_append (ht : ∀ x ∈ t, isAllowed x) (hc : isDelimiter c) (z : Text) :
    takeToDelimiter? (t ++ c :: z) = some (trimRight t) := by
  induction t with
  | nil =>
    have hd := (delimiterFollows_append (t := []) (by simp) hc z).2 rfl
    rw [List.nil_append] at hd
    rw [List.nil_append, takeToDelimiter?, if_pos hd]
    rfl
  | cons x t ih =>
    have hd := delimiterFollows_append (fun y hy => isDelimiter_of_isAllowed (ht y hy)) hc z
    obtain ⟨hx, ht⟩ := List.forall_mem_cons.1 ht
    rw [List.cons_append] at hd ⊢
    rw [takeToDelimiter?, ih ht, if_pos hx, Option.map_some]
    -- It stops here if nothing but blanks is left before the delimiter.
    split
    · rename_i h
      rw [hd.1 h]
    · rename_i h
      rw [trimRight_cons fun he => h (hd.2 he)]

/-- A keyword is found if only blanks are around it, up to its delimiter. -/
theorem ofLine?_append (hr : IsKeyword r) (ht : trimRight r = r) (hu : ∀ x ∈ u, isBlank x)
    (hv : ∀ x ∈ v, isBlank x) (hc : isDelimiter c) (z : Text) :
    ofLine? (u ++ (r ++ (v ++ c :: z))) = some ⟨r, u.length⟩ := by
  have hi := hr.firstIndex? hu (v ++ c :: z)
  obtain ⟨x, rest, rfl, hx, ha⟩ := hr
  have hb := isBlank_of_isAlpha hx
  have hl : trimLeft (u ++ (x :: rest ++ (v ++ c :: z))) = x :: ((rest ++ v) ++ c :: z) := by
    rw [trimLeft_blanks_append _ hu, List.cons_append, trimLeft_cons _ hb, List.append_assoc]
  have hav : ∀ y ∈ rest ++ v, isAllowed y := by
    intro y hy
    rcases List.mem_append.1 hy with hy | hy
    · exact ha y hy
    · simp [isAllowed, hv y hy]
  have htaken : trimRight (x :: (rest ++ v)) = x :: rest := by
    rw [← List.cons_append, trimRight_append_blanks _ hv, ht]
  have hcap : capture? (u ++ (x :: rest ++ (v ++ c :: z))) = some (x :: rest) := by
    rw [capture?, hl]
    dsimp only
    rw [if_pos hx, takeToDelimiter?_append hav hc z, Option.map_some, ← htaken,
      trimRight_cons (by rw [htaken]; exact List.cons_ne_nil x rest)]
  have htrim : trim (x :: rest) = x :: rest := by
    rw [trim, trimLeft_cons rest hb, ht]
  simp only [ofLine?, hcap, Option.bind_eq_bind, Option.bind_some, htrim, hi]
  rfl

end Token

end SolverInput
