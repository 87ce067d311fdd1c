import SolverInput.Proofs.Values

namespace SolverInput
set_option autoImplicit true

namespace Token

theorem isDelimiter_iff : isDelimiter c ↔ c = '(' ∨ c = '=' := by
  rw [isDelimiter, Bool.or_eq_true, beq_iff_eq, beq_iff_eq, or_comm]

theorem isDelimiter_eq_false_iff : isDelimiter c = false ↔ c ≠ '(' ∧ c ≠ '=' := by
  rw [← not_or, ← isDelimiter_iff, Bool.not_eq_true]

/-- A keyword stands on the line in front of the first delimiter, blanks around it aside. It begins
with a letter and has letters, digits, blanks, hyphens and braces. -/
structure Assigns (line raw : Text) : Prop where
  delimited : ∃ front c rest, line = front ++ c :: rest ∧ (c = '(' ∨ c = '=') ∧
    (∀ x ∈ front, x ≠ '(' ∧ x ≠ '=') ∧ raw = trim front
  letter_first : ∃ c, raw.head? = some c ∧ c.isAlpha
  characters : ∀ x ∈ raw, x.isAlpha ∨ x.isDigit ∨ isBlank x ∨ x = '-' ∨ x = '\x7b' ∨ x = '\x7d'

theorem isAllowed_iff :
    isAllowed c ↔ c.isAlpha ∨ c.isDigit ∨ isBlank c ∨ c = '-' ∨ c = '\x7b' ∨ c = '\x7d' := by
  simp only [isAllowed, Char.isAlphanum, Bool.or_eq_true, beq_iff_eq, or_assoc]

theorem isKeyword_iff :
    IsKeyword s ↔ (∃ c, s.head? = some c ∧ c.isAlpha) ∧ ∀ x ∈ s, isAllowed x := by
  constructor
  · intro h
    have hall := h.isAllowed
    obtain ⟨c, rest, rfl, hc, _⟩ := h
    exact ⟨⟨c, rfl, hc⟩, hall⟩
  · rintro ⟨⟨c, hs, hc⟩, hall⟩
    obtain ⟨rest, rfl⟩ := List.head?_eq_some_iff.1 hs
    exact ⟨c, rest, rfl, hc, fun x hx => hall x (List.mem_cons_of_mem c hx)⟩

theorem takeToDelimiter?_of_not_isDelimiter (hs : ∀ x ∈ s, isDelimiter x = false) :
    takeToDelimiter? s = none := by
  induction s with
  | nil => rfl
  | cons c s ih =>
    have hno : delimiterFollows (c :: s) = false := by
      rw [delimiterFollows, Option.any_eq_false]
      intro x hx
      have hmem := List.dropWhile_subset isBlank (List.mem_of_head? hx)
      exact hs x hmem
    rw [takeToDelimiter?, hno, ih (List.forall_mem_cons.1 hs).2]
    simp

theorem isAllowed_of_takeToDelimiter? (ht : ∀ x ∈ t, isDelimiter x = false) (hc : isDelimiter c)
    (h : takeToDelimiter? (t ++ c :: z) = some u) : ∀ x ∈ t, isAllowed x := by
  induction t generalizing u with
  | nil => simp
  | cons x t ih =>
    have hfollows := delimiterFollows_append ht hc z
    rw [List.cons_append] at h hfollows
    rw [takeToDelimiter?] at h
    split at h
    · rename_i hd
      intro y hy
      exact isAllowed_iff.2 (.inr (.inr (.inl (trimRight_eq_nil_iff.1 (hfollows.1 hd) y hy))))
    · split at h
      · rename_i hx
        obtain ⟨v, hv, _⟩ := Option.map_eq_some_iff.1 h
        exact List.forall_mem_cons.2 ⟨hx, ih (List.forall_mem_cons.1 ht).2 hv⟩
      · cases h

theorem exists_isDelimiter_of_ofLine? (h : ofLine? line = some t) : ∃ c ∈ line, isDelimiter c := by
  by_contra hno
  push Not at hno
  rw [ofLine?_eq_map, Option.map_eq_some_iff] at h
  obtain ⟨captured, hcap, _⟩ := h
  unfold capture? at hcap
  split at hcap
  · cases hcap
  · rename_i c rest he
    have hsub : c :: rest ⊆ line := he ▸ List.dropWhile_subset isBlank
    have hnone : takeToDelimiter? rest = none := by
      apply takeToDelimiter?_of_not_isDelimiter
      intro x hx
      exact Bool.eq_false_iff.2 (hno x (hsub (List.mem_cons_of_mem c hx)))
    rw [hnone] at hcap
    split at hcap <;> cases hcap

theorem start_eq_of_ofLine? (h : ofLine? line = some t) :
    t.start = (line.takeWhile isBlank).length := by
  rw [ofLine?_eq_map, Option.map_eq_some_iff] at h
  obtain ⟨_, _, rfl⟩ := h
  rfl

/-- Nothing but what the grammar allows is taken. -/
theorem isKeyword_of_ofLine? (hf : ∀ x ∈ front, isDelimiter x = false) (hc : isDelimiter c)
    (h : ofLine? (front ++ c :: z) = some t) : IsKeyword (SolverInput.trim front) := by
  rw [ofLine?_eq_map, Option.map_eq_some_iff] at h
  obtain ⟨captured, hcap, _⟩ := h
  rw [capture?, trimLeft_append_cons front z (isBlank_of_isDelimiter hc)] at hcap
  cases hleft : trimLeft front with
  | nil =>
    have hno : c.isAlpha = false := isDelimiter_cases hc (by decide) (by decide)
    rw [hleft, List.nil_append] at hcap
    simp [hno] at hcap
  | cons x rest =>
    rw [hleft, List.cons_append] at hcap
    dsimp only at hcap
    split at hcap
    · rename_i hx
      obtain ⟨u, hu, _⟩ := Option.map_eq_some_iff.1 hcap
      have hrest : ∀ y ∈ rest, isDelimiter y = false := by
        intro y hy
        apply hf y (List.dropWhile_subset isBlank (l := front) _)
        rw [show front.dropWhile isBlank = x :: rest from hleft]
        exact List.mem_cons_of_mem x hy
      have hk : IsKeyword (x :: rest) :=
        ⟨x, rest, rfl, hx, isAllowed_of_takeToDelimiter? hrest hc hu⟩
      have htrim : SolverInput.trim (x :: rest) = SolverInput.trim front := by
        rw [← hleft, SolverInput.trim, SolverInput.trim, trimLeft_trimLeft]
      exact htrim ▸ hk.trim.1
    · cases hcap

/-- All that the grammar allows is taken. -/
theorem exists_ofLine?_of_isKeyword (hk : IsKeyword (SolverInput.trim front)) (hc : isDelimiter c)
    (z : Text) : ∃ start, ofLine? (front ++ c :: z) = some ⟨SolverInput.trim front, start⟩ := by
  obtain ⟨left, right, hfront, hl, hr⟩ := exists_eq_pad_trim front
  have htrim := List.rdropWhile_idempotent isBlank (trimLeft front)
  have hline := ofLine?_append hk htrim hl hr hc z
  have hsame : left ++ (SolverInput.trim front ++ (right ++ c :: z)) = front ++ c :: z := by
    rw [← List.append_assoc _ right, ← List.append_assoc, ← hfront]
  rw [hsame] at hline
  exact ⟨_, hline⟩

theorem exists_front_of_isDelimiter (h : ∃ c ∈ line, isDelimiter c) :
    ∃ front c rest, line = front ++ c :: rest ∧ isDelimiter c ∧
      ∀ x ∈ front, isDelimiter x = false := by
  obtain ⟨c, hfind⟩ := Option.isSome_iff_exists.1 (List.find?_isSome.2 h)
  obtain ⟨hc, front, rest, hline, hfront⟩ := List.find?_eq_some_iff_append.1 hfind
  exact ⟨front, c, rest, hline, hc, fun x hx => by simpa using hfront x hx⟩

theorem ofLine?_eq_some_iff :
    ofLine? line = some t ↔
      Assigns line t.raw ∧ t.start = (line.takeWhile isBlank).length := by
  constructor
  · intro h
    refine ⟨?_, start_eq_of_ofLine? h⟩
    obtain ⟨front, c, rest, rfl, hc, hf⟩ :=
      exists_front_of_isDelimiter (exists_isDelimiter_of_ofLine? h)
    have hk := isKeyword_of_ofLine? hf hc h
    obtain ⟨start, hstart⟩ := exists_ofLine?_of_isKeyword hk hc rest
    obtain rfl := Option.some.inj (h.symm.trans hstart)
    obtain ⟨hletter, hall⟩ := isKeyword_iff.1 hk
    have hfree : ∀ x ∈ front, x ≠ '(' ∧ x ≠ '=' := fun x hx => isDelimiter_eq_false_iff.1 (hf x hx)
    exact ⟨⟨front, c, rest, rfl, isDelimiter_iff.1 hc, hfree, rfl⟩, hletter,
      fun x hx => isAllowed_iff.1 (hall x hx)⟩
  · rintro ⟨⟨⟨front, c, rest, rfl, hc, _, hraw⟩, hletter, hall⟩, hstart⟩
    have hk : IsKeyword t.raw := isKeyword_iff.2 ⟨hletter, fun x hx => isAllowed_iff.2 (hall x hx)⟩
    rw [hraw] at hk
    obtain ⟨start, hline⟩ := exists_ofLine?_of_isKeyword hk (isDelimiter_iff.2 hc) rest
    have hsame : start = t.start := (start_eq_of_ofLine? hline).trans hstart.symm
    rw [hline, hsame, ← hraw]

theorem content_of_ofLine? (h : ofLine? line = some t) : LineRole.ofLine line = .content := by
  obtain ⟨c, hmem, hc⟩ := exists_isDelimiter_of_ofLine? h
  obtain ⟨blanks, rest, hline, hb, _, x, tail, hraw, hx, _⟩ := ofLine?_eq_some h
  have hhead : (trimLeft line).head? = some x := by
    rw [hline, trimLeft_blanks_append _ hb, hraw, List.cons_append,
      trimLeft_cons _ (isBlank_of_isAlpha hx), List.head?_cons]
  rw [LineRole.ofLine_of_isDelimiter hmem hc, hhead, if_neg]
  intro he
  cases he
  cases hx

end Token

/-- A line has a keyword exactly if the grammar gives it one, and a line that has one is content:
neither a header nor an `end` nor a comment has a keyword that is passed over. -/
theorem token_exact (line : Text) :
    (∀ t, Token.ofLine? line = some t ↔
      Token.Assigns line t.raw ∧ t.start = (line.takeWhile isBlank).length) ∧
      (∀ t, Token.ofLine? line = some t →
        t.keyword = normalize t.raw ∧ t.stop = t.start + t.raw.length ∧
          LineRole.ofLine line = .content) ∧
      lineToken? line = Token.ofLine? line := by
  refine ⟨fun t => Token.ofLine?_eq_some_iff, ?_, ?_⟩
  · intro t h
    exact ⟨rfl, rfl, Token.content_of_ofLine? h⟩
  · cases h : Token.ofLine? line with
    | none =>
      unfold lineToken?
      split
      · exact h
      · rfl
    | some t => rw [lineToken?, Token.content_of_ofLine? h, h]

/-- Wide blanks, line breaks inside the keyword and before it, braces, and three delimiters. -/
theorem token_exact_broken :
    let line := "\u3000\nStress \x7be\x7d\r\u2028 1 \t(3) = =".toList
    let t : Token := ⟨"Stress \x7be\x7d\r\u2028 1".toList, 2⟩
    Token.ofLine? line = some t ∧ Token.Assigns line t.raw ∧ LineRole.ofLine line = .content ∧
      lineToken? line = some t := by
  intro line t
  have h : Token.ofLine? line = some t := by decide +kernel
  obtain ⟨hassigns, hcontent, hline⟩ := token_exact line
  exact ⟨h, ((hassigns t).1 h).1, (hcontent t h).2.2, hline.trans h⟩

end SolverInput
