import Mathlib.Data.List.Forall2
import SolverInput.Line
import SolverInput.Proofs.CharSets
import SolverInput.Proofs.Fits
import SolverInput.Proofs.NormalForm

namespace SolverInput
set_option autoImplicit true

theorem forall₂_iff_map_eq (h : ∀ y ∈ ys, ∀ x, R x y ↔ f x = y) :
    List.Forall₂ R xs ys ↔ xs.map f = ys := by
  induction ys generalizing xs with
  | nil => rw [List.forall₂_nil_right_iff, List.map_eq_nil_iff]
  | cons y ys ih =>
    obtain ⟨hy, hys⟩ := List.forall_mem_cons.1 h
    rw [List.forall₂_cons_right_iff, List.map_eq_cons_iff]
    simp only [hy, ih hys]
    constructor
    · rintro ⟨x, xs', hx, hxs, rfl⟩
      exact ⟨x, xs', rfl, hx, hxs⟩
    · rintro ⟨x, xs', rfl, hx, hxs⟩
      exact ⟨x, xs', hx, hxs, rfl⟩

namespace Section

/-- The words of the line that opens a section of this kind, in lower case. -/
def title : Section → List Text
  | header => ["header".toList]
  | simulation => ["simulation".toList]
  | constants => ["constants".toList]
  | equation => ["equation".toList]
  | solver => ["solver".toList]
  | material => ["material".toList]
  | body => ["body".toList]
  | bodyForce => ["body".toList, "force".toList]
  | boundaryCondition => ["boundary".toList, "condition".toList]
  | initialCondition => ["initial".toList, "condition".toList]
  | component => ["component".toList]
  | boundary => ["boundary".toList]

/-- The titles have small letters of ASCII and nothing else. None is a k, which a sign beyond ASCII
could stand for. -/
theorem isLower_of_mem_title (s : Section) (hw : w ∈ s.title) (hc : c ∈ w) :
    c.isLower ∧ c ≠ 'k' := by
  have h : ∀ s ∈ all, ∀ w ∈ s.title, w.all fun c => c.isLower && c != 'k' := by
    decide
  simpa using List.all_eq_true.1 (h s s.mem_all w hw) c hc

theorem title_ne_nil (s : Section) : s.title ≠ [] := by
  cases s <;> exact List.cons_ne_nil _ _

theorem ne_nil_of_mem_title (s : Section) (hw : w ∈ s.title) : w ≠ [] := by
  have h : ∀ s ∈ all, ∀ w ∈ s.title, w ≠ [] := by
    decide
  exact h s s.mem_all w hw

/-- The table of names and the titles say the same. -/
theorem ofName?_eq_some_iff : ofName? n = some s ↔ n = unwords s.title := by
  constructor
  · intro h
    have hall : ∀ entry ∈ names, entry.1 = unwords entry.2.title := by
      decide
    obtain ⟨before, after, hn, _⟩ := List.lookup_eq_some_iff.1 h
    exact hall (n, s) (hn ▸ List.mem_append_right before List.mem_cons_self)
  · rintro rfl
    cases s <;> decide

end Section

namespace Header

/-- In a title `c` may stand for the small letter `x`: letters of either case, and a long s. -/
def ReadsAs (c x : Char) : Prop :=
  c.toLower = x ∨ c = 'ſ' ∧ x = 's'

/-- The words are the title of sections of the kind `s`, however it is written. -/
def Spells (title : List Text) (s : Section) : Prop :=
  List.Forall₂ (List.Forall₂ ReadsAs) title s.title

/-- The header of a line with the words `title` and a number after them, or none. -/
structure Heads (h : Header) (s : Section) (title : List Text) : Prop where
  spelled : Spells title s
  digits : ∀ n ∈ h.index, n ≠ [] ∧ ∀ c ∈ n, c.isDigit
  name_eq : h.name = unwords (title.map (·.map Char.toLower))

/-- The number after a title, with the blanks before it, or nothing. -/
inductive Tail : Option Text → Text → Prop
  | none : Tail none []
  | some (hb : blanks ≠ []) (hblank : ∀ c ∈ blanks, isBlank c) (hn : n ≠ [])
    (hd : ∀ c ∈ n, c.isDigit) : Tail (some n) (blanks ++ n)

theorem Tail.digits {index : Option Text} (h : Tail index t) :
    ∀ n ∈ index, n ≠ [] ∧ ∀ c ∈ n, c.isDigit := by
  cases h with
  | none => exact nofun
  | some _ _ hn hd =>
    rintro _ ⟨⟩
    exact ⟨hn, hd⟩

@[simp] theorem toLower_longS : 'ſ'.toLower = 'ſ' := by
  decide

theorem readsAs_iff (hx : x.isLower) (hk : x ≠ 'k') : ReadsAs c x ↔ foldCase c = x := by
  have hn : x.toNat < 0x80 := by
    have := toNat_of_isAlpha (Bool.or_eq_true_iff.2 (.inr hx))
    omega
  have hforeign {c : Char} (hc : 0x80 ≤ c.toNat) : c ≠ x := by
    rintro rfl
    omega
  rw [ReadsAs]
  obtain ⟨hc, hf⟩ | rfl | rfl | ⟨hc, hf⟩ := foldCase_cases c
  · rw [hf]
    refine or_iff_left ?_
    rintro ⟨rfl, _⟩
    exact absurd hc (by decide)
  · rw [foldCase_longS, toLower_longS]
    simp [hforeign (c := 'ſ') (by decide), eq_comm]
  · rw [foldCase_kelvin, toLower_of_not_ascii (c := '\u212a') (by decide)]
    simp [hforeign (c := '\u212a') (by decide), hk.symm]
  · rw [toLower_of_not_ascii hc]
    simp only [hforeign hc, hforeign hf, false_or, iff_false, not_and]
    rintro rfl
    rw [foldCase_longS] at hf
    exact absurd hf (by decide)

theorem isAlpha_or_of_readsAs (h : ReadsAs c x) (hx : x.isLower) : c.isAlpha ∨ c = 'ſ' := by
  rcases h with rfl | ⟨hc, _⟩
  · rw [← isAlpha_toLower]
    exact .inl (Bool.or_eq_true_iff.2 (.inr hx))
  · exact .inr hc

theorem smallLetter_of_isAlpha_or (h : c.isAlpha ∨ c = 'ſ') : smallLetter c = [c.toLower] := by
  rcases h with h | rfl
  · have hn := toNat_of_isAlpha h
    exact smallLetter_of_ascii (by omega)
  · decide +kernel

theorem spells_iff : Spells title s ↔ title.map (·.map foldCase) = s.title := by
  apply forall₂_iff_map_eq
  intro v hv w
  apply forall₂_iff_map_eq
  intro x hx c
  obtain ⟨hl, hk⟩ := s.isLower_of_mem_title hv hx
  exact readsAs_iff hl hk

namespace Spells

theorem isAlpha_or (h : Spells title s) (hw : w ∈ title) (hc : c ∈ w) : c.isAlpha ∨ c = 'ſ' := by
  have hmem : w.map foldCase ∈ s.title := spells_iff.1 h ▸ List.mem_map_of_mem hw
  obtain ⟨hl, hk⟩ := s.isLower_of_mem_title hmem (List.mem_map_of_mem hc)
  exact isAlpha_or_of_readsAs ((readsAs_iff hl hk).2 rfl) hl

theorem isWord (h : Spells title s) : ∀ w ∈ title, IsWord w := by
  intro w hw
  refine ⟨?_, ?_⟩
  · rintro rfl
    exact s.ne_nil_of_mem_title (spells_iff.1 h ▸ List.mem_map_of_mem hw) rfl
  · intro c hc
    rcases h.isAlpha_or hw hc with ha | rfl
    · exact isBlank_of_isAlpha ha
    · decide

theorem ne_nil (h : Spells title s) : title ≠ [] := by
  rintro rfl
  exact s.title_ne_nil (spells_iff.1 h).symm

/-- No word of a title is a number. -/
theorem not_isDigit (h : Spells title s) (hw : w ∈ title) : ∃ c ∈ w, c.isDigit = false := by
  obtain ⟨c, v, rfl⟩ := List.exists_cons_of_ne_nil (h.isWord w hw).ne_nil
  refine ⟨c, List.mem_cons_self, ?_⟩
  rcases h.isAlpha_or hw List.mem_cons_self with ha | rfl
  · rw [Bool.eq_false_iff]
    intro hd
    have ha := toNat_of_isAlpha ha
    have hd := toNat_of_isDigit hd
    omega
  · decide

theorem lowercase_unwords (h : Spells title s) :
    lowercase (unwords title) = unwords (title.map (·.map Char.toLower)) := by
  have hone : ∀ c ∈ unwords title, smallLetter c = [c.toLower] := by
    intro c hc
    rcases mem_unwords hc with rfl | ⟨w, hw, hc⟩
    · decide +kernel
    · exact smallLetter_of_isAlpha_or (h.isAlpha_or hw hc)
  have hsigma : 'Σ'.toLower = 'Σ' := by
    decide
  rw [lowercase, lowerAfter_eq_map [] hsigma hone]
  exact map_unwords (by decide) title

end Spells

theorem Heads.words_ne_nil (h : Heads hd s title) : title ++ hd.index.toList ≠ [] :=
  List.append_ne_nil_of_left_ne_nil h.spelled.ne_nil _

theorem Heads.isWord (h : Heads hd s title) : ∀ w ∈ title ++ hd.index.toList, IsWord w := by
  intro w hw
  rcases List.mem_append.1 hw with hw | hw
  · exact h.spelled.isWord w hw
  · obtain ⟨hne, hdigits⟩ := h.digits w (Option.mem_toList.1 hw)
    refine ⟨hne, ?_⟩
    intro c hc
    exact isBlank_of_isDigit (hdigits c hc)

theorem Heads.number_not_mem (h : Heads hd s title) (h' : Heads hd' s' title')
    (hn : hd'.index = some n) : n ∉ title := by
  intro hmem
  obtain ⟨c, hc, hdigit⟩ := h.spelled.not_isDigit hmem
  rw [(h'.digits n hn).2 c hc] at hdigit
  cases hdigit

/-- The words of a line tell its header. -/
theorem Heads.unique (h : Heads hd s title) (h' : Heads hd' s' title')
    (he : title ++ hd.index.toList = title' ++ hd'.index.toList) : hd = hd' := by
  obtain ⟨rfl, hindex⟩ : title = title' ∧ hd.index = hd'.index := by
    cases hi : hd.index with
    | none =>
      cases hi' : hd'.index with
      | none => simpa [hi, hi'] using he
      | some n =>
        rw [hi, hi', Option.toList_none, List.append_nil, Option.toList_some] at he
        exact (h.number_not_mem h' hi' (he ▸ List.mem_append_right title' List.mem_cons_self)).elim
    | some n =>
      cases hi' : hd'.index with
      | none =>
        rw [hi, hi', Option.toList_none, List.append_nil, Option.toList_some] at he
        exact (h'.number_not_mem h hi (he ▸ List.mem_append_right title List.mem_cons_self)).elim
      | some n' => simpa [hi, hi'] using he
  have hname := h.name_eq.trans h'.name_eq.symm
  cases hd
  cases hd'
  exact congr (congrArg Header.mk hname) hindex

section Patterns
open Pattern

theorem takes_blanks (least : Nat) :
    Takes (.blanks least) fun t => least ≤ t.length ∧ ∀ c ∈ t, isBlank c := by
  apply (Takes.many _ _ _).congr
  simp

/-- Letters for which the pattern allows what a title may have. -/
def isPlain (w : Text) : Bool :=
  w.all fun x => x.isAlpha && x.toLower != 'k'

theorem contains_letter_iff (hx : x.isAlpha) (hk : x.toLower ≠ 'k') :
    (CharSet.caseless (.single x)).contains c ↔ ReadsAs c x.toLower := by
  have hl : x.toLower.isLower := by
    have hn := toNat_of_isAlpha hx
    exact forall_ascii (P := fun x => x.isAlpha → x.toLower.isLower) (by decide +kernel)
      (by omega) hx
  rw [CharSet.contains_caseless_single hx, readsAs_iff hl hk]

theorem takes_letters_append (hw : isPlain w) (hps : Takes (.sequence ps) Q) :
    Takes (.sequence (w.map .letter ++ ps)) fun t =>
      ∃ u v, List.Forall₂ ReadsAs u (w.map Char.toLower) ∧ Q v ∧ t = u ++ v := by
  induction w with
  | nil =>
    apply hps.congr
    simp
  | cons x w ih =>
    simp only [isPlain, List.all_cons, Bool.and_eq_true, bne_iff_ne] at hw
    obtain ⟨⟨hx, hk⟩, hw⟩ := hw
    apply (Takes.sequence_cons (.one _) (ih hw)).congr
    intro t
    simp only [contains_letter_iff hx hk]
    constructor
    · rintro ⟨_, _, ⟨c, hc, rfl⟩, ⟨u, v, hu, hv, rfl⟩, rfl⟩
      exact ⟨c :: u, v, .cons hc hu, hv, rfl⟩
    · rintro ⟨_, v, hcu, hv, rfl⟩
      obtain ⟨c, u, hc, hu, rfl⟩ := List.forall₂_cons_right_iff.1 hcu
      exact ⟨[c], u ++ v, ⟨c, hc, rfl⟩, ⟨u, v, hu, hv, rfl⟩, rfl⟩

theorem takes_word (hw : isPlain w) :
    Takes (.sequence (w.map .letter)) fun t => List.Forall₂ ReadsAs t (w.map Char.toLower) := by
  have h : Takes (.sequence (w.map .letter ++ [])) _ := takes_letters_append hw Takes.empty
  rw [List.append_nil] at h
  apply h.congr
  simp

theorem takes_titlePattern {title : List String} (hne : title ≠ [])
    (hw : ∀ w ∈ title, isPlain w.toList) : Takes (titlePattern title) fun t =>
      ∃ ws, List.Forall₂ (List.Forall₂ ReadsAs) ws (title.map (·.toList.map Char.toLower)) ∧
        Joined ws t := by
  induction title with
  | nil => exact (hne rfl).elim
  | cons w title ih =>
    obtain ⟨hword, htitle⟩ := List.forall_mem_cons.1 hw
    rw [titlePattern, List.map_cons]
    by_cases hnil : title = []
    · rw [hnil, List.map_nil, List.intercalate_singleton]
      apply (takes_word hword).congr
      intro t
      constructor
      · intro hu
        exact ⟨[t], .cons hu .nil, .single t⟩
      · rintro ⟨_, hws, hj⟩
        obtain ⟨u, us, hu, hus, rfl⟩ := List.forall₂_cons_right_iff.1 hws
        obtain rfl := List.forall₂_nil_right_iff.1 hus
        obtain rfl := joined_singleton_iff.1 hj
        exact hu
    · rw [List.intercalate_cons_of_ne_nil (by simpa using hnil), List.append_assoc]
      have hrest := (takes_blanks 1).sequence_cons (ih hnil htitle)
      apply (takes_letters_append hword hrest).congr
      intro t
      rw [List.map_cons]
      constructor
      · rintro ⟨u, _, hu, ⟨b, v, ⟨hb, hblank⟩, ⟨ws, hws, hj⟩, rfl⟩, rfl⟩
        exact ⟨u :: ws, .cons hu hws, .cons u (List.ne_nil_of_length_pos hb) hblank hj⟩
      · rintro ⟨_, huws, hj⟩
        obtain ⟨u, ws, hu, hws, rfl⟩ := List.forall₂_cons_right_iff.1 huws
        have hne : ws ≠ [] := by
          rintro rfl
          exact hnil (by simpa using hws)
        obtain ⟨b, v, hb, hblank, hv, rfl⟩ := (joined_cons_iff hne).1 hj
        have hpos := List.length_pos_of_ne_nil hb
        exact ⟨u, b ++ v, hu, ⟨b, v, ⟨hpos, hblank⟩, ⟨ws, hws, hv⟩, rfl⟩, rfl⟩

theorem titles_plain : ∀ title ∈ titles, title ≠ [] ∧ ∀ w ∈ title, isPlain w.toList := by
  decide

/-- The pattern has the titles of all sections, if in another order, and no others. -/
theorem exists_mem_titles_iff {P : List Text → Prop} :
    (∃ title ∈ titles, P (title.map (·.toList.map Char.toLower))) ↔ ∃ s : Section, P s.title := by
  have hto : ∀ title ∈ titles, ∃ s ∈ Section.all,
      title.map (·.toList.map Char.toLower) = s.title := by
    decide
  have hfrom : ∀ s ∈ Section.all, ∃ title ∈ titles,
      title.map (·.toList.map Char.toLower) = s.title := by
    decide
  constructor
  · rintro ⟨title, ht, hP⟩
    obtain ⟨s, _, he⟩ := hto title ht
    exact ⟨s, he ▸ hP⟩
  · rintro ⟨s, hP⟩
    obtain ⟨title, ht, he⟩ := hfrom s s.mem_all
    exact ⟨title, ht, he ▸ hP⟩

theorem takes_titles : Takes (.choice (titles.map titlePattern)) fun t =>
    ∃ s ws, Spells ws s ∧ Joined ws t := by
  have h : Takes (.choice (titles.map titlePattern)) _ := Takes.choice
    (fun title ht => takes_titlePattern (titles_plain title ht).1 (titles_plain title ht).2)
    (List.cons_ne_nil _ _)
  apply h.congr
  intro t
  exact exists_mem_titles_iff
    (P := fun title => ∃ ws, List.Forall₂ (List.Forall₂ ReadsAs) ws title ∧ Joined ws t)

theorem takes_digits : Takes (.repeated (.one (.caseless (.span '0' '9'))) 1 none false) fun t =>
    1 ≤ t.length ∧ ∀ c ∈ t, c.isDigit := by
  apply (Takes.many _ _ _).congr
  simp

theorem mem_fits_number : f ∈ (repeated numberPattern 0 (some 1) false).fits place ↔
    ∃ index t, t <+: place.rest ∧ Tail index t ∧ f = ⟨t, [index]⟩ := by
  rw [mem_fits_optional]
  simp only [numberPattern, mem_fits_seq, mem_fits_group, (takes_blanks 1).mem_fits_iff,
    takes_digits.mem_fits_iff]
  constructor
  · rintro (rfl |
      ⟨_, ⟨_, ⟨b, hbp, ⟨hb, hblank⟩, rfl⟩, _, ⟨_, ⟨n, hnp, ⟨hn, hd⟩, rfl⟩, rfl⟩, rfl⟩, rfl⟩)
    · exact ⟨none, [], List.nil_prefix, .none, rfl⟩
    · refine ⟨some n, b ++ n, append_isPrefix_iff.2 ⟨hbp, hnp⟩, ?_, ?_⟩
      · exact .some (List.ne_nil_of_length_pos hb) hblank (List.ne_nil_of_length_pos hn) hd
      · simp [Fit.repeatedBy, Fit.followedBy, noGroups, groupCount, blanks]
  · rintro ⟨_, _, hp, ⟨⟩ | ⟨hb, hblank, hn, hd⟩, rfl⟩
    · exact .inl rfl
    · rename_i b n
      obtain ⟨hbp, hnp⟩ := append_isPrefix_iff.1 hp
      refine .inr ⟨⟨b ++ n, [some n]⟩, ⟨_, ⟨b, hbp, ⟨List.length_pos_of_ne_nil hb, hblank⟩, rfl⟩, _,
        ⟨_, ⟨n, hnp, ⟨List.length_pos_of_ne_nil hn, hd⟩, rfl⟩, rfl⟩, rfl⟩, ?_⟩
      simp [Fit.repeatedBy, noGroups, groupCount, blanks]

/-- The pattern fits a line from its start to its end, or not at all. -/
theorem mem_fits_pattern : f ∈ pattern.fits place ↔
    place.last = none ∧ ∃ left u index tail right,
      place.rest = left ++ (u ++ (tail ++ right)) ∧ (∀ c ∈ left, isBlank c) ∧
        (∀ c ∈ right, isBlank c) ∧ (∃ s ws, Spells ws s ∧ Joined ws u) ∧ Tail index tail ∧
          f = ⟨place.rest, [some u, index]⟩ := by
  simp only [pattern, Pattern.sequence, mem_fits_empty_seq, mem_fits_anchor_seq,
    (takes_blanks 0).mem_fits_seq, takes_titles.mem_fits_group_seq,
    mem_fits_seq (p := repeated _ _ _ _), mem_fits_number, mem_fits_anchor, Anchor.holds,
    Place.after_after, Place.rest_after, List.isEmpty_iff, Option.isNone_iff_eq_none, Nat.zero_le,
    true_and]
  apply and_congr_right
  intro _
  constructor
  · rintro ⟨left, hlp, hl, _, ⟨u, hup, hu, _, ⟨_, ⟨index, tail, htp, htail, rfl⟩, _,
      ⟨right, hrp, hr, _, ⟨hend, rfl⟩, rfl⟩, rfl⟩, rfl⟩, rfl⟩
    have hall : left ++ u ++ tail ++ right <+: place.rest :=
      append_isPrefix_iff.2
        ⟨append_isPrefix_iff.2 ⟨append_isPrefix_iff.2 ⟨hlp, hup⟩, htp⟩, hrp⟩
    have he := hall.eq_of_length_le (List.drop_eq_nil_iff.1 hend)
    refine ⟨left, u, index, tail, right, ?_, hl, hr, hu, htail, ?_⟩
    · simp [← he]
    · simp [← he, Fit.followedBy]
  · rintro ⟨left, u, index, tail, right, he, hl, hr, hu, htail, rfl⟩
    refine ⟨left, ?_, hl, _, ⟨u, ?_, hu, _, ⟨_, ⟨index, tail, ?_, htail, rfl⟩, _,
      ⟨right, ?_, hr, _, ⟨?_, rfl⟩, rfl⟩, rfl⟩, rfl⟩, ?_⟩
    all_goals simp [he, Fit.followedBy]

end Patterns

/-- A header line is a title and a number or none, spread over the line. -/
theorem spread_iff {index : Option Text} (hne : title ≠ [])
    (hd : ∀ n ∈ index, n ≠ [] ∧ ∀ c ∈ n, c.isDigit) :
    Spread (title ++ index.toList) line ↔ ∃ left u tail right,
      line = left ++ (u ++ (tail ++ right)) ∧ (∀ c ∈ left, isBlank c) ∧
        (∀ c ∈ right, isBlank c) ∧ Joined title u ∧ Tail index tail := by
  constructor
  · rintro ⟨left, body, right, rfl, hl, hr, hj⟩
    cases index with
    | none =>
      rw [Option.toList_none, List.append_nil] at hj
      exact ⟨left, body, [], right, rfl, hl, hr, hj, .none⟩
    | some n =>
      obtain ⟨hn, hdigits⟩ := hd n rfl
      obtain ⟨u, b, t, rfl, hb, hblank, hu, ht⟩ := hj.exists_eq_append hne (List.cons_ne_nil n [])
      obtain rfl := joined_singleton_iff.1 ht
      exact ⟨left, u, b ++ t, right, by simp, hl, hr, hu, .some hb hblank hn hdigits⟩
  · rintro ⟨left, u, _, right, rfl, hl, hr, hj, ⟨⟩ | ⟨hb, hblank, hn, hdigits⟩⟩
    · rw [Option.toList_none, List.append_nil]
      exact ⟨left, u, right, rfl, hl, hr, hj⟩
    · refine ⟨left, _, right, ?_, hl, hr, hj.append hb hblank (.single _)⟩
      simp

/-- Each fit of the pattern gives the header that the words of the line make up. -/
theorem ofFit?_of_mem_fits (hf : f ∈ pattern.fits ⟨0, none, line⟩) :
    ∃ h s title, ofFit? f = some h ∧ h.Heads s title ∧ words line = title ++ h.index.toList := by
  obtain ⟨_, left, u, index, tail, right, he, hl, hr, ⟨s, title, hs, hj⟩, htail, rfl⟩ :=
    mem_fits_pattern.1 hf
  have hname : normalize u = unwords (title.map (·.map Char.toLower)) := by
    rw [normalize, hj.words_eq hs.isWord, hs.lowercase_unwords]
  have hh : Heads ⟨normalize u, index⟩ s title := ⟨hs, htail.digits, hname⟩
  refine ⟨⟨normalize u, index⟩, s, title, rfl, hh, ?_⟩
  exact (words_eq_iff_spread hh.words_ne_nil hh.isWord).2
    ((spread_iff hs.ne_nil htail.digits).2 ⟨left, u, tail, right, he, hl, hr, hj, htail⟩)

theorem exists_mem_fits (h : Heads hd s title) (hw : words line = title ++ hd.index.toList) :
    ∃ f, f ∈ pattern.fits ⟨0, none, line⟩ := by
  have hspread := (words_eq_iff_spread h.words_ne_nil h.isWord).1 hw
  obtain ⟨left, u, tail, right, he, hl, hr, hj, htail⟩ :=
    (spread_iff h.spelled.ne_nil h.digits).1 hspread
  exact ⟨_, mem_fits_pattern.2
    ⟨rfl, left, u, hd.index, tail, right, he, hl, hr, ⟨s, title, h.spelled, hj⟩, htail, rfl⟩⟩

/-- The header of a line is what its words say. -/
theorem ofLine?_eq_some_iff : ofLine? line = some h ↔
    ∃ s title, h.Heads s title ∧ words line = title ++ h.index.toList := by
  rw [ofLine?, Pattern.captures?_of_start fun place f hf => (mem_fits_pattern.1 hf).1]
  cases hhead : (pattern.fits ⟨0, none, line⟩).head? with
  | none =>
    constructor
    · rintro ⟨⟩
    · rintro ⟨s, title, hh, hw⟩
      obtain ⟨f, hf⟩ := exists_mem_fits hh hw
      rw [List.head?_eq_none_iff.1 hhead] at hf
      cases hf
  | some f =>
    obtain ⟨h', s', title', hfit, hh', hw'⟩ := ofFit?_of_mem_fits (List.mem_of_head? hhead)
    rw [Option.bind_some, hfit, Option.some_inj]
    constructor
    · rintro rfl
      exact ⟨s', title', hh', hw'⟩
    · rintro ⟨s, title, hh, hw⟩
      exact hh'.unique hh (hw'.symm.trans hw)

theorem ofLine?_eq_none (hno : ∀ h s title, Heads h s title → words line ≠ title ++ h.index.toList) :
    ofLine? line = none := by
  rw [Option.eq_none_iff_forall_ne_some]
  intro h hs
  obtain ⟨s, title, hh, hw⟩ := ofLine?_eq_some_iff.1 hs
  exact hno h s title hh hw

/-- Blanks do not matter beyond setting words apart. -/
theorem ofLine?_congr (h : words l = words m) : ofLine? l = ofLine? m := by
  ext hd
  rw [ofLine?_eq_some_iff, ofLine?_eq_some_iff, h]

end Header

end SolverInput
