import Mathlib.Data.List.DropRight
import SolverInput.Text

namespace SolverInput
set_option autoImplicit true

structure IsWord (w : Text) : Prop where
  ne_nil : w ≠ []
  not_blank : ∀ c ∈ w, isBlank c = false

theorem words_append_blank (s t : Text) (hb : isBlank b) :
    words (s ++ b :: t) = words s ++ words t := by
  rw [words, List.splitOnP_append_cons s t hb, List.filter_append]
  rfl

theorem words_cons_blank (t : Text) (hb : isBlank b) : words (b :: t) = words t :=
  words_append_blank [] t hb

theorem words_of_not_blank (h : ∀ c ∈ w, isBlank c = false) :
    words w = if w = [] then [] else [w] := by
  rw [words, List.splitOnP_eq_singleton h]
  cases w <;> rfl

theorem IsWord.words (h : IsWord w) : words w = [w] := by
  rw [words_of_not_blank h.not_blank, if_neg h.ne_nil]

/-- A text is what stands before its first blank and the rest, or has no blank. -/
@[elab_as_elim]
theorem words_induction {motive : Text → Prop}
    (last : ∀ s, (∀ c ∈ s, isBlank c = false) → motive s)
    (cut : ∀ w b s, (∀ c ∈ w, isBlank c = false) → isBlank b → motive s → motive (w ++ b :: s))
    (s : Text) : motive s := by
  cases h : s.find? isBlank with
  | none =>
    apply last
    intro c hc
    simpa using List.find?_eq_none.1 h c hc
  | some b =>
    obtain ⟨hb, w, t, rfl, hw⟩ := List.find?_eq_some_iff_append.1 h
    apply cut w b t ?_ hb (words_induction last cut t)
    intro c hc
    simpa using hw c hc
termination_by s.length

theorem eq_of_mem_words (h : w ∈ words s) (hs : ∀ c ∈ s, isBlank c = false) :
    w = s ∧ s ≠ [] := by
  rw [words_of_not_blank hs] at h
  split at h
  · cases h
  · rename_i hne
    exact ⟨List.mem_singleton.1 h, hne⟩

theorem isWord_of_mem_words (h : w ∈ words s) : IsWord w := by
  induction s using words_induction with
  | last s hs =>
    obtain ⟨rfl, hne⟩ := eq_of_mem_words h hs
    exact ⟨hne, hs⟩
  | cut v b s hv hb ih =>
    rw [words_append_blank v s hb] at h
    rcases List.mem_append.1 h with h | h
    · obtain ⟨rfl, hne⟩ := eq_of_mem_words h hv
      exact ⟨hne, hv⟩
    · exact ih h

theorem subset_of_mem_words (h : w ∈ words s) : w ⊆ s := by
  induction s using words_induction with
  | last s hs =>
    obtain ⟨rfl, _⟩ := eq_of_mem_words h hs
    exact List.Subset.refl w
  | cut v b s hv hb ih =>
    rw [words_append_blank v s hb] at h
    rcases List.mem_append.1 h with h | h
    · obtain ⟨rfl, _⟩ := eq_of_mem_words h hv
      exact List.subset_append_left w (b :: s)
    · exact List.subset_append_of_subset_right v (List.subset_cons_of_subset b (ih h))

theorem words_blanks_append (s : Text) (hb : ∀ c ∈ blanks, isBlank c) :
    words (blanks ++ s) = words s := by
  induction blanks with
  | nil => rfl
  | cons b blanks ih =>
    rw [List.cons_append, words_cons_blank _ (hb b List.mem_cons_self)]
    exact ih fun c hc => hb c (List.mem_cons_of_mem b hc)

theorem words_append_blanks_append (s t : Text) (hne : blanks ≠ []) (hb : ∀ c ∈ blanks, isBlank c) :
    words (s ++ (blanks ++ t)) = words s ++ words t := by
  obtain ⟨b, blanks, rfl⟩ := List.exists_cons_of_ne_nil hne
  obtain ⟨hbl, hbs⟩ := List.forall_mem_cons.1 hb
  rw [List.cons_append, words_append_blank s _ hbl, words_blanks_append t hbs]

theorem mem_words_of_mem (hc : c ∈ s) (hb : isBlank c = false) : ∃ w ∈ words s, c ∈ w := by
  induction s using words_induction with
  | last s hs =>
    rw [words_of_not_blank hs, if_neg (List.ne_nil_of_mem hc)]
    exact ⟨s, List.mem_singleton.2 rfl, hc⟩
  | cut v b s hv hbl ih =>
    rw [words_append_blank v s hbl]
    rcases List.mem_append.1 hc with hc | hc
    · rw [words_of_not_blank hv, if_neg (List.ne_nil_of_mem hc)]
      exact ⟨v, List.mem_cons_self, hc⟩
    · rcases List.mem_cons.1 hc with rfl | hc
      · rw [hbl] at hb
        cases hb
      · obtain ⟨w, hw, hcw⟩ := ih hc
        exact ⟨w, List.mem_append_right _ hw, hcw⟩

theorem words_cons_of_not_blank (s : Text) (hc : isBlank c = false) :
    ∃ w ws, words (c :: s) = (c :: w) :: ws := by
  induction s using words_induction with
  | last s hs =>
    have h := words_of_not_blank (List.forall_mem_cons.2 ⟨hc, hs⟩)
    exact ⟨s, [], h⟩
  | cut v b s hv hb _ =>
    have h := words_of_not_blank (List.forall_mem_cons.2 ⟨hc, hv⟩)
    rw [← List.cons_append, words_append_blank _ s hb, h]
    exact ⟨v, words s, rfl⟩

theorem words_eq_nil_iff : words s = [] ↔ ∀ c ∈ s, isBlank c := by
  constructor
  · intro h
    induction s using words_induction with
    | last s hs =>
      rw [words_of_not_blank hs] at h
      split at h
      · rename_i hnil
        simp [hnil]
      · cases h
    | cut w b s hw hb ih =>
      rw [words_append_blank w s hb, words_of_not_blank hw] at h
      obtain ⟨hw, hs⟩ := List.append_eq_nil_iff.1 h
      split at hw
      · rename_i hnil
        rw [hnil]
        exact List.forall_mem_cons.2 ⟨hb, ih hs⟩
      · cases hw
  · intro h
    have hs := words_blanks_append [] h
    rw [List.append_nil] at hs
    exact hs

theorem words_append_blanks (s : Text) (hb : ∀ c ∈ blanks, isBlank c) :
    words (s ++ blanks) = words s := by
  cases blanks with
  | nil => rw [List.append_nil]
  | cons b blanks =>
    obtain ⟨hbl, hbs⟩ := List.forall_mem_cons.1 hb
    rw [words_append_blank s blanks hbl, words_eq_nil_iff.2 hbs, List.append_nil]

theorem isBlank_of_mem_takeWhile (s : Text) : ∀ c ∈ s.takeWhile isBlank, isBlank c :=
  fun _ hc => List.mem_takeWhile_imp hc

@[simp] theorem words_trimLeft (s : Text) : words (trimLeft s) = words s := by
  have h := words_blanks_append (s.dropWhile isBlank) (isBlank_of_mem_takeWhile s)
  rw [List.takeWhile_append_dropWhile] at h
  exact h.symm

theorem trimLeft_eq_nil_iff : trimLeft s = [] ↔ ∀ c ∈ s, isBlank c :=
  List.dropWhile_eq_nil_iff

theorem trimLeft_blanks_append (s : Text) (hb : ∀ c ∈ blanks, isBlank c) :
    trimLeft (blanks ++ s) = trimLeft s :=
  List.dropWhile_append_of_pos hb

@[simp] theorem trimLeft_trimLeft (s : Text) : trimLeft (trimLeft s) = trimLeft s :=
  List.dropWhile_idempotent isBlank s

theorem trimLeft_append_of_ne_nil (t : Text) (h : trimLeft s ≠ []) :
    trimLeft (s ++ t) = trimLeft s ++ t := by
  have hne : (s.dropWhile isBlank).isEmpty = false := List.isEmpty_eq_false_iff.2 h
  rw [trimLeft, List.dropWhile_append, hne, if_neg Bool.false_ne_true]
  rfl

theorem trimLeft_append_blanks (s : Text) (hb : ∀ c ∈ blanks, isBlank c) :
    trimLeft (s ++ blanks) = if trimLeft s = [] then [] else trimLeft s ++ blanks := by
  split
  · rename_i h
    exact trimLeft_eq_nil_iff.2 (List.forall_mem_append.2 ⟨trimLeft_eq_nil_iff.1 h, hb⟩)
  · rename_i h
    exact trimLeft_append_of_ne_nil blanks h

theorem isBlank_of_trimLeft_eq_cons (h : trimLeft s = c :: t) : isBlank c = false := by
  have hhead := List.head?_dropWhile_not isBlank s
  rw [show s.dropWhile isBlank = c :: t from h] at hhead
  simpa using hhead

theorem trimLeft_cons (s : Text) (hc : isBlank c = false) : trimLeft (c :: s) = c :: s :=
  List.dropWhile_cons_of_neg (by simp [hc])

theorem trimLeft_append_cons (s t : Text) (hc : isBlank c = false) :
    trimLeft (s ++ c :: t) = trimLeft s ++ c :: t := by
  by_cases h : trimLeft s = []
  · rw [trimLeft_blanks_append _ (trimLeft_eq_nil_iff.1 h), h]
    exact trimLeft_cons t hc
  · exact trimLeft_append_of_ne_nil (c :: t) h

/-- The first word begins where the blanks at the beginning end. -/
@[simp] theorem head?_words (s : Text) : (words s).head?.bind List.head? = (trimLeft s).head? := by
  rw [← words_trimLeft]
  cases h : trimLeft s with
  | nil => rfl
  | cons c t =>
    obtain ⟨w, ws, hw⟩ := words_cons_of_not_blank t (isBlank_of_trimLeft_eq_cons h)
    rw [hw]
    rfl

theorem length_takeWhile_isBlank (s : Text) :
    (s.takeWhile isBlank).length + (trimLeft s).length = s.length := by
  rw [trimLeft, ← List.length_append, List.takeWhile_append_dropWhile]

theorem drop_length_takeWhile_isBlank (s : Text) :
    s.drop (s.takeWhile isBlank).length = trimLeft s := by
  have h : (s.takeWhile isBlank ++ trimLeft s).drop (s.takeWhile isBlank).length = trimLeft s :=
    List.drop_left
  rwa [trimLeft, List.takeWhile_append_dropWhile] at h

theorem trimRight_eq_nil_iff : trimRight s = [] ↔ ∀ c ∈ s, isBlank c :=
  List.rdropWhile_eq_nil_iff

theorem trimRight_append_blanks (s : Text) (hb : ∀ c ∈ blanks, isBlank c) :
    trimRight (s ++ blanks) = trimRight s := by
  have hr : ∀ c ∈ blanks.reverse, isBlank c := fun c hc => hb c (List.mem_reverse.1 hc)
  rw [trimRight, List.reverse_append, List.dropWhile_append_of_pos hr]
  rfl

theorem trimRight_append_of_ne_nil (s : Text) (h : trimRight t ≠ []) :
    trimRight (s ++ t) = s ++ trimRight t := by
  have hr : (t.reverse.dropWhile isBlank).isEmpty = false := by
    rw [List.isEmpty_eq_false_iff]
    exact fun he => h (congrArg List.reverse he)
  rw [trimRight, List.reverse_append, List.dropWhile_append, hr, if_neg Bool.false_ne_true,
    List.reverse_append, List.reverse_reverse]
  rfl

theorem trimRight_cons (h : trimRight (c :: t) ≠ []) : trimRight (c :: t) = c :: trimRight t := by
  by_cases ht : trimRight t = []
  · have hb := trimRight_eq_nil_iff.1 ht
    have hc : isBlank c = false := by
      rw [Bool.eq_false_iff]
      exact fun hc => h (trimRight_eq_nil_iff.2 (List.forall_mem_cons.2 ⟨hc, hb⟩))
    have hone := trimRight_append_blanks [c] hb
    rw [List.singleton_append] at hone
    rw [ht, hone]
    simp [trimRight, hc]
  · exact trimRight_append_of_ne_nil [c] ht

theorem isBlank_of_getLast?_trimRight (s : Text) :
    ∀ c ∈ (trimRight s).getLast?, isBlank c = false := by
  intro c hc
  have hhead := List.head?_dropWhile_not isBlank s.reverse
  rw [trimRight, List.getLast?_reverse] at hc
  rw [Option.mem_def.1 hc] at hhead
  simpa using hhead

/-- Trimming drops blanks and nothing else. -/
theorem exists_eq_pad_trim (s : Text) :
    ∃ left right, s = left ++ (trim s ++ right) ∧ (∀ c ∈ left, isBlank c) ∧
      ∀ c ∈ right, isBlank c := by
  refine ⟨s.takeWhile isBlank, (trimLeft s).rtakeWhile isBlank, ?_, isBlank_of_mem_takeWhile s,
    fun _ hc => List.mem_rtakeWhile_imp hc⟩
  have hright : trim s ++ (trimLeft s).rtakeWhile isBlank = trimLeft s :=
    List.rdropWhile_append_rtakeWhile
  rw [hright, trimLeft, List.takeWhile_append_dropWhile]

theorem trim_eq_nil_iff : trim s = [] ↔ words s = [] := by
  rw [trim, trimRight_eq_nil_iff, ← words_eq_nil_iff, words_trimLeft]

@[simp] theorem trimLeft_trim (s : Text) : trimLeft (trim s) = trim s := by
  by_cases h : trim s = []
  · rw [h]
    rfl
  · cases hs : trimLeft s with
    | nil => exact (h (by rw [trim, hs]; rfl)).elim
    | cons c t =>
      rw [trim, hs] at h ⊢
      rw [trimRight_cons h, trimLeft_cons _ (isBlank_of_trimLeft_eq_cons hs)]

@[simp] theorem words_trim (s : Text) : words (trim s) = words s := by
  obtain ⟨left, right, hs, hl, hr⟩ := exists_eq_pad_trim s
  have hpad := words_blanks_append (trim s ++ right) hl
  rw [← hs, words_append_blanks (trim s) hr] at hpad
  exact hpad.symm

theorem IsWord.trimRight_eq (h : IsWord w) : trimRight w = w := by
  apply List.rdropWhile_eq_self_iff.2
  intro hne hb
  rw [h.not_blank _ (List.getLast_mem hne)] at hb
  cases hb

/-- The words `ws` stand in the text one after another, with blanks between each two. -/
inductive Joined : List Text → Text → Prop
  | single (w : Text) : Joined [w] w
  | cons (w : Text) (hne : blanks ≠ []) (hb : ∀ c ∈ blanks, isBlank c) (h : Joined ws s) :
    Joined (w :: ws) (w ++ (blanks ++ s))

@[simp] theorem joined_singleton_iff : Joined [w] s ↔ s = w := by
  constructor
  · intro h
    cases h with
    | single => rfl
    | cons _ _ _ h => cases h
  · rintro rfl
    exact .single s

theorem joined_cons_iff (hne : ws ≠ []) : Joined (w :: ws) s ↔
    ∃ blanks t, blanks ≠ [] ∧ (∀ c ∈ blanks, isBlank c) ∧ Joined ws t ∧ s = w ++ (blanks ++ t) := by
  constructor
  · intro h
    cases h with
    | single => exact (hne rfl).elim
    | @cons blanks _ t _ hb hblank h => exact ⟨blanks, t, hb, hblank, h, rfl⟩
  · rintro ⟨blanks, t, hb, hblank, h, rfl⟩
    exact .cons w hb hblank h

theorem Joined.words_eq (h : Joined ws s) (hw : ∀ w ∈ ws, IsWord w) : words s = ws := by
  induction h with
  | single w => exact (hw w List.mem_cons_self).words
  | @cons blanks ws s w hne hb h ih =>
    rw [words_append_blanks_append w s hne hb, (hw w List.mem_cons_self).words,
      ih fun v hv => hw v (List.mem_cons_of_mem w hv)]
    rfl

theorem Joined.ne_nil (h : Joined ws s) (hw : ∀ w ∈ ws, IsWord w) : s ≠ [] := by
  cases h with
  | single => exact (hw s List.mem_cons_self).ne_nil
  | cons w _ _ _ =>
    intro hnil
    exact (hw w List.mem_cons_self).ne_nil (List.append_eq_nil_iff.1 hnil).1

theorem Joined.trimRight_eq (h : Joined ws s) (hw : ∀ w ∈ ws, IsWord w) : trimRight s = s := by
  induction h with
  | single w => exact (hw w List.mem_cons_self).trimRight_eq
  | @cons blanks ws s w hne hb h ih =>
    have hws : ∀ v ∈ ws, IsWord v := fun v hv => hw v (List.mem_cons_of_mem w hv)
    have hs : trimRight s ≠ [] := by
      rw [ih hws]
      exact h.ne_nil hws
    rw [← List.append_assoc, trimRight_append_of_ne_nil _ hs, ih hws]

theorem Joined.head?_eq (h : Joined (w :: ws) s) (hw : IsWord w) : s.head? = w.head? := by
  cases h with
  | single => rfl
  | cons => exact List.head?_append_of_ne_nil w hw.ne_nil

theorem Joined.mem (h : Joined ws s) (hc : c ∈ s) : isBlank c ∨ ∃ w ∈ ws, c ∈ w := by
  induction h with
  | single w => exact .inr ⟨w, List.mem_cons_self, hc⟩
  | cons w hne hb h ih =>
    rcases List.mem_append.1 hc with hc | hc
    · exact .inr ⟨w, List.mem_cons_self, hc⟩
    · rcases List.mem_append.1 hc with hc | hc
      · exact .inl (hb c hc)
      · exact (ih hc).imp_right fun ⟨v, hv, hcv⟩ => ⟨v, List.mem_cons_of_mem w hv, hcv⟩

theorem Joined.append (hv : Joined vs u) (hne : blanks ≠ []) (hb : ∀ c ∈ blanks, isBlank c)
    (hw : Joined ws s) : Joined (vs ++ ws) (u ++ (blanks ++ s)) := by
  induction hv with
  | single v => exact .cons v hne hb hw
  | cons v hne' hb' hv ih =>
    rw [List.append_assoc, List.append_assoc]
    exact .cons v hne' hb' ih

theorem Joined.exists_eq_append (h : Joined (vs ++ ws) s) (hv : vs ≠ []) (hw : ws ≠ []) :
    ∃ u blanks t, s = u ++ (blanks ++ t) ∧ blanks ≠ [] ∧ (∀ c ∈ blanks, isBlank c) ∧
      Joined vs u ∧ Joined ws t := by
  generalize hvw : vs ++ ws = both at h
  induction h generalizing vs with
  | single w =>
    have hlen := congrArg List.length hvw
    have hv := List.length_pos_of_ne_nil hv
    have hw := List.length_pos_of_ne_nil hw
    simp only [List.length_append, List.length_singleton] at hlen
    omega
  | @cons blanks both s w hne hb h ih =>
    obtain ⟨v, vs, rfl⟩ := List.exists_cons_of_ne_nil hv
    obtain ⟨rfl, hvs⟩ := List.cons_eq_cons.1 hvw
    by_cases hnil : vs = []
    · rw [hnil] at hvs ⊢
      obtain rfl : ws = both := hvs
      exact ⟨v, blanks, s, rfl, hne, hb, .single v, h⟩
    · obtain ⟨u, blanks', t, rfl, hne', hb', hu, ht⟩ := ih hnil hvs
      exact ⟨v ++ (blanks ++ u), blanks', t, by simp, hne', hb', .cons v hne hb hu, ht⟩

/-- The words `ws` make up the text, with blanks between each two and any around them. -/
def Spread (ws : List Text) (s : Text) : Prop :=
  ∃ left body right, s = left ++ (body ++ right) ∧ (∀ c ∈ left, isBlank c) ∧
    (∀ c ∈ right, isBlank c) ∧ Joined ws body

theorem spread_singleton (w : Text) (hb : ∀ c ∈ blanks, isBlank c) : Spread [w] (w ++ blanks) :=
  ⟨[], w, blanks, rfl, fun _ h => (List.not_mem_nil h).elim, hb, .single w⟩

theorem Spread.cons_blank (h : Spread ws s) (hb : isBlank b) : Spread ws (b :: s) := by
  obtain ⟨left, body, right, rfl, hl, hr, hj⟩ := h
  exact ⟨b :: left, body, right, rfl, List.forall_mem_cons.2 ⟨hb, hl⟩, hr, hj⟩

theorem Spread.cons_word (w : Text) (h : Spread ws s) (hb : isBlank b) :
    Spread (w :: ws) (w ++ b :: s) := by
  obtain ⟨left, body, right, rfl, hl, hr, hj⟩ := h
  refine ⟨[], w ++ (b :: left ++ body), right, by simp, by simp, hr, ?_⟩
  exact .cons w (List.cons_ne_nil b left) (List.forall_mem_cons.2 ⟨hb, hl⟩) hj

theorem spread_words (h : words s ≠ []) : Spread (words s) s := by
  induction s using words_induction with
  | last s hs =>
    have hne : s ≠ [] := by
      rintro rfl
      exact h rfl
    have hspread : Spread [s] (s ++ []) := spread_singleton s (by simp)
    rw [List.append_nil] at hspread
    rw [words_of_not_blank hs, if_neg hne]
    exact hspread
  | cut w b s hw hb ih =>
    rw [words_append_blank w s hb, words_of_not_blank hw] at h ⊢
    by_cases hne : w = []
    · rw [if_pos hne] at h ⊢
      rw [hne]
      exact (ih h).cons_blank hb
    · rw [if_neg hne]
      by_cases hs : words s = []
      · rw [hs]
        exact spread_singleton w (List.forall_mem_cons.2 ⟨hb, words_eq_nil_iff.1 hs⟩)
      · exact (ih hs).cons_word w hb

theorem words_eq_iff_spread (hne : ws ≠ []) (hw : ∀ w ∈ ws, IsWord w) :
    words s = ws ↔ Spread ws s := by
  constructor
  · rintro rfl
    exact spread_words hne
  · rintro ⟨left, body, right, rfl, hl, hr, hj⟩
    rw [words_blanks_append _ hl, words_append_blanks body hr, hj.words_eq hw]

@[simp] theorem unwords_singleton (w : Text) : unwords [w] = w :=
  List.intercalate_singleton

theorem unwords_cons (w : Text) (hne : ws ≠ []) : unwords (w :: ws) = w ++ ' ' :: unwords ws := by
  rw [unwords, List.intercalate_cons_of_ne_nil hne, List.append_assoc]
  rfl

theorem unwords_append (hv : vs ≠ []) (hw : ws ≠ []) :
    unwords (vs ++ ws) = unwords vs ++ ' ' :: unwords ws := by
  induction vs with
  | nil => exact (hv rfl).elim
  | cons v vs ih =>
    by_cases hvs : vs = []
    · rw [hvs, unwords_singleton]
      exact unwords_cons v hw
    · have happ : vs ++ ws ≠ [] := List.append_ne_nil_of_left_ne_nil hvs ws
      rw [List.cons_append, unwords_cons v happ, ih hvs, unwords_cons v hvs, List.append_assoc]
      rfl

theorem unwords_concat (hne : ws ≠ []) (w : Text) :
    unwords (ws ++ [w]) = unwords ws ++ ' ' :: w := by
  rw [unwords_append hne (List.cons_ne_nil w []), unwords_singleton]

theorem mem_unwords (h : c ∈ unwords ws) : c = ' ' ∨ ∃ w ∈ ws, c ∈ w := by
  induction ws with
  | nil => cases h
  | cons w ws ih =>
    by_cases hne : ws = []
    · rw [hne, unwords_singleton] at h
      exact .inr ⟨w, List.mem_cons_self, h⟩
    · rw [unwords_cons w hne] at h
      rcases List.mem_append.1 h with h | h
      · exact .inr ⟨w, List.mem_cons_self, h⟩
      · rcases List.mem_cons.1 h with rfl | h
        · exact .inl rfl
        · exact (ih h).imp_right fun ⟨v, hv, hc⟩ => ⟨v, List.mem_cons_of_mem w hv, hc⟩

theorem mem_unwords_of_mem (hw : w ∈ ws) (hc : c ∈ w) : c ∈ unwords ws := by
  induction ws with
  | nil => cases hw
  | cons v ws ih =>
    by_cases hne : ws = []
    · rw [hne] at hw ⊢
      rw [unwords_singleton, ← List.mem_singleton.1 hw]
      exact hc
    · rw [unwords_cons v hne, List.mem_append]
      rcases List.mem_cons.1 hw with rfl | hw
      · exact .inl hc
      · exact .inr (List.mem_cons_of_mem ' ' (ih hw))

theorem map_unwords {f : Char → Char} (hf : f ' ' = ' ') (ws : List Text) :
    (unwords ws).map f = unwords (ws.map (·.map f)) := by
  induction ws with
  | nil => rfl
  | cons w ws ih =>
    by_cases hne : ws = []
    · rw [hne, unwords_singleton]
      exact (unwords_singleton _).symm
    · have hmap : ws.map (·.map f) ≠ [] := fun he => hne (List.map_eq_nil_iff.1 he)
      rw [unwords_cons w hne, List.map_cons, unwords_cons _ hmap, List.map_append, List.map_cons,
        ih, hf]

theorem joined_unwords (hne : ws ≠ []) : Joined ws (unwords ws) := by
  induction ws with
  | nil => exact (hne rfl).elim
  | cons w ws ih =>
    by_cases hws : ws = []
    · rw [hws, unwords_singleton]
      exact .single w
    · have hb : ∀ c ∈ [' '], isBlank c := List.all_eq_true.1 (by decide)
      rw [unwords_cons w hws]
      exact .cons w (List.cons_ne_nil ' ' []) hb (ih hws)

theorem words_unwords (hw : ∀ w ∈ ws, IsWord w) : words (unwords ws) = ws := by
  by_cases hne : ws = []
  · rw [hne]
    rfl
  · exact (joined_unwords hne).words_eq hw

end SolverInput
