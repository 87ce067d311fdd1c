import Mathlib.Data.List.Chain
import Mathlib.Data.List.TakeDrop
import SolverInput.Proofs.NormalForm
import SolverInput.Proofs.Token

namespace SolverInput
set_option autoImplicit true

/-- The only blanks are single spaces, each with a word before it and a word after it. -/
structure SingleSpaced (s : Text) : Prop where
  eq_space : ∀ c ∈ s, isBlank c → c = ' '
  starts : ∀ c ∈ s.head?, isBlank c = false
  ends : ∀ c ∈ s.getLast?, isBlank c = false
  single : s.IsChain fun c d => isBlank c = false ∨ isBlank d = false

theorem IsWord.singleSpaced (h : IsWord w) : SingleSpaced w where
  eq_space c hc hb := by
    rw [h.not_blank c hc] at hb
    cases hb
  starts c hc := h.not_blank c (List.mem_of_mem_head? hc)
  ends c hc := h.not_blank c (List.mem_of_mem_getLast? hc)
  single := (List.pairwise_of_forall_mem_list fun c hc _ _ => .inl (h.not_blank c hc)).isChain

namespace SingleSpaced

theorem append_word (h : SingleSpaced s) (hne : s ≠ []) (hw : IsWord w) :
    SingleSpaced (s ++ ' ' :: w) where
  eq_space := List.forall_mem_append.2
    ⟨h.eq_space, List.forall_mem_cons.2 ⟨fun _ => rfl, hw.singleSpaced.eq_space⟩⟩
  starts := by
    rw [List.head?_append_of_ne_nil s hne]
    exact h.starts
  ends := by
    rw [List.getLast?_append_cons, List.getLast?_cons_of_ne_nil hw.ne_nil]
    exact hw.singleSpaced.ends
  single := by
    rw [List.isChain_append, List.isChain_cons]
    refine ⟨h.single, ⟨fun d hd => .inr (hw.singleSpaced.starts d hd), hw.singleSpaced.single⟩, ?_⟩
    intro c hc _ _
    exact .inl (h.ends c hc)

theorem of_append (h : SingleSpaced (s ++ t)) (hs : ∀ c ∈ s.getLast?, isBlank c = false) :
    SingleSpaced s where
  eq_space c hc := h.eq_space c (List.mem_append_left t hc)
  starts c hc := h.starts c (List.mem_head?_append_of_mem_head? hc)
  ends := hs
  single := h.single.left_of_append

theorem before_blank (h : SingleSpaced (s ++ b :: t)) (hb : isBlank b) : s ≠ [] := by
  rintro rfl
  rw [h.starts b rfl] at hb
  cases hb

theorem after_blank (h : SingleSpaced (s ++ b :: t)) (hb : isBlank b) :
    t ≠ [] ∧ SingleSpaced t := by
  have hend : ∀ c ∈ (b :: t).getLast?, isBlank c = false := by
    rw [← List.getLast?_append_cons s b t]
    exact h.ends
  have hne : t ≠ [] := by
    rintro rfl
    rw [hend b rfl] at hb
    cases hb
  obtain ⟨hstart, hsingle⟩ := List.isChain_cons.1 h.single.right_of_append
  refine ⟨hne, ?_, ?_, ?_, hsingle⟩
  · exact fun c hc => h.eq_space c (List.mem_append_right s (List.mem_cons_of_mem b hc))
  · exact fun c hc => (hstart c hc).resolve_left (by simp [hb])
  · rw [List.getLast?_cons_of_ne_nil hne] at hend
    exact hend

theorem words_ne_nil (h : SingleSpaced s) (hne : s ≠ []) : words s ≠ [] := by
  intro hnil
  obtain ⟨c, t, rfl⟩ := List.exists_cons_of_ne_nil hne
  have hc := words_eq_nil_iff.1 hnil c List.mem_cons_self
  rw [h.starts c rfl] at hc
  cases hc

theorem unwords_words (h : SingleSpaced s) : unwords (words s) = s := by
  induction s using words_induction with
  | last s hs =>
    rw [words_of_not_blank hs]
    split
    · rename_i hnil
      exact hnil.symm
    · exact unwords_singleton s
  | cut w b t hw hb ih =>
    obtain ⟨hne, ht⟩ := h.after_blank hb
    have hword : IsWord w := ⟨h.before_blank hb, hw⟩
    have hspace : b = ' ' := h.eq_space b (List.mem_append_right w List.mem_cons_self) hb
    rw [words_append_blank w t hb, hword.words, List.singleton_append,
      unwords_cons w (ht.words_ne_nil hne), ih ht, hspace]

end SingleSpaced

theorem singleSpaced_unwords (hw : ∀ w ∈ ws, IsWord w) : SingleSpaced (unwords ws) := by
  induction ws using List.reverseRecOn with
  | nil => exact ⟨by simp [unwords], by simp [unwords], by simp [unwords], .nil⟩
  | append_singleton ws w ih =>
    obtain ⟨hws, hlast⟩ := List.forall_mem_append.1 hw
    have hword : IsWord w := hlast w (List.mem_singleton.2 rfl)
    by_cases hne : ws = []
    · rw [hne, List.nil_append, unwords_singleton]
      exact hword.singleSpaced
    · rw [unwords_concat hne]
      exact (ih hws).append_word ((joined_unwords hne).ne_nil hws) hword

theorem singleSpaced_normalize (s : Text) : SingleSpaced (normalize s) := by
  rw [normalize_eq_unwords]
  exact singleSpaced_unwords fun _ hw => isWord_of_mem_map_lowercase hw

/-- The normal forms are the texts with single spaces between their words and small letters only. -/
theorem normalize_eq_self_iff :
    normalize s = s ↔ SingleSpaced s ∧ ∀ c ∈ s, smallLetter c = [c] := by
  constructor
  · intro h
    have hspaced := singleSpaced_normalize s
    have hl : Lowered (unwords (words s)) (normalize s) := lowered_lowerAfter [] _
    have hsmall := hl.isSmall
    rw [h] at hspaced hsmall
    exact ⟨hspaced, hsmall⟩
  · rintro ⟨hspaced, hsmall⟩
    rw [normalize, hspaced.unwords_words]
    exact lowerAfter_of_isSmall [] hsmall

/-- Texts with blanks between them are made normal each on its own. -/
theorem normalize_append (hs : ∃ c ∈ s, isBlank c = false) (ht : ∃ c ∈ t, isBlank c = false)
    (hne : blanks ≠ []) (hb : ∀ c ∈ blanks, isBlank c) :
    normalize (s ++ (blanks ++ t)) = normalize s ++ ' ' :: normalize t := by
  have hwords {s : Text} (h : ∃ c ∈ s, isBlank c = false) : (words s).map lowercase ≠ [] := by
    obtain ⟨c, hc, hcb⟩ := h
    obtain ⟨w, hw, _⟩ := mem_words_of_mem hc hcb
    exact List.ne_nil_of_mem (List.mem_map_of_mem hw)
  rw [normalize_eq_unwords, words_append_blanks_append s t hne hb, List.map_append,
    unwords_append (hwords hs) (hwords ht), ← normalize_eq_unwords, ← normalize_eq_unwords]

/-- The parts of a text that ends in a number, set off by blanks from what stands before. -/
structure Numbered (stem blanks number : Text) : Prop where
  ends : ∀ c ∈ stem.getLast?, isBlank c = false
  blanks_ne_nil : blanks ≠ []
  blank : ∀ c ∈ blanks, isBlank c
  number_ne_nil : number ≠ []
  digit : ∀ c ∈ number, c.isDigit

theorem span_append {s t : Text} {p : Char → Bool} (hs : ∀ c ∈ s, p c)
    (ht : ∀ c ∈ t.head?, p c = false) : (s ++ t).span p = (s, t) := by
  rw [List.span_eq_takeWhile_dropWhile, List.takeWhile_append_of_pos hs,
    List.dropWhile_append_of_pos hs]
  cases t with
  | nil => simp
  | cons c t => simp [ht c rfl]

theorem Numbered.numberedBase_eq (h : Numbered stem blanks number) :
    numberedBase (stem ++ (blanks ++ number)) = stem ++ [' ', '1'] := by
  have hdigits : ∀ c ∈ number.reverse, c.isDigit := fun c hc => h.digit c (List.mem_reverse.1 hc)
  have hblanks : ∀ c ∈ blanks.reverse, isBlank c := fun c hc => h.blank c (List.mem_reverse.1 hc)
  have hne : blanks.reverse ≠ [] := fun he => h.blanks_ne_nil (List.reverse_eq_nil_iff.1 he)
  have hfront : ∀ c ∈ (blanks.reverse ++ stem.reverse).head?, c.isDigit = false := by
    intro c hc
    rw [List.head?_append_of_ne_nil _ hne] at hc
    have hb := hblanks c (List.mem_of_mem_head? hc)
    rw [Bool.eq_false_iff]
    intro hd
    rw [isBlank_of_isDigit hd] at hb
    cases hb
  have hstem : ∀ c ∈ stem.reverse.head?, isBlank c = false := by
    rw [List.head?_reverse]
    exact h.ends
  rw [numberedBase, List.reverse_append, List.reverse_append, List.append_assoc,
    span_append hdigits hfront]
  dsimp only
  rw [span_append hblanks hstem]
  simp [h.number_ne_nil, h.blanks_ne_nil]

/-- Only a text that ends in a number has another base than itself. -/
theorem numberedBase_cases (s : Text) :
    numberedBase s = s ∨
      ∃ stem blanks number, s = stem ++ (blanks ++ number) ∧ Numbered stem blanks number := by
  by_cases h : s.rtakeWhile Char.isDigit = [] ∨
      (s.rdropWhile Char.isDigit).rtakeWhile isBlank = []
  · left
    rw [List.rtakeWhile, List.rtakeWhile, List.rdropWhile] at h
    simp only [List.reverse_reverse, List.reverse_eq_nil_iff] at h
    simp only [numberedBase, List.span_eq_takeWhile_dropWhile, Bool.or_eq_true, List.isEmpty_iff,
      if_pos h]
  · right
    obtain ⟨hnumber, hblanks⟩ := not_or.1 h
    have hs : s.rdropWhile Char.isDigit ++ s.rtakeWhile Char.isDigit = s :=
      List.rdropWhile_append_rtakeWhile
    have hfront : trimRight (s.rdropWhile Char.isDigit) ++
        (s.rdropWhile Char.isDigit).rtakeWhile isBlank = s.rdropWhile Char.isDigit :=
      List.rdropWhile_append_rtakeWhile
    refine ⟨trimRight (s.rdropWhile Char.isDigit), _, _, ?_, isBlank_of_getLast?_trimRight _,
      hblanks, fun _ hc => List.mem_rtakeWhile_imp hc, hnumber,
      fun _ hc => List.mem_rtakeWhile_imp hc⟩
    rw [← List.append_assoc, hfront, hs]

theorem numberedBase_append (hs : ∀ c ∈ s.getLast?, isBlank c = false) (hne : digits ≠ [])
    (hd : ∀ c ∈ digits, c.isDigit) : numberedBase (s ++ ' ' :: digits) = s ++ [' ', '1'] := by
  have h : Numbered s [' '] digits :=
    ⟨hs, List.cons_ne_nil ' ' [], List.all_eq_true.1 (by decide), hne, hd⟩
  exact h.numberedBase_eq

@[simp] theorem numberedBase_numberedBase (s : Text) :
    numberedBase (numberedBase s) = numberedBase s := by
  rcases numberedBase_cases s with hs | ⟨stem, blanks, number, rfl, h⟩
  · rw [hs, hs]
  · rw [h.numberedBase_eq]
    exact numberedBase_append h.ends (List.cons_ne_nil '1' []) (List.all_eq_true.1 (by decide))

theorem normalize_numberedBase (hs : normalize s = s) :
    normalize (numberedBase s) = numberedBase s := by
  rcases numberedBase_cases s with hbase | ⟨stem, blanks, number, rfl, h⟩
  · rw [hbase, hs]
  · obtain ⟨hspaced, hsmall⟩ := normalize_eq_self_iff.1 hs
    have hne : stem ≠ [] := by
      obtain ⟨b, bs, rfl⟩ := List.exists_cons_of_ne_nil h.blanks_ne_nil
      exact hspaced.before_blank (h.blank b List.mem_cons_self)
    have hword : IsWord ['1'] :=
      ⟨List.cons_ne_nil '1' [], List.forall_mem_singleton.2 (by decide)⟩
    have hone : ∀ c ∈ [' ', '1'], smallLetter c = [c] :=
      List.forall_mem_cons.2 ⟨by decide, List.forall_mem_singleton.2 (by decide)⟩
    rw [h.numberedBase_eq, normalize_eq_self_iff]
    exact ⟨(hspaced.of_append h.ends).append_word hne hword,
      List.forall_mem_append.2 ⟨(List.forall_mem_append.1 hsmall).1, hone⟩⟩

/-- Normal forms are canonical. Their blanks are single spaces between words, they are their own
normal forms, and texts with blanks between them are made normal each on its own. The numbered base
is final too, it keeps normal forms, and all numbers after a normal form give the same one. -/
theorem normal_form_canonical :
    (∀ s, SingleSpaced (normalize s) ∧ normalize (normalize s) = normalize s) ∧
      (∀ s blanks t, (∃ c ∈ s, isBlank c = false) → (∃ c ∈ t, isBlank c = false) → blanks ≠ [] →
        (∀ c ∈ blanks, isBlank c) →
        normalize (s ++ (blanks ++ t)) = normalize s ++ ' ' :: normalize t) ∧
      (∀ s, numberedBase (numberedBase s) = numberedBase s ∧
        (normalize s = s → normalize (numberedBase s) = numberedBase s)) ∧
      ∀ s m n, normalize s = s → m ≠ [] → (∀ c ∈ m, c.isDigit) → n ≠ [] → (∀ c ∈ n, c.isDigit) →
        numberedBase (s ++ ' ' :: m) = numberedBase (s ++ ' ' :: n) ∧
          numberedBase (s ++ ' ' :: n) = s ++ [' ', '1'] := by
  refine ⟨fun s => ⟨singleSpaced_normalize s, normalize_normalize s⟩, ?_, ?_, ?_⟩
  · intro s blanks t hs ht hne hb
    exact normalize_append hs ht hne hb
  · exact fun s => ⟨numberedBase_numberedBase s, normalize_numberedBase⟩
  · intro s m n hs hm hmd hn hnd
    have hends := (normalize_eq_self_iff.1 hs).1.ends
    have hbase := numberedBase_append hends hn hnd
    exact ⟨(numberedBase_append hends hm hmd).trans hbase.symm, hbase⟩

/-- Wide blanks, a final sigma before them, and a capital that becomes two characters before a
number. -/
theorem normal_form_canonical_sigma :
    let s := "\u3000ΛΟΓΟΣ".toList
    let t := "ΣΑΣ \u0130  007\n".toList
    let stem := "σας i\u0307".toList
    normalize (s ++ ("\t\u2003".toList ++ t)) = normalize s ++ ' ' :: normalize t ∧
      normalize s = "λογος".toList ∧ normalize t = stem ++ ' ' :: "007".toList ∧
      normalize (numberedBase (normalize t)) = numberedBase (normalize t) ∧
      numberedBase (stem ++ ' ' :: "007".toList) = numberedBase (stem ++ ' ' :: "42".toList) ∧
      numberedBase (stem ++ ' ' :: "42".toList) = stem ++ [' ', '1'] := by
  intro s t stem
  obtain ⟨hform, happend, hbase, hnumber⟩ := normal_form_canonical
  have hs : ∃ c ∈ s, isBlank c = false := ⟨'Λ', by decide, by decide⟩
  have ht : ∃ c ∈ t, isBlank c = false := ⟨'Σ', by decide, by decide⟩
  have hb : ∀ c ∈ "\t\u2003".toList, isBlank c := List.all_eq_true.1 (by decide)
  have hstem : normalize stem = stem := by
    decide +kernel
  have hm : ∀ c ∈ "007".toList, c.isDigit := List.all_eq_true.1 (by decide)
  have hn : ∀ c ∈ "42".toList, c.isDigit := List.all_eq_true.1 (by decide)
  obtain ⟨hsame, hone⟩ := hnumber stem _ _ hstem (by decide) hm (by decide) hn
  exact ⟨happend s _ t hs ht (by decide) hb, by decide +kernel, by decide +kernel,
    (hbase (normalize t)).2 (hform t).2, hsame, hone⟩

end SolverInput
