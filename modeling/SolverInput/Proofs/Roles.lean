import SolverInput.Proofs.Headers
import SolverInput.Proofs.Search

namespace SolverInput
set_option autoImplicit true

namespace Header

@[simp] theorem ofLine?_trim (line : Text) : ofLine? (trim line) = ofLine? line :=
  ofLine?_congr (words_trim line)

theorem Heads.head?_ne (h : Heads hd s title) :
    (title ++ hd.index.toList).head?.bind List.head? ≠ some '!' := by
  obtain ⟨w, ws, rfl⟩ := List.exists_cons_of_ne_nil h.spelled.ne_nil
  intro he
  have hmem : '!' ∈ w := List.mem_of_head? he
  rcases h.spelled.isAlpha_or List.mem_cons_self hmem with ha | ha
  · exact absurd ha (by decide)
  · exact absurd ha (by decide)

/-- No title is `end`. -/
theorem Heads.map_toLower_ne (h : Heads hd s title) :
    (title ++ hd.index.toList).map (·.map Char.toLower) ≠ ["end".toList] := by
  intro he
  obtain ⟨w, ws, rfl⟩ := List.exists_cons_of_ne_nil h.spelled.ne_nil
  obtain ⟨hw, hws⟩ := List.cons_eq_cons.1 he
  obtain ⟨rfl, _⟩ := List.append_eq_nil_iff.1 (List.map_eq_nil_iff.1 hws)
  have hfold : w.map foldCase = "end".toList := by
    have hlower : foldCase ∘ Char.toLower = foldCase :=
      funext (apply_toLower (by decide +kernel))
    rw [← hlower, ← List.map_map, show w.map Char.toLower = "end".toList from hw]
    decide +kernel
  have hs := spells_iff.1 h.spelled
  rw [List.map_singleton, hfold] at hs
  cases s <;> exact absurd hs (by decide)

/-- A header opens the section of its title unless that is written with a long s. -/
theorem Heads.section?_eq (h : Heads hd s title) :
    hd.section? = if ∃ w ∈ title, 'ſ' ∈ w then none else some s := by
  rw [section?, h.name_eq]
  split
  · rename_i hlong
    obtain ⟨w, hw, hc⟩ := hlong
    rw [Option.eq_none_iff_forall_ne_some]
    intro s' hs'
    have hmem : 'ſ' ∈ unwords s'.title := by
      rw [← Section.ofName?_eq_some_iff.1 hs', ← toLower_longS]
      exact mem_unwords_of_mem (List.mem_map_of_mem hw) (List.mem_map_of_mem hc)
    rcases mem_unwords hmem with hblank | ⟨v, hv, hc⟩
    · exact absurd hblank (by decide)
    · exact absurd (s'.isLower_of_mem_title hv hc).1 (by decide)
  · rename_i hplain
    rw [Section.ofName?_eq_some_iff, ← spells_iff.1 h.spelled]
    congr 1
    apply List.map_congr_left
    intro w hw
    apply List.map_congr_left
    intro c hc
    rcases h.spelled.isAlpha_or hw hc with ha | rfl
    · have hn := toNat_of_isAlpha ha
      rw [foldCase, if_pos (by omega)]
    · exact (hplain ⟨w, hw, hc⟩).elim

end Header

namespace LineRole
open Pattern

theorem mem_fits_endPattern : f ∈ endPattern.fits place ↔
    place.last = none ∧ ∃ left w right, place.rest = left ++ (w ++ right) ∧
      (∀ c ∈ left, isBlank c) ∧ (∀ c ∈ right, isBlank c) ∧ w.map Char.toLower = "end".toList ∧
        f = ⟨place.rest, []⟩ := by
  have hword : Takes (Pattern.sequence ("End".toList.map letter)) fun t =>
      t.map Char.toLower = "end".toList := by
    apply (Header.takes_word (by decide)).congr
    intro t
    apply forall₂_iff_map_eq
    intro x hx c
    have hne : x ≠ 's' := by
      rintro rfl
      exact absurd hx (by decide)
    simp [Header.ReadsAs, hne]
  have hlast : f ∈ endPattern.fits place ↔
      f ∈ (seq empty (seq (anchor .start) (seq (blanks 0) (Pattern.sequence
        ("End".toList.map letter ++ [blanks 0, anchor .finish]))))).fits place := Iff.rfl
  rw [hlast]
  simp only [mem_fits_empty_seq, mem_fits_anchor_seq, (Header.takes_blanks 0).mem_fits_seq,
    mem_fits_sequence_append (List.cons_ne_nil _ _), hword.mem_fits_iff, Pattern.sequence,
    mem_fits_anchor, Anchor.holds, Place.after_after, Place.rest_after, List.isEmpty_iff,
    Option.isNone_iff_eq_none, Nat.zero_le, true_and]
  apply and_congr_right
  intro _
  constructor
  · rintro ⟨left, hlp, hl, _,
      ⟨_, ⟨w, hwp, hw, rfl⟩, _, ⟨right, hrp, hr, _, ⟨hend, rfl⟩, rfl⟩, rfl⟩, rfl⟩
    have hall : left ++ w ++ right <+: place.rest :=
      append_isPrefix_iff.2 ⟨append_isPrefix_iff.2 ⟨hlp, hwp⟩, hrp⟩
    have he := hall.eq_of_length_le (List.drop_eq_nil_iff.1 hend)
    refine ⟨left, w, right, ?_, hl, hr, hw, ?_⟩
    · simp [← he]
    · simp [← he, Fit.followedBy]
  · rintro ⟨left, w, right, he, hl, hr, hw, rfl⟩
    refine ⟨left, ?_, hl, _, ⟨_, ⟨w, ?_, hw, rfl⟩, _, ⟨right, ?_, hr, _, ⟨?_, rfl⟩, rfl⟩, rfl⟩, ?_⟩
    all_goals simp [he, Fit.followedBy]

theorem isWord_of_map_toLower (h : IsWord (w.map Char.toLower)) : IsWord w := by
  refine ⟨?_, ?_⟩
  · rintro rfl
    exact h.ne_nil rfl
  · intro c hc
    rw [← isBlank_toLower]
    exact h.not_blank _ (List.mem_map_of_mem hc)

/-- The pattern is found in lines with the one word `end`. -/
theorem occursIn_endPattern_iff :
    endPattern.occursIn s ↔ (words s).map (·.map Char.toLower) = ["end".toList] := by
  have hisword {w : Text} (hw : w.map Char.toLower = "end".toList) : ∀ v ∈ [w], IsWord v := by
    intro v hv
    have hend : IsWord "end".toList := isWord_of_mem_words (s := "end".toList) (by decide)
    rw [List.mem_singleton.1 hv]
    exact isWord_of_map_toLower (hw ▸ hend)
  rw [occursIn_iff, captures?_of_start fun place f hf => (mem_fits_endPattern.1 hf).1,
    List.isSome_head?, List.map_eq_singleton_iff]
  constructor
  · intro hne
    obtain ⟨f, hf⟩ := List.exists_mem_of_ne_nil _ hne
    obtain ⟨_, left, w, right, he, hl, hr, hw, _⟩ := mem_fits_endPattern.1 hf
    exact ⟨w, (words_eq_iff_spread (List.cons_ne_nil w []) (hisword hw)).2
      ⟨left, w, right, he, hl, hr, .single w⟩, hw⟩
  · rintro ⟨w, hs, hw⟩
    obtain ⟨left, body, right, he, hl, hr, hj⟩ :=
      (words_eq_iff_spread (List.cons_ne_nil w []) (hisword hw)).1 hs
    obtain rfl := joined_singleton_iff.1 hj
    exact List.ne_nil_of_mem (mem_fits_endPattern.2 ⟨rfl, left, body, right, he, hl, hr, hw, rfl⟩)

theorem occursIn_endPattern_congr (h : words l = words m) :
    endPattern.occursIn l = endPattern.occursIn m := by
  rw [Bool.eq_iff_iff, occursIn_endPattern_iff, occursIn_endPattern_iff, h]

/-- The role of a line depends on its words, and their first character is all that tells a
comment. -/
theorem ofLine_eq (line : Text) : ofLine line =
    if words line = [] then blank
    else if (words line).head?.bind List.head? = some '!' then comment
    else match Header.ofLine? line with
      | some h => header h
      | none => if endPattern.occursIn line then sectionEnd else content := by
  have hnil : (trim line).isEmpty ↔ words line = [] := by
    rw [List.isEmpty_iff, trim_eq_nil_iff]
  have hmark : (words line).head?.bind List.head? = (trim line).head? := by
    rw [← words_trim, head?_words, trimLeft_trim]
  rw [ofLine, Header.ofLine?_trim, occursIn_endPattern_congr (words_trim line), hmark]
  by_cases h : words line = []
  · rw [if_pos h]
    exact if_pos (hnil.2 h)
  · rw [if_neg h]
    exact if_neg (mt hnil.1 h)

theorem ofLine_congr (h : words l = words m) : ofLine l = ofLine m := by
  rw [ofLine_eq, ofLine_eq, h, Header.ofLine?_congr h, occursIn_endPattern_congr h]

theorem ofLine_eq_header (h : ofLine line = header hd) : Header.ofLine? line = some hd := by
  rw [ofLine_eq] at h
  split at h
  · cases h
  · split at h
    · cases h
    · split at h
      · rename_i hline
        cases h
        exact hline
      · split at h <;> cases h

/-- The words of the lines of each role. -/
def Fits (ws : List Text) : LineRole → Prop
  | blank => ws = []
  | comment => ∃ w rest, ws = ('!' :: w) :: rest
  | header h => ∃ s title, h.Heads s title ∧ ws = title ++ h.index.toList
  | sectionEnd => ∃ w, ws = [w] ∧ w.map Char.toLower = "end".toList
  | content => ws ≠ [] ∧ (∀ w rest, ws ≠ ('!' :: w) :: rest) ∧
      (∀ h s title, Header.Heads h s title → ws ≠ title ++ h.index.toList) ∧
      ∀ w, ws = [w] → w.map Char.toLower ≠ "end".toList

theorem head?_eq_mark_iff :
    ws.head?.bind List.head? = some '!' ↔ ∃ w rest, ws = ('!' :: w) :: rest := by
  cases ws with
  | nil => simp
  | cons w ws => simp [List.head?_eq_some_iff]

theorem head?_ne_of_map_toLower_eq {ws : List Text}
    (h : ws.map (·.map Char.toLower) = ["end".toList]) : ws.head?.bind List.head? ≠ some '!' := by
  obtain ⟨w, rfl, hw⟩ := List.map_eq_singleton_iff.1 h
  intro he
  have hmem : '!'.toLower ∈ w.map Char.toLower := List.mem_map_of_mem (List.mem_of_head? he)
  rw [show w.map Char.toLower = "end".toList from hw] at hmem
  exact absurd hmem (by decide)

theorem ofLine_of_fits {role : LineRole} (h : role.Fits (words line)) : ofLine line = role := by
  rw [ofLine_eq]
  cases role with
  | blank => exact if_pos h
  | comment =>
    obtain ⟨w, rest, hw⟩ := h
    rw [hw]
    rfl
  | header hd =>
    obtain ⟨s, title, hh, hw⟩ := h
    rw [Header.ofLine?_eq_some_iff.2 ⟨s, title, hh, hw⟩, hw, if_neg hh.words_ne_nil,
      if_neg hh.head?_ne]
  | sectionEnd =>
    have hend := List.map_eq_singleton_iff.2 h
    have hnone : Header.ofLine? line = none := by
      apply Header.ofLine?_eq_none
      intro hd s title hh hw
      exact hh.map_toLower_ne (hw ▸ hend)
    obtain ⟨w, hw, _⟩ := h
    rw [if_neg (hw ▸ List.cons_ne_nil w []), if_neg (head?_ne_of_map_toLower_eq hend), hnone]
    exact if_pos (occursIn_endPattern_iff.2 hend)
  | content =>
    obtain ⟨hne, hmark, hheader, hend⟩ := h
    have hopen : ¬endPattern.occursIn line := by
      intro he
      obtain ⟨w, hw, hwe⟩ := List.map_eq_singleton_iff.1 (occursIn_endPattern_iff.1 he)
      exact hend w hw hwe
    rw [if_neg hne, if_neg, Header.ofLine?_eq_none hheader]
    · exact if_neg hopen
    · intro hm
      obtain ⟨w, rest, he⟩ := head?_eq_mark_iff.1 hm
      exact hmark w rest he

theorem exists_fits (ws : List Text) : ∃ role : LineRole, role.Fits ws := by
  refine Classical.byContradiction fun hnone => ?_
  rw [not_exists] at hnone
  apply hnone .content
  refine ⟨hnone .blank, ?_, ?_, ?_⟩
  · intro w rest he
    exact hnone .comment ⟨w, rest, he⟩
  · intro h s title hh he
    exact hnone (.header h) ⟨s, title, hh, he⟩
  · intro w he hend
    exact hnone .sectionEnd ⟨w, he, hend⟩

theorem ofLine_eq_iff : ofLine line = role ↔ role.Fits (words line) := by
  constructor
  · rintro rfl
    obtain ⟨role, hrole⟩ := exists_fits (words line)
    rw [ofLine_of_fits hrole]
    exact hrole
  · exact ofLine_of_fits

theorem ofLine_eq_header_iff : ofLine line = header h ↔ Header.ofLine? line = some h := by
  rw [ofLine_eq_iff, Header.ofLine?_eq_some_iff]
  rfl

end LineRole

/-- A line has the one role that its words fit. The header of a line is read from the untrimmed
text as from the trimmed, and it opens the section of its title unless that is written with a long
s. -/
theorem lineRole_exact (line : Text) :
    (∀ role, LineRole.ofLine line = role ↔ role.Fits (words line)) ∧
      (∀ h, LineRole.ofLine line = .header h ↔ Header.ofLine? line = some h) ∧
      Header.ofLine? (trim line) = Header.ofLine? line ∧
      (∀ h, Header.ofLine? line = some h ↔
        ∃ s title, h.Heads s title ∧ Spread (title ++ h.index.toList) line) ∧
      ∀ (h : Header) s title, h.Heads s title → h.section? =
        if ∃ w ∈ title, 'ſ' ∈ w then none else some s := by
  refine ⟨fun _ => LineRole.ofLine_eq_iff, fun _ => LineRole.ofLine_eq_header_iff,
    Header.ofLine?_trim line, ?_, fun _ _ _ h => h.section?_eq⟩
  intro h
  rw [Header.ofLine?_eq_some_iff]
  constructor
  · rintro ⟨s, title, hh, hw⟩
    exact ⟨s, title, hh, (words_eq_iff_spread hh.words_ne_nil hh.isWord).1 hw⟩
  · rintro ⟨s, title, hh, hw⟩
    exact ⟨s, title, hh, (words_eq_iff_spread hh.words_ne_nil hh.isWord).2 hw⟩

/-- Blanks beyond ASCII, a number with leading zeros, and a long s, by which the header opens no
section. -/
theorem lineRole_exact_long_s :
    let line := "\u3000BOUNDARY\u00a0\tCondition 007 ".toList
    let line' := "Boundary Condition End".toList
    let long := "Conſtants".toList
    LineRole.ofLine line = .header ⟨"boundary condition".toList, some "007".toList⟩ ∧
      LineRole.ofLine line' = .content ∧
      ∃ h, LineRole.ofLine long = .header h ∧ h.name = "conſtants".toList ∧ h.section? = none := by
  intro line line' long
  have hh : Header.Heads ⟨"boundary condition".toList, some "007".toList⟩ .boundaryCondition
      ["BOUNDARY".toList, "Condition".toList] := by
    refine ⟨Header.spells_iff.2 (by decide), ?_, by decide⟩
    rintro n ⟨⟩
    exact ⟨List.cons_ne_nil _ _, List.all_eq_true.1 (by decide)⟩
  have hl : Header.Heads ⟨"conſtants".toList, none⟩ .constants [long] :=
    ⟨Header.spells_iff.2 (by decide +kernel), nofun, rfl⟩
  obtain ⟨hrole, _, _, _, hsection⟩ := lineRole_exact long
  refine ⟨((lineRole_exact line).1 _).2 ⟨_, _, hh, by decide +kernel⟩, by decide +kernel, _,
    (hrole _).2 ⟨_, _, hl, by decide +kernel⟩, rfl, ?_⟩
  rw [hsection _ _ _ hl]
  exact if_pos ⟨long, List.mem_cons_self, by decide⟩

end SolverInput
