import SolverInput.Proofs.Outline

namespace SolverInput
set_option autoImplicit true

theorem exists_span_of_lastStructural
    (hl : LastStructural (lines (dropMark text)) i j (.header hd))
    (hi : roleAt? (lines (dropMark text)) i = some .content) :
    ∃ S ∈ outline text, S.start = j ∧ S.kind = hd.section? ∧ S.covers i := by
  obtain ⟨S, hS, rfl⟩ := exists_mem_outline hl.at_line
  obtain ⟨hd', hdesc⟩ := exists_describes_of_mem_outline hS
  have hsame := hl.at_line.symm.trans hdesc.at_header
  cases hsame
  -- Between the header and line `i` nothing ends the section.
  have hle : i ≤ S.stop := by
    apply hdesc.stop.le_of_none_between (lt_length_of_roleAt? hi)
    intro m hm hmi r hr
    rcases Nat.lt_or_eq_of_le hmi with hlt | rfl
    · exact hl.none_between m hm hlt r hr
    · cases hi.symm.trans hr
      rfl
  have hlt := hl.before
  refine ⟨S, hS, rfl, hdesc.kind, ?_⟩
  simp only [Span.covers, Bool.and_eq_true, decide_eq_true_eq]
  omega

/-- A section of the outline is the one place where a finding can be: no other covers its line, and
it is of the kind that the finding names. -/
structure Span.Holds (S : Span) (d : Dictionary) (text : Text) (f : Finding) : Prop where
  only : (outline text).filter (·.covers f.line) = [S]
  below_header : S.start < f.line
  kind : ∃ s, S.kind = some s ∧ (d.keywords? s.id).isSome ∧
    "in ".toList ++ s.id.map Char.toUpper ++ " section".toList <:+ f.message
  above_end : roleAt? (lines (dropMark text)) S.stop = some .sectionEnd → f.line < S.stop

/-- Each finding lies in exactly one section of the outline. -/
theorem finding_in_one_section (d : Dictionary) (text : Text) (f : Finding)
    (hf : f ∈ d.findings text) : ∃ S : Span, S.Holds d text f := by
  obtain ⟨i, s, t, ha, rfl⟩ := (d.mem_findings_iff text f).1 hf
  obtain ⟨j, hd, hl, hs⟩ := ha.opened
  obtain ⟨S, hS, hstart, hkind, hcovers⟩ := exists_span_of_lastStructural hl ha.content
  have hone : (outline text).filter (·.covers i) = [S] := by
    apply filter_covers_eq_singleton ?_ hS hcovers
    rw [outline_eq_spansFrom]
    exact pairwise_spansFrom 0 (scannedLines text)
  refine ⟨S, hone, hstart ▸ hl.before, ⟨s, hkind.trans hs, ha.listed, ?_⟩, ?_⟩
  · refine ⟨"Unknown keyword \"".toList ++ t.raw ++ "\" ".toList, ?_⟩
    simp [Finding.unknownKeyword]
  · intro hend
    have hne : i ≠ S.stop := by
      rintro rfl
      have hr := ha.content.symm.trans hend
      cases hr
    simp only [Span.covers, Bool.and_eq_true, decide_eq_true_eq] at hcovers
    exact Nat.lt_of_le_of_ne hcovers.2 hne

/-- A stray `end`, a header that another one overtakes, a comment, a section that is closed. -/
theorem finding_in_one_section_overtaken :
    let d := Dictionary.empty.insert "material".toList "density".toList
    let text := "End\nBody 1\nMaterial 2\n! End\n Foo = 1\nEnd\nBar = 2".toList
    let f : Finding := ⟨4, 1, 4, "Unknown keyword \"Foo\" in MATERIAL section".toList⟩
    f ∈ d.findings text ∧ ∃ S : Span, S.Holds d text f := by
  refine ⟨?_, finding_in_one_section
    (Dictionary.empty.insert "material".toList "density".toList) _ _ ?_⟩ <;> decide +kernel

end SolverInput
