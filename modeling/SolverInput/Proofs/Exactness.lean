import SolverInput.Finding
import SolverInput.Proofs.Structure

namespace SolverInput
set_option autoImplicit true

/-- Line `i` assigns a keyword in an open section that the dictionary lists, and neither the
keyword nor its numbered base is known. -/
structure AssignsUnknown (d : Dictionary) (ls : List Text) (i : Nat) (s : Section) (t : Token) :
    Prop where
  content : roleAt? ls i = some .content
  opened : OpenBefore ls i s
  listed : (d.keywords? s.id).isSome
  assigns : ls[i]?.bind Token.ofLine? = some t
  uncommon : t.keyword ≠ "name".toList ∧ t.keyword ≠ "end".toList
  unknown : d.knows s t.keyword = false

theorem getElem?_scannedLines (text : Text) (i : Nat) :
    (scannedLines text)[i]? = (lines (dropMark text))[i]?.map fun line =>
      (line, (scanLine line (scan ((lines (dropMark text)).take i) none).2).1) := by
  simp only [scannedLines, List.zip, List.getElem?_zipWith, getElem?_scan]
  cases (lines (dropMark text))[i]? <;> rfl

theorem scanLine_eq_content_iff :
    (scanLine line current).1 = .content opened ↔
      LineRole.ofLine line = .content ∧ current = opened := by
  unfold scanLine
  split <;> simp_all

theorem scanLine_eq_header_iff :
    (scanLine line current).1 = .header opened ↔
      ∃ hd, LineRole.ofLine line = .header hd ∧ hd.section? = opened := by
  unfold scanLine
  split <;> simp_all

theorem scanLine_eq_sectionEnd_iff :
    (scanLine line current).1 = .sectionEnd ↔ LineRole.ofLine line = .sectionEnd := by
  unfold scanLine
  split <;> simp_all

namespace Dictionary

theorem findingAt?_eq_some_iff (d : Dictionary) (i : Nat) (line : Text) (scanned : ScannedLine) :
    d.findingAt? i line scanned = some f ↔
      ∃ s, scanned = .content (some s) ∧ d.finding? i line s = some f := by
  unfold findingAt?
  split
  · simp
  · rename_i hne
    constructor
    · intro h
      cases h
    · rintro ⟨s, rfl, _⟩
      exact (hne s rfl).elim

theorem finding?_eq_some_iff (d : Dictionary) (i : Nat) (line : Text) (s : Section) :
    d.finding? i line s = some f ↔
      (d.keywords? s.id).isSome ∧ ∃ t, Token.ofLine? line = some t ∧
        (t.keyword ≠ "name".toList ∧ t.keyword ≠ "end".toList) ∧
        d.knows s t.keyword = false ∧ f = .unknownKeyword i t s := by
  unfold finding?
  cases hd : d.keywords? s.id with
  | none => simp
  | some ks =>
    cases ht : Token.ofLine? line with
    | none => simp
    | some t =>
      simp only [Option.isNone_some, Bool.false_eq_true, if_false, Option.isSome_some, true_and,
        Option.some.injEq, exists_eq_left', isCommonKeyword, Bool.or_eq_true, beq_iff_eq]
      split
      · rename_i hc
        simp only [reduceCtorEq, false_iff]
        rintro ⟨⟨hn, he⟩, hk, _⟩
        rcases hc with (hc | hc) | hc
        · exact hn hc
        · exact he hc
        · rw [hk] at hc
          cases hc
      · rename_i hc
        simp only [not_or, Bool.not_eq_true] at hc
        simp only [Option.some.injEq, hc.1, hc.2, not_false_eq_true, and_self, true_and, ne_eq]
        exact eq_comm

theorem mem_findings_iff (d : Dictionary) (text : Text) (f : Finding) :
    f ∈ d.findings text ↔ ∃ i s t, AssignsUnknown d (lines (dropMark text)) i s t ∧
      f = .unknownKeyword i t s := by
  simp only [findings, List.mem_filterMap, Prod.exists, List.mk_mem_zipIdx_iff_getElem?,
    getElem?_scannedLines, Option.map_eq_some_iff, Prod.mk.injEq, findingAt?_eq_some_iff,
    finding?_eq_some_iff]
  constructor
  · rintro ⟨line, _, i, ⟨_, hl, rfl, rfl⟩, s, hs, hd, t, ht, hn, hk, rfl⟩
    obtain ⟨hc, ho⟩ := scanLine_eq_content_iff.1 hs
    have hr := roleAt?_eq_some hl
    rw [hc] at hr
    exact ⟨i, s, t, ⟨hr, (scan_take_eq_some_iff _ _ _).1 ho, hd, by rw [hl]; exact ht, hn, hk⟩, rfl⟩
  · rintro ⟨i, s, t, ⟨hr, ho, hd, ht, hn, hk⟩, rfl⟩
    obtain ⟨line, hl, ht⟩ := Option.bind_eq_some_iff.1 ht
    have hc := Option.some.inj ((roleAt?_eq_some hl).symm.trans hr)
    have hs := scanLine_eq_content_iff.2 ⟨hc, (scan_take_eq_some_iff _ _ _).2 ho⟩
    exact ⟨line, _, i, ⟨line, hl, rfl, rfl⟩, s, hs, hd, t, ht, hn, hk, rfl⟩

theorem finding?_of_mem_findings (h : f ∈ findings d text)
    (hl : (lines (dropMark text))[f.line]? = some line) :
    ∃ s, d.finding? f.line line s = some f := by
  obtain ⟨i, s, t, ha, rfl⟩ := (d.mem_findings_iff text f).1 h
  have hi : (lines (dropMark text))[i]? = some line := hl
  have ht := ha.assigns
  rw [hi, Option.bind_some] at ht
  exact ⟨s, (finding?_eq_some_iff ..).2 ⟨ha.listed, t, ht, ha.uncommon, ha.unknown, rfl⟩⟩

theorem line_of_findingAt? (h : findingAt? d i line scanned = some f) : f.line = i := by
  obtain ⟨s, _, h⟩ := (findingAt?_eq_some_iff ..).1 h
  obtain ⟨_, t, _, _, _, rfl⟩ := (finding?_eq_some_iff ..).1 h
  rfl

theorem findings_sorted (d : Dictionary) (text : Text) :
    (d.findings text).Pairwise (·.line < ·.line) := by
  -- The numbers of the lines rise, and a line has one finding at most.
  have hlt : (scannedLines text).zipIdx.Pairwise (·.2 < ·.2) := by
    rw [← List.pairwise_map (f := Prod.snd), List.zipIdx_map_snd]
    exact List.pairwise_lt_range'
  refine List.pairwise_filterMap.2 (hlt.imp ?_)
  intro a b hab f hf g hg
  rw [line_of_findingAt? hf, line_of_findingAt? hg]
  exact hab

end Dictionary

/-- The findings of a text are those of the lines that assign an unknown keyword, in the order of
the lines. What a line brings does not depend on how the scan got there, but on the last header or
`end` before it. -/
theorem findings_exact (d : Dictionary) (text : Text) :
    let ls := lines (dropMark text)
    (d.findings text).Pairwise (·.line < ·.line) ∧
      (∀ f, f ∈ d.findings text ↔ ∃ i s t, AssignsUnknown d ls i s t ∧
        f = {
          line := i
          start := t.start
          stop := t.stop
          message := "Unknown keyword \"".toList ++ t.raw ++ "\" in ".toList ++
            s.id.map Char.toUpper ++ " section".toList }) ∧
      ∀ f ∈ d.findings text, f.line ≠ 0 ∧ roleAt? ls f.line = some .content ∧
        ∃ s, OpenBefore ls f.line s := by
  refine ⟨d.findings_sorted text, fun f => d.mem_findings_iff text f, ?_⟩
  intro f hf
  obtain ⟨i, s, t, h, rfl⟩ := (d.mem_findings_iff text f).1 hf
  refine ⟨?_, h.content, s, h.opened⟩
  -- A header stands before the line, so the line is not the first.
  obtain ⟨j, _, hl, _⟩ := h.opened
  exact Nat.ne_of_gt (Nat.zero_lt_of_lt hl.before)

end SolverInput
