import SolverInput.Proofs.Gather
import SolverInput.Proofs.Padding

namespace SolverInput
set_option autoImplicit true

/-- The same finding in a document with `n` more lines before it. -/
def Finding.moved (f : Finding) (n : Nat) : Finding :=
  { f with line := f.line + n }

namespace Dictionary

theorem finding?_add (d : Dictionary) (i n : Nat) (line : Text) (s : Section) :
    d.finding? (i + n) line s = (d.finding? i line s).map (·.moved n) := by
  unfold finding?
  split
  · rfl
  · cases Token.ofLine? line with
    | none => rfl
    | some t =>
      dsimp only
      split
      · rfl
      · rfl

theorem findingAt?_add (d : Dictionary) (i n : Nat) (line : Text) (scanned : ScannedLine) :
    d.findingAt? (i + n) line scanned = (d.findingAt? i line scanned).map (·.moved n) := by
  unfold findingAt?
  split
  · exact d.finding?_add i n line _
  · rfl

theorem gather_findingAt?_add (d : Dictionary) (i n : Nat) (xs : List (Text × ScannedLine)) :
    gather d.findingAt? (i + n) xs = (gather d.findingAt? i xs).map (·.moved n) := by
  induction xs generalizing i with
  | nil => rfl
  | cons x xs ih =>
    rw [gather_cons, gather_cons, findingAt?_add, Nat.add_right_comm, ih, List.map_append,
      Option.toList_map]

end Dictionary

theorem lines_dropMark_append (ha : a.getLast? = some '\n') (b : Text) :
    lines (dropMark (a ++ b)) = lines (dropMark a) ++ lines b := by
  obtain ⟨s, rfl⟩ := List.getLast?_eq_some_iff.1 ha
  have happ : s ++ ['\n'] ++ b = s ++ '\n' :: b := List.append_assoc s ['\n'] b
  rw [happ, dropMark_append_cons s b (by decide), dropMark_append_cons s [] (by decide)]
  exact lines_append_newline_append (dropMark s) b

theorem length_lines_concat_newline (s : Text) :
    (lines (s ++ ['\n'])).length = s.count '\n' + 1 := by
  induction s using lines_induction with
  | last s hs =>
    rw [lines_append_newline [] hs, List.count_eq_zero.2 hs]
    rfl
  | line l s hl ih =>
    rw [List.append_assoc, List.cons_append, lines_append_newline _ hl, List.length_cons, ih,
      List.count_append, List.count_eq_zero.2 hl, List.count_cons_self, Nat.zero_add]

theorem count_newline_dropMark (s : Text) : (dropMark s).count '\n' = s.count '\n' := by
  unfold dropMark
  split
  · rfl
  · rfl

/-- The mark is not a line, as long as a line feed ends it. -/
theorem length_lines_dropMark (ha : a.getLast? = some '\n') :
    (lines (dropMark a)).length = (lines a).length := by
  obtain ⟨s, rfl⟩ := List.getLast?_eq_some_iff.1 ha
  rw [dropMark_append_cons s [] (by decide), length_lines_concat_newline,
    length_lines_concat_newline, count_newline_dropMark]

theorem scanLine_dropReturn_of_header (hrole : LineRole.ofLine h = .header hd)
    (current : Option Section) :
    scanLine (dropReturn h) current = (.header hd.section?, hd.section?) := by
  unfold scanLine
  rw [LineRole.ofLine_dropReturn, hrole]

namespace Dictionary

theorem findings_append_eq (d : Dictionary) (ha : a.getLast? = some '\n') (b : Text) :
    d.findings (a ++ b) = d.findings a ++
      (gather d.findingAt? 0 (scannedFrom (scan (lines (dropMark a)) none).2 (lines b))).map
        (·.moved (lines a).length) := by
  rw [findings_eq_gather, lines_dropMark_append ha, scannedFrom_append, gather_append,
    length_scannedFrom, length_lines_dropMark ha, gather_findingAt?_add]
  rfl

theorem findings_of_unmarked (d : Dictionary) (hb : b.head? ≠ some '\ufeff') :
    d.findings b = gather d.findingAt? 0 (scannedFrom none (lines b)) := by
  rw [findings_eq_gather, dropMark_of_head?_ne hb]

/-- A header brings no finding and leaves its section open for the lines below. -/
theorem findings_header_append (d : Dictionary) (hn : '\n' ∉ h) (hm : h.head? ≠ some '\ufeff')
    (hrole : LineRole.ofLine h = .header hd) (b : Text) :
    d.findings (h ++ '\n' :: b) =
      (gather d.findingAt? 0 (scannedFrom hd.section? (lines b))).map (·.moved 1) := by
  rw [findings_eq_gather, dropMark_append_cons h b (by decide), dropMark_of_head?_ne hm,
    lines_append_newline b hn, scannedFrom_cons, scanLine_dropReturn_of_header hrole, gather_cons,
    gather_findingAt?_add]
  rfl

end Dictionary

/-- Text after a line feed changes no finding before it, and of the text before it only the section
that is open matters: what follows has the findings that it has on its own, or below any header of
that section. -/
theorem findings_append (d : Dictionary) (a b : Text) (ha : a.getLast? = some '\n')
    (hb : b.head? ≠ some '\ufeff') :
    let current := (scan (lines (dropMark a)) none).2
    ∃ rest : List Finding,
      d.findings (a ++ b) = d.findings a ++ rest.map (·.moved (lines a).length) ∧
      (current = none → rest = d.findings b) ∧
      ∀ s h hd, current = some s → '\n' ∉ h → h.head? ≠ some '\ufeff' →
        LineRole.ofLine h = .header hd → hd.section? = some s →
        d.findings (h ++ '\n' :: b) = rest.map (·.moved 1) := by
  intro current
  refine ⟨gather d.findingAt? 0 (scannedFrom current (lines b)), d.findings_append_eq ha b, ?_, ?_⟩
  · intro hnone
    rw [hnone, d.findings_of_unmarked hb]
  · intro s h hd hsome hn hm hrole hs
    rw [d.findings_header_append hn hm hrole b, hs, hsome]

/-- The same lines after a marked document that leaves a section open, where they are read below
another header of its kind, and after one that closes it. -/
theorem findings_append_cut :
    let d := Dictionary.empty.insert "solver".toList "equation".toList
    let a := "\ufeffSolver 1\r\n Foo = 1\r\n".toList
    let c := "Solver 1\nEnd\n".toList
    let b := "Bar(2) = 3\nEnd\nSolver\nFoo = 5".toList
    let h := " SOLVER\t7 \r".toList
    (d.findings (a ++ b)).map (·.line) = [1, 2, 5] ∧
      (∃ rest : List Finding, d.findings (a ++ b) = d.findings a ++ rest.map (·.moved 2) ∧
        d.findings (h ++ '\n' :: b) = rest.map (·.moved 1)) ∧
      (d.findings b).map (·.line) = [3] ∧
      d.findings (c ++ b) = d.findings c ++ (d.findings b).map (·.moved 2) := by
  intro d a c b h
  have hlen : (lines a).length = 2 ∧ (lines c).length = 2 := by
    decide +kernel
  have hopened : (scan (lines (dropMark a)) none).2 = some .solver := by
    decide +kernel
  have hclosed : (scan (lines (dropMark c)) none).2 = none := by
    decide +kernel
  have hrole : LineRole.ofLine h = .header ⟨"solver".toList, some "7".toList⟩ := by
    decide +kernel
  obtain ⟨rest, happ, _, hopen⟩ := findings_append d a b (by decide) (by decide)
  have hrest := hopen .solver h _ hopened (by decide) (by decide) hrole (by decide)
  obtain ⟨rest', happ', hclose, _⟩ := findings_append d c b (by decide) (by decide)
  rw [hlen.1] at happ
  rw [hlen.2, hclose hclosed] at happ'
  exact ⟨by decide +kernel, ⟨rest, happ, hrest⟩, by decide +kernel, happ'⟩

end SolverInput
