import SolverInput.Proofs.Deeds
import SolverInput.Proofs.Outline
import SolverInput.Proofs.Positions

namespace SolverInput
set_option autoImplicit true

@[simp] theorem units16_append (s t : Text) : units16 (s ++ t) = units16 s + units16 t := by
  simp only [← length_encode16, encode16_append, List.length_append]

theorem one_le_unitCount (c : Char) : 1 ≤ unitCount c := by
  unfold unitCount
  split <;> decide

theorem length_le_units16 (s : Text) : s.length ≤ units16 s := by
  induction s with
  | nil => exact Nat.le_refl 0
  | cons c s ih =>
    have hc := one_le_unitCount c
    have hcons : units16 (c :: s) = unitCount c + units16 s := rfl
    rw [hcons, List.length_cons]
    omega

theorem units16_le_of_getElem?_lines {i : Nat} (h : (lines s)[i]? = some l) :
    units16 l ≤ units16 s := by
  obtain ⟨prior, ⟨rest, rfl⟩, _⟩ := exists_prior_of_getElem?_lines h
  rw [units16_append, units16_append]
  omega

/-- Positions in the order of the text, by line and then by character. -/
instance : LE Position :=
  ⟨fun p q => p.line < q.line ∨ p.line = q.line ∧ p.character ≤ q.character⟩

/-- The inner range begins and ends inside the outer one. -/
def Range.Within (inner outer : Range) : Prop :=
  outer.start ≤ inner.start ∧ inner.stop ≤ outer.stop

/-- The range has the whole lines from `first` to `last`, which the text has, and its numbers are
exactly theirs. -/
structure Range.TakesLines (r : Range) (ls : List Text) (first last : Nat) : Prop where
  start_line : r.start.line.toNat = first
  start_character : r.start.character = 0
  stop_line : r.stop.line.toNat = last
  ordered : first ≤ last
  stop_character : ∃ l, ls[last]? = some l ∧ r.stop.character.toNat = units16 l

theorem Range.TakesLines.within {outer inner : Range} (houter : outer.TakesLines ls first last)
    (hinner : inner.TakesLines ls first first) : inner.Within outer := by
  have hstart : outer.start.line = inner.start.line :=
    UInt32.toNat_inj.1 (houter.start_line.trans hinner.start_line.symm)
  refine ⟨.inr ⟨hstart, ?_⟩, ?_⟩
  · rw [houter.start_character, hinner.start_character]
    exact UInt32.le_refl 0
  · rcases Nat.lt_or_eq_of_le houter.ordered with hlt | rfl
    · refine .inl (UInt32.lt_iff_toNat_lt.2 ?_)
      rw [hinner.stop_line, houter.stop_line]
      exact hlt
    · have hstop : inner.stop.line = outer.stop.line :=
        UInt32.toNat_inj.1 (hinner.stop_line.trans houter.stop_line.symm)
      obtain ⟨l, hl, hinner⟩ := hinner.stop_character
      obtain ⟨m, hm, houter⟩ := houter.stop_character
      obtain rfl : l = m := Option.some.inj (hl.symm.trans hm)
      exact .inr ⟨hstop, UInt32.le_iff_toNat_le.2 (Nat.le_of_eq (hinner.trans houter.symm))⟩

section
variable {text : Text} (hlen : units16 text < UInt32.size)
include hlen

theorem takesLines_ofLines (hle : first ≤ last) (hlast : last < (lines text).length) :
    (Range.ofLines (lines text) first last).TakesLines (lines text) first last := by
  have hl : (lines text)[last]? = some (lines text)[last] := List.getElem?_eq_getElem hlast
  have hsize := lt_size_of_line (Nat.lt_of_le_of_lt (length_le_units16 text) hlen) hl
  refine ⟨toNat_toUInt32 (Nat.lt_of_le_of_lt hle hsize), rfl, toNat_toUInt32 hsize, hle, _, hl, ?_⟩
  have hunits := units16_le_of_getElem?_lines hl
  simp only [Range.ofLines, lineLength, hl]
  exact toNat_toUInt32 (Nat.lt_of_le_of_lt hunits hlen)

/-- A section is measured on the lines with the mark, which are not fewer. -/
theorem takesLines_of_mem_outline (h : S ∈ outline text) :
    (S.toSymbol (lines text)).range.TakesLines (lines text) S.start S.stop ∧
      (S.toSymbol (lines text)).selection.TakesLines (lines text) S.start S.start := by
  obtain ⟨hle, hlt⟩ := bounds_of_mem_outline h
  have hstop := Nat.lt_of_lt_of_le hlt (length_lines_dropMark_le text)
  exact ⟨takesLines_ofLines hlen hle hstop,
    takesLines_ofLines hlen (Nat.le_refl _) (Nat.lt_of_le_of_lt hle hstop)⟩

theorem map_line_symbols :
    (symbols text).map (·.range.start.line.toNat) = headerLines (lines (dropMark text)) := by
  rw [symbols, List.map_map, ← map_start_outline]
  apply List.map_congr_left
  intro S hS
  exact (takesLines_of_mem_outline hlen hS).1.start_line

theorem symbols_separated :
    (symbols text).Pairwise (·.range.stop.line < ·.range.start.line) := by
  refine List.pairwise_map.2 ((outline_separated text).imp_of_mem ?_)
  intro S T hS hT hlt
  refine UInt32.lt_iff_toNat_lt.2 ?_
  rw [(takesLines_of_mem_outline hlen hS).1.stop_line,
    (takesLines_of_mem_outline hlen hT).1.start_line]
  exact hlt

end

theorem act_symbolsRequest (setup : Setup) (s : Session) (u : Text) :
    (Session.act setup (.event (.symbolsRequest u)) s).2 = s := by
  obtain ⟨phase, documents, store⟩ := s
  cases phase <;> rfl

/-- The symbols of an open document are its headers in order. Their ranges are whole lines of the
text that the client has, no two have a line in common, and each begins with its selection. Asking
for them changes nothing. -/
theorem symbols_wellFormed (setup : Setup) (s : Session) (u : Text) (doc : OpenDocument)
    (hd : s.documents.get? u = some doc) (hlen : units16 doc.content < UInt32.size) :
    let asked := Session.act setup (.event (.symbolsRequest u)) s
    let list := symbols doc.content
    asked.2 = s ∧ (s.phase = .running → asked.1 = .replying (.symbols (some list))) ∧
      list.map (·.range.start.line.toNat) = headerLines (lines (dropMark doc.content)) ∧
      (∀ y ∈ list, ∃ first last, y.range.TakesLines (lines doc.content) first last ∧
        y.selection.TakesLines (lines doc.content) first first ∧ y.selection.Within y.range) ∧
      list.Pairwise (·.range.stop.line < ·.range.start.line) := by
  intro asked list
  refine ⟨act_symbolsRequest setup s u, ?_, map_line_symbols hlen, ?_, symbols_separated hlen⟩
  · intro hrunning
    simp only [asked, Session.act, Session.receive_of_running setup s hrunning, Session.handle, hd]
    rfl
  · intro y hy
    obtain ⟨S, hS, rfl⟩ := List.mem_map.1 hy
    obtain ⟨hrange, hselection⟩ := takesLines_of_mem_outline hlen hS
    exact ⟨S.start, S.stop, hrange, hselection, hrange.within hselection⟩

/-- A mark before the first header, carriage returns, and a last line with a character of two
units. -/
theorem symbols_wellFormed_marked :
    let text := "\ufeffBody 1\r\n x = 1\r\nSolver 2\r\n Name = 🔥".toList
    let s : Session := ⟨.running, (∅ : Table OpenDocument).insert "a".toList ⟨text, 3⟩, ∅⟩
    let y : Symbol := ⟨"Solver 2".toList, some "solver".toList, ⟨⟨2, 0⟩, ⟨3, 10⟩⟩, ⟨⟨2, 0⟩, ⟨2, 8⟩⟩⟩
    s.documents.get? "a".toList = some ⟨text, 3⟩ ∧ units16 text < UInt32.size ∧ y ∈ symbols text ∧
      headerLines (lines (dropMark text)) = [0, 2] ∧
      ∃ first last, y.range.TakesLines (lines text) first last ∧
        y.selection.TakesLines (lines text) first first ∧ y.selection.Within y.range := by
  intro text s y
  have hd : s.documents.get? "a".toList = some ⟨text, 3⟩ := by
    rw [Table.get?_insert, if_pos rfl]
  have hlen : units16 text < UInt32.size := by decide +kernel
  have hy : y ∈ symbols text := by decide +kernel
  obtain ⟨_, _, hlines, hranges, _⟩ :=
    symbols_wellFormed ⟨.empty, none⟩ s "a".toList ⟨text, 3⟩ hd hlen
  refine ⟨hd, hlen, hy, ?_, hranges y hy⟩
  rw [← hlines]
  decide +kernel

end SolverInput
