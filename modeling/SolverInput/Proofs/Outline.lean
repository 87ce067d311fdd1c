import Mathlib.Data.List.Sort
import SolverInput.Proofs.Exactness
import SolverInput.Proofs.Roles
import SolverInput.Proofs.Spans

namespace SolverInput
set_option autoImplicit true

def LineRole.isHeader : LineRole → Bool
  | .header _ => true
  | _ => false

/-- The numbers of the lines that are headers, in their order. -/
def headerLines (ls : List Text) : List Nat :=
  (List.range ls.length).filter fun i => (roleAt? ls i).any LineRole.isHeader

theorem lt_length_of_roleAt? (h : roleAt? ls i = some r) : i < ls.length := by
  obtain ⟨_, hl, _⟩ := exists_of_roleAt? h
  exact (List.getElem?_eq_some_iff.1 hl).1

theorem mem_headerLines_iff : i ∈ headerLines ls ↔ ∃ hd, roleAt? ls i = some (.header hd) := by
  rw [headerLines, List.mem_filter, List.mem_range, Option.any_eq_true]
  constructor
  · rintro ⟨_, r, hr, hheader⟩
    cases r with
    | header hd => exact ⟨hd, hr⟩
    | blank | comment | sectionEnd | content => cases hheader
  · rintro ⟨hd, hr⟩
    exact ⟨lt_length_of_roleAt? hr, .header hd, hr, rfl⟩

/-- The next header or `end` after line `i` is at line `n` and has this role. -/
structure NextStructural (ls : List Text) (i n : Nat) (role : LineRole) : Prop where
  after : i < n
  at_line : roleAt? ls n = some role
  structural : role.isStructural
  none_between : ∀ k, i < k → k < n → ∀ r, roleAt? ls k = some r → r.isStructural = false

/-- The section that begins at line `i` has its last line at `n`. -/
inductive EndsAt (ls : List Text) (i : Nat) : Nat → Prop
  | closed (h : NextStructural ls i n .sectionEnd) : EndsAt ls i n
  | overtaken (h : NextStructural ls i n (.header hd)) : EndsAt ls i (n - 1)
  /-- No header or `end` comes after it. -/
  | unended (h : ∀ k, i < k → ∀ r, roleAt? ls k = some r → r.isStructural = false) :
    EndsAt ls i (ls.length - 1)

namespace EndsAt

theorem bounds (h : EndsAt ls i n) (hi : i < ls.length) : i ≤ n ∧ n < ls.length := by
  cases h with
  | closed h => exact ⟨Nat.le_of_lt h.after, lt_length_of_roleAt? h.at_line⟩
  | overtaken h =>
    have hlt := h.after
    have hlen := lt_length_of_roleAt? h.at_line
    omega
  | unended h => omega

theorem none_before (h : EndsAt ls i n) (hik : i < k) (hkn : k < n) :
    ∀ r, roleAt? ls k = some r → r.isStructural = false := by
  cases h with
  | closed h => exact h.none_between k hik hkn
  | overtaken h => exact h.none_between k hik (by omega)
  | unended h => exact h k hik

theorem le_of_none_between (h : EndsAt ls i n) (hlen : k < ls.length)
    (hnone : ∀ m, i < m → m ≤ k → ∀ r, roleAt? ls m = some r → r.isStructural = false) : k ≤ n := by
  have hlt {m role} (hm : NextStructural ls i m role) : k < m := by
    refine Nat.lt_of_not_le fun hle => ?_
    have hno := hnone m hm.after hle role hm.at_line
    rw [hm.structural] at hno
    cases hno
  cases h with
  | closed h => exact Nat.le_of_lt (hlt h)
  | overtaken h => exact Nat.le_sub_one_of_lt (hlt h)
  | unended h => exact Nat.le_sub_one_of_lt hlen

end EndsAt

theorem isStructural_scanLine (line : Text) (current : Option Section) :
    (scanLine line current).1.isStructural = (LineRole.ofLine line).isStructural := by
  unfold scanLine
  split <;> simp_all [ScannedLine.isStructural, LineRole.isStructural]

theorem exists_role_of_scannedLines {i : Nat} (h : (scannedLines text)[i]? = some (line, scanned)) :
    (lines (dropMark text))[i]? = some line ∧
      ∃ current, (scanLine line current).1 = scanned := by
  rw [getElem?_scannedLines, Option.map_eq_some_iff] at h
  obtain ⟨_, hl, he⟩ := h
  cases he
  exact ⟨hl, _, rfl⟩

theorem length_scannedLines (text : Text) :
    (scannedLines text).length = (lines (dropMark text)).length := by
  simp [scannedLines]

theorem endsAt_stopFrom (hi : i < j) (hj : j ≤ (lines (dropMark text)).length)
    (hnone : ∀ k, i < k → k < j → ∀ r, roleAt? (lines (dropMark text)) k = some r →
      r.isStructural = false)
    (hxs : (scannedLines text).drop j = xs) :
    EndsAt (lines (dropMark text)) i (stopFrom j xs) := by
  induction xs generalizing j with
  | nil =>
    have hlen : (lines (dropMark text)).length = j := by
      have hle := List.drop_eq_nil_iff.1 hxs
      rw [length_scannedLines] at hle
      omega
    rw [stopFrom, ← hlen]
    apply EndsAt.unended
    intro k hk r hr
    exact hnone k hk (hlen ▸ lt_length_of_roleAt? hr) r hr
  | cons x xs ih =>
    obtain ⟨line, scanned⟩ := x
    have hx : (scannedLines text)[j]? = some (line, scanned) := by
      rw [← List.head?_drop, hxs, List.head?_cons]
    have hrest : (scannedLines text).drop (j + 1) = xs := by
      rw [← List.tail_drop, hxs, List.tail_cons]
    obtain ⟨hl, current, hscan⟩ := exists_role_of_scannedLines hx
    have hr := roleAt?_eq_some hl
    have hs := isStructural_scanLine line current
    rw [hscan] at hs
    have hnext : scanned.isStructural = false →
        EndsAt (lines (dropMark text)) i (stopFrom (j + 1) xs) := by
      intro hno
      apply ih (Nat.lt_succ_of_lt hi) (lt_length_of_roleAt? hr) ?_ hrest
      intro k hik hkj r hrk
      rcases Nat.lt_or_eq_of_le (Nat.le_of_lt_succ hkj) with hlt | rfl
      · exact hnone k hik hlt r hrk
      · rw [← Option.some.inj (hr.symm.trans hrk), ← hs, hno]
    cases scanned with
    | header opened =>
      obtain ⟨hd, hrole, _⟩ := scanLine_eq_header_iff.1 hscan
      rw [hrole] at hr
      exact .overtaken ⟨hi, hr, rfl, hnone⟩
    | sectionEnd =>
      rw [scanLine_eq_sectionEnd_iff.1 hscan] at hr
      exact .closed ⟨hi, hr, rfl, hnone⟩
    | skipped | content => exact hnext rfl

/-- What the outline says of the section whose header is at line `i`. -/
structure Span.Describes (S : Span) (ls : List Text) (i : Nat) (hd : Header) : Prop where
  at_header : roleAt? ls i = some (.header hd)
  start : S.start = i
  kind : S.kind = hd.section?
  title : ls[i]?.map trim = some S.title
  /-- The title alone is read as the same header. -/
  reads : Header.ofLine? S.title = some hd
  stop : EndsAt ls i S.stop

theorem exists_describes_of_mem_outline (h : S ∈ outline text) :
    ∃ hd, S.Describes (lines (dropMark text)) S.start hd := by
  rw [outline_eq_spansFrom] at h
  obtain ⟨i, line, opened, hx, rfl⟩ := exists_of_mem_spansFrom h
  obtain ⟨hl, current, hscan⟩ := exists_role_of_scannedLines hx
  obtain ⟨hd, hrole, rfl⟩ := scanLine_eq_header_iff.1 hscan
  have hr := roleAt?_eq_some hl
  have hstop : EndsAt (lines (dropMark text)) i
      (stopFrom (i + 1) ((scannedLines text).drop (i + 1))) := by
    apply endsAt_stopFrom (Nat.lt_succ_self i) (lt_length_of_roleAt? hr) ?_ rfl
    intro k hik hki
    omega
  rw [hrole] at hr
  rw [Nat.zero_add]
  refine ⟨hd, hr, rfl, rfl, ?_, ?_, hstop⟩
  · rw [hl, Option.map_some]
  · rw [Header.ofLine?_trim, LineRole.ofLine_eq_header hrole]

theorem exists_mem_outline (h : roleAt? (lines (dropMark text)) i = some (.header hd)) :
    ∃ S ∈ outline text, S.start = i := by
  obtain ⟨line, hl, hrole⟩ := exists_of_roleAt? h
  have hx := getElem?_scannedLines text i
  rw [hl, Option.map_some, scanLine_eq_header_iff.2 ⟨hd, hrole, rfl⟩] at hx
  have hmem := mem_spansFrom_of_header 0 hx
  rw [← outline_eq_spansFrom, Nat.zero_add] at hmem
  exact ⟨_, hmem, rfl⟩

theorem outline_separated (text : Text) : (outline text).Pairwise (·.stop < ·.start) := by
  rw [outline_eq_spansFrom]
  exact pairwise_spansFrom 0 (scannedLines text)

theorem bounds_of_mem_outline (h : S ∈ outline text) :
    S.start ≤ S.stop ∧ S.stop < (lines (dropMark text)).length := by
  obtain ⟨hd, hS⟩ := exists_describes_of_mem_outline h
  exact hS.stop.bounds (lt_length_of_roleAt? hS.at_header)

/-- The outline has one section for each header, in the order of the lines. -/
theorem map_start_outline (text : Text) :
    (outline text).map (·.start) = headerLines (lines (dropMark text)) := by
  have hsorted : ((outline text).map (·.start)).Pairwise (· < ·) := by
    refine List.pairwise_map.2 ((outline_separated text).imp_of_mem ?_)
    intro S T hS _ hlt
    exact Nat.lt_of_le_of_lt (bounds_of_mem_outline hS).1 hlt
  have hheaders : (headerLines (lines (dropMark text))).Pairwise (· < ·) :=
    List.pairwise_lt_range.filter _
  apply hsorted.eq_of_mem_iff hheaders
  intro i
  rw [mem_headerLines_iff, List.mem_map]
  constructor
  · rintro ⟨S, hS, rfl⟩
    obtain ⟨hd, hdesc⟩ := exists_describes_of_mem_outline hS
    exact ⟨hd, hdesc.at_header⟩
  · rintro ⟨hd, hr⟩
    exact exists_mem_outline hr

/-- The line is an `end`, and no section is open before it. -/
structure StrayEnd (ls : List Text) (i : Nat) : Prop where
  at_line : roleAt? ls i = some .sectionEnd
  none_open : ∀ j hd, ¬LastStructural ls i j (.header hd)

theorem not_covers_of_strayEnd (h : StrayEnd (lines (dropMark text)) i) (hS : S ∈ outline text) :
    S.covers i = false := by
  obtain ⟨hd, hdesc⟩ := exists_describes_of_mem_outline hS
  rw [Bool.eq_false_iff]
  intro hcovers
  simp only [Span.covers, Bool.and_eq_true, decide_eq_true_eq] at hcovers
  obtain ⟨hle, hstop⟩ := hcovers
  have hne : S.start ≠ i := by
    intro he
    have hr := hdesc.at_header
    rw [he, h.at_line] at hr
    cases hr
  -- The header of a section that covers the line would be open before it.
  apply h.none_open S.start hd
  refine ⟨Nat.lt_of_le_of_ne hle hne, hdesc.at_header, rfl, ?_⟩
  intro k hk hki
  exact hdesc.stop.none_before hk (Nat.lt_of_lt_of_le hki hstop)

/-- The outline has exactly one section for each header, in their order. A section ends with the next
`end`, before the next header or with the text. An `end` that closes nothing is in no section. -/
theorem outline_exact (text : Text) :
    let ls := lines (dropMark text)
    (outline text).map (·.start) = headerLines ls ∧
      (∀ S ∈ outline text, ∃ hd, S.Describes ls S.start hd) ∧
      (∀ S ∈ outline text, S.start ≤ S.stop ∧ S.stop < ls.length) ∧
      (outline text).Pairwise (·.stop < ·.start) ∧
      ∀ i, StrayEnd ls i → ∀ S ∈ outline text, S.covers i = false := by
  intro ls
  refine ⟨map_start_outline text, fun S hS => exists_describes_of_mem_outline hS,
    fun S hS => bounds_of_mem_outline hS, outline_separated text, ?_⟩
  intro i hi S hS
  exact not_covers_of_strayEnd hi hS

/-- A mark, a stray `end` before and after, a header that another one overtakes. -/
theorem outline_exact_overtaken :
    let text := "\ufeffEnd\r\n Boundary\tCondition 02\n Body\n! End\nEND\nend\nMaterial\n x = 1".toList
    let ls := lines (dropMark text)
    let overtaken : Span := ⟨"Boundary\tCondition 02".toList, some .boundaryCondition, 1, 1⟩
    let closed : Span := ⟨"Body".toList, some .body, 2, 4⟩
    let unended : Span := ⟨"Material".toList, some .material, 6, 7⟩
    outline text = [overtaken, closed, unended] ∧ StrayEnd ls 5 ∧
      (∃ hd, overtaken.Describes ls 1 hd) ∧ closed.covers 5 = false := by
  intro text ls overtaken closed unended
  have houtline : outline text = [overtaken, closed, unended] := by decide +kernel
  obtain ⟨hclosed, hend⟩ : roleAt? ls 4 = some .sectionEnd ∧ roleAt? ls 5 = some .sectionEnd := by
    decide +kernel
  have hstray : StrayEnd ls 5 := by
    refine ⟨hend, ?_⟩
    intro j hd hl
    rcases Nat.lt_or_eq_of_le (Nat.le_of_lt_succ hl.before) with hlt | rfl
    · cases hl.none_between 4 hlt (Nat.lt_succ_self 4) _ hclosed
    · cases hl.at_line.symm.trans hclosed
  obtain ⟨_, hdescribes, _, _, hcovers⟩ := outline_exact text
  refine ⟨houtline, hstray, hdescribes overtaken ?_, hcovers 5 hstray closed ?_⟩
  · rw [houtline]
    exact List.mem_cons_self
  · rw [houtline]
    exact List.mem_cons_of_mem _ List.mem_cons_self

end SolverInput
