import SolverInput.Proofs.Gather
import SolverInput.Proofs.Padding

namespace SolverInput
set_option autoImplicit true

/-- A line of a document that is laid out anew: a blank line or a comment that was not there before,
or a line that was there and now has these blanks around it. -/
inductive LaidLine where
  | added (line : Text) (hn : '\n' ∉ line) (hs : trim line = [] ∨ (trim line).head? = some '!')
  | kept (left line right : Text) (hl : ∀ c ∈ left, isBlank c) (hr : ∀ c ∈ right, isBlank c)
    (hn : '\n' ∉ left ++ (line ++ right))

namespace LaidLine

def before? : LaidLine → Option Text
  | added .. => none
  | kept _ line .. => some line

def after : LaidLine → Text
  | added line .. => line
  | kept left line right .. => left ++ (line ++ right)

def left? : LaidLine → Option Text
  | added .. => none
  | kept left .. => some left

@[simp] theorem before?_added : before? (added line hn hs) = none :=
  rfl

@[simp] theorem before?_kept : before? (kept left line right hl hr hn) = some line :=
  rfl

end LaidLine

def textBefore (ls : List LaidLine) : Text :=
  unlines (ls.filterMap LaidLine.before?)

def textAfter (ls : List LaidLine) : Text :=
  unlines (ls.map LaidLine.after)

/-- Line `i` of the document before is line `j` of the one after, where `left` comes before it. -/
structure LaidAt (ls : List LaidLine) (i j : Nat) (left : Text) : Prop where
  kept : ls[j]?.bind LaidLine.left? = some left
  above : ((ls.take j).filterMap LaidLine.before?).length = i

theorem LaidAt.added_cons (h : LaidAt ls i j left) :
    LaidAt (.added line hn hs :: ls) i (j + 1) left :=
  ⟨h.kept, h.above⟩

theorem LaidAt.kept_cons (h : LaidAt ls i j left) :
    LaidAt (.kept u line v hl hr hn :: ls) (i + 1) (j + 1) left :=
  ⟨h.kept, congrArg (· + 1) h.above⟩

theorem isBlank_of_trim_eq_nil (h : trim s = []) : ∀ c ∈ s, isBlank c :=
  words_eq_nil_iff.1 (trim_eq_nil_iff.1 h)

theorem head?_trimLeft_of_trim (h : (trim s).head? = some c) : (trimLeft s).head? = some c := by
  obtain ⟨t, ht⟩ := List.head?_eq_some_iff.1 h
  obtain ⟨u, hu⟩ := trimRight_isPrefix (trimLeft s)
  rw [← hu, show trimRight (trimLeft s) = c :: t from ht]
  rfl

/-- The scan passes over blank lines and comments. -/
theorem scanLine_of_skipped (h : trim line = [] ∨ (trim line).head? = some '!')
    (current : Option Section) : scanLine line current = (.skipped, current) := by
  have hrole : LineRole.ofLine line = .blank ∨ LineRole.ofLine line = .comment := by
    simp only [LineRole.ofLine, List.isEmpty_iff]
    rcases h with hnil | hmark
    · rw [if_pos hnil]
      exact .inl rfl
    · rw [if_pos hmark]
      split
      · exact .inl rfl
      · exact .inr rfl
  unfold scanLine
  rcases hrole with h | h
  · rw [h]
  · rw [h]

theorem newline_notMem_before (ls : List LaidLine) :
    ∀ l ∈ ls.filterMap LaidLine.before?, '\n' ∉ l := by
  intro l hl
  obtain ⟨x, _, hx⟩ := List.mem_filterMap.1 hl
  cases x with
  | added => cases hx
  | kept left line right hl hr hn =>
    cases hx
    exact fun h => hn (List.mem_append_right left (List.mem_append_left right h))

theorem newline_notMem_after (ls : List LaidLine) : ∀ l ∈ ls.map LaidLine.after, '\n' ∉ l := by
  intro l hl
  obtain ⟨x, _, rfl⟩ := List.mem_map.1 hl
  cases x with
  | added line hn => exact hn
  | kept left line right hl hr hn => exact hn

theorem head?_textAfter_ne (hm : (textBefore ls).head? ≠ some '\ufeff') :
    (textAfter ls).head? ≠ some '\ufeff' := by
  cases ls with
  | nil => exact hm
  | cons l ls =>
    rw [textAfter, List.map_cons, ne_eq, head?_unlines_cons (by decide)]
    intro h
    cases l with
    | added line hn hs =>
      obtain ⟨t, rfl⟩ := List.head?_eq_some_iff.1 h
      rcases hs with hs | hs
      · have hb := isBlank_of_trim_eq_nil hs '\ufeff' List.mem_cons_self
        cases hb
      · have hmark := head?_trimLeft_of_trim hs
        cases hmark
    | kept left line right hl hr hn =>
      rw [textBefore, List.filterMap_cons_some LaidLine.before?_kept, ne_eq,
        head?_unlines_cons (by decide)] at hm
      exact hm (head?_of_pad hl hr line (by decide) h)

/-- What `f` takes from lines does not depend on blanks after a line, and blanks before a line and
more lines above change it as `P` says. -/
structure LayoutFree (f : Nat → Text → ScannedLine → Option α)
    (P : Nat → Nat → Text → α → α → Prop) : Prop where
  skipped : ∀ i line, f i line .skipped = none
  without_return : ∀ i line scanned, f i (dropReturn line) scanned = f i line scanned
  pad : ∀ {left right : Text}, (∀ c ∈ left, isBlank c) → (∀ c ∈ right, isBlank c) →
    ∀ i j line scanned,
      Option.Rel (P i j left) (f i line scanned) (f j (left ++ (line ++ right)) scanned)

namespace LayoutFree
variable {f : Nat → Text → ScannedLine → Option α} {P : Nat → Nat → Text → α → α → Prop}
  (hf : LayoutFree f P)
include hf

/-- Neither the carriage returns matter nor whether the last line is there when it is empty. -/
theorem gather_endLines (ls : List Text) (i : Nat) (current : Option Section) :
    gather f i (scannedFrom current (endLines ls)) = gather f i (scannedFrom current ls) := by
  fun_induction endLines ls generalizing i current with
  | case1 => rfl
  | case2 =>
    rw [scannedFrom_cons, gather_cons, scanLine_of_skipped (.inl rfl), hf.skipped]
    rfl
  | case3 => rfl
  | case4 l m ls ih =>
    have hscan := scanLine_congr (LineRole.ofLine_dropReturn l)
    rw [scannedFrom_cons, scannedFrom_cons, gather_cons, gather_cons, hscan, hf.without_return, ih]

/-- Every line that was there gives what it gave, in its new place. -/
theorem forall₂_gather (ls : List LaidLine) (i j : Nat) (current : Option Section) :
    List.Forall₂ (fun x y => ∃ a b left, LaidAt ls a b left ∧ P (i + a) (j + b) left x y)
      (gather f i (scannedFrom current (ls.filterMap LaidLine.before?)))
      (gather f j (scannedFrom current (ls.map LaidLine.after))) := by
  -- A line that is added leaves the open section as it is, and the lines below it come one later.
  induction ls generalizing i j current with
  | nil => exact .nil
  | cons l ls ih =>
    cases l with
    | added line hn hs =>
      rw [List.filterMap_cons_none LaidLine.before?_added, List.map_cons, scannedFrom_cons,
        gather_cons, LaidLine.after, scanLine_of_skipped hs, hf.skipped]
      refine (ih i (j + 1) current).imp ?_
      rintro x y ⟨a, b, left, hplace, hp⟩
      rw [Nat.add_right_comm] at hp
      exact ⟨a, b + 1, left, hplace.added_cons, hp⟩
    | kept left line right hl hr hn =>
      have hscan := scanLine_congr (LineRole.ofLine_pad hl hr line)
      rw [List.filterMap_cons_some LaidLine.before?_kept, List.map_cons, scannedFrom_cons,
        scannedFrom_cons, gather_cons, gather_cons, LaidLine.after, hscan]
      refine List.rel_append ?_ ?_
      · have hp := hf.pad hl hr i j line (scanLine line current).1
        refine (forall₂_toList hp).imp ?_
        intro x y hxy
        exact ⟨0, 0, left, ⟨rfl, rfl⟩, hxy⟩
      · refine (ih (i + 1) (j + 1) _).imp ?_
        rintro x y ⟨a, b, left, hplace, hp⟩
        rw [Nat.add_right_comm, Nat.add_right_comm j] at hp
        exact ⟨a + 1, b + 1, left, hplace.kept_cons, hp⟩

theorem forall₂_lines (ls : List LaidLine) (hm : (textBefore ls).head? ≠ some '\ufeff') :
    List.Forall₂ (fun x y => ∃ i j left, LaidAt ls i j left ∧ P i j left x y)
      (gather f 0 (scannedFrom none (lines (dropMark (textBefore ls)))))
      (gather f 0 (scannedFrom none (lines (dropMark (textAfter ls))))) := by
  have h := hf.forall₂_gather ls 0 0 none
  simp only [Nat.zero_add] at h
  rw [dropMark_of_head?_ne hm, dropMark_of_head?_ne (head?_textAfter_ne hm), textBefore, textAfter,
    lines_unlines (newline_notMem_before ls), lines_unlines (newline_notMem_after ls),
    hf.gather_endLines, hf.gather_endLines]
  exact h

end LayoutFree

/-- The finding is at the same characters of the same line in the new layout. -/
def Finding.Relaid (ls : List LaidLine) (f g : Finding) : Prop :=
  ∃ left, LaidAt ls f.line g.line left ∧
    g = { f with line := g.line, start := f.start + left.length, stop := f.stop + left.length }

/-- The section is headed by the same line in the new layout. -/
def Span.Relaid (ls : List LaidLine) (S T : Span) : Prop :=
  ∃ left, LaidAt ls S.start T.start left ∧ T.title = S.title ∧ T.kind = S.kind

theorem Dictionary.layoutFree_findingAt? (d : Dictionary) :
    LayoutFree d.findingAt? fun i j left f g => f.line = i ∧
      g = { f with line := j, start := f.start + left.length, stop := f.stop + left.length } := by
  refine ⟨fun _ _ => rfl, ?_, ?_⟩
  · intro i line scanned
    cases scanned with
    | content current =>
      cases current with
      | none => rfl
      | some s => simp [findingAt?, finding?]
    | skipped | header | sectionEnd => rfl
  · intro left right hl hr i j line scanned
    have htoken : Option.Rel (fun t u => u = { t with start := t.start + left.length })
        (Token.ofLine? line) (Token.ofLine? (left ++ (line ++ right))) := by
      rw [Token.ofLine?_pad hl hr line]
      cases Token.ofLine? line with
      | none => exact .none
      | some t => exact .some rfl
    unfold findingAt?
    split
    · rename_i s
      apply d.finding?_rel s htoken
      · rintro t _ rfl
        rfl
      · rintro t _ rfl
        have hstop : t.start + left.length + t.raw.length = t.stop + left.length :=
          Nat.add_right_comm _ _ _
        refine ⟨rfl, ?_⟩
        rw [Finding.unknownKeyword, Token.stop, hstop]
        rfl
    · exact .none

theorem layoutFree_headingAt? : LayoutFree headingAt? fun i j _ h k =>
    h.start = i ∧ k = { h with start := j } := by
  refine ⟨fun _ _ => rfl, ?_, ?_⟩
  · intro i line scanned
    cases scanned with
    | header opened => simp [headingAt?]
    | skipped | sectionEnd | content => rfl
  · intro left right hl hr i j line scanned
    cases scanned with
    | header opened =>
      refine .some ⟨rfl, ?_⟩
      rw [trim_pad hl hr]
    | skipped | sectionEnd | content => exact .none

/-- Layout does not matter: blank lines and comments between the lines of a document, and blanks
around its lines, move what is found there and change nothing else. -/
theorem findings_of_layout (ls : List LaidLine) (hm : (textBefore ls).head? ≠ some '\ufeff') :
    (∀ d : Dictionary,
      List.Forall₂ (Finding.Relaid ls) (d.findings (textBefore ls)) (d.findings (textAfter ls))) ∧
      List.Forall₂ (Span.Relaid ls) (outline (textBefore ls)) (outline (textAfter ls)) := by
  refine ⟨?_, ?_⟩
  · intro d
    rw [d.findings_eq_gather, d.findings_eq_gather]
    refine (d.layoutFree_findingAt?.forall₂_lines ls hm).imp ?_
    rintro f _ ⟨i, j, left, hplace, rfl, rfl⟩
    exact ⟨left, hplace, rfl⟩
  · have h := layoutFree_headingAt?.forall₂_lines ls hm
    rw [← map_heading_outline, ← map_heading_outline, List.forall₂_map_left_iff,
      List.forall₂_map_right_iff] at h
    refine h.imp ?_
    rintro S T ⟨i, j, left, hplace, rfl, he⟩
    injection he with htitle hkind hstart
    obtain rfl : T.start = j := hstart
    exact ⟨left, hplace, htitle, hkind⟩

/-- A document with blank lines, comments, carriage returns and wide margins. -/
theorem findings_of_layout_margins :
    let d := Dictionary.empty.insert "solver".toList "equation".toList
    let ls : List LaidLine := [
      .added "  ! x = 1".toList (by decide) (by decide),
      .kept " ".toList "Solver 1".toList "\r".toList (List.all_eq_true.1 (by decide))
        (List.all_eq_true.1 (by decide)) (by decide),
      .added "\t\r".toList (by decide) (by decide),
      .kept "\u00a0\t ".toList "  Foo = 1".toList " \r".toList (List.all_eq_true.1 (by decide))
        (List.all_eq_true.1 (by decide)) (by decide),
      .kept [] "End".toList [] (List.forall_mem_nil _) (List.forall_mem_nil _) (by decide),
      .kept " ".toList [] [] (List.all_eq_true.1 (by decide)) (List.forall_mem_nil _) (by decide)]
    textBefore ls = "Solver 1\n  Foo = 1\nEnd\n".toList ∧
      textAfter ls = "  ! x = 1\n Solver 1\r\n\t\r\n\u00a0\t   Foo = 1 \r\nEnd\n ".toList ∧
      (d.findings (textBefore ls)).map (fun f => (f.line, f.start, f.stop)) = [(1, 2, 5)] ∧
      List.Forall₂ (Finding.Relaid ls) (d.findings (textBefore ls)) (d.findings (textAfter ls)) ∧
      (outline (textBefore ls)).map (·.start) = [0] ∧
      List.Forall₂ (Span.Relaid ls) (outline (textBefore ls)) (outline (textAfter ls)) := by
  intro d ls
  obtain ⟨hfindings, houtline⟩ := findings_of_layout ls (by decide)
  exact ⟨rfl, rfl, by decide +kernel, hfindings d, by decide +kernel, houtline⟩

end SolverInput
