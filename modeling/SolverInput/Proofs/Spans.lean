import SolverInput.Outline
import SolverInput.Proofs.Structure

namespace SolverInput
set_option autoImplicit true

def ScannedLine.isStructural : ScannedLine → Bool
  | .header _ => true
  | .sectionEnd => true
  | _ => false

/-- The last line of a section that goes on with these lines, the first of which is line `i`. -/
def stopFrom (i : Nat) : List (Text × ScannedLine) → Nat
  | [] => i - 1
  | (_, .header _) :: _ => i - 1
  | (_, .sectionEnd) :: _ => i
  | (_, .skipped) :: ls => stopFrom (i + 1) ls
  | (_, .content _) :: ls => stopFrom (i + 1) ls

/-- The sections that begin in these lines, the first of which is line `i`. -/
def spansFrom (i : Nat) : List (Text × ScannedLine) → List Span
  | [] => []
  | (line, .header opened) :: ls =>
    ⟨trim line, opened, i, stopFrom (i + 1) ls⟩ :: spansFrom (i + 1) ls
  | (_, .sectionEnd) :: ls => spansFrom (i + 1) ls
  | (_, .skipped) :: ls => spansFrom (i + 1) ls
  | (_, .content _) :: ls => spansFrom (i + 1) ls

namespace OutlineDraft

theorem reverse_ended_close (o : OutlineDraft) (stop : Span → Nat) :
    (o.close stop).ended.reverse =
      o.ended.reverse ++ (o.pending.map fun s => { s with stop := stop s }).toList := by
  unfold close
  cases o.pending with
  | none => simp
  | some s => simp

theorem pending_close (o : OutlineDraft) (stop : Span → Nat) : (o.close stop).pending = none := by
  unfold close
  cases h : o.pending with
  | none => exact h
  | some s => rfl

/-- What a draft becomes over the lines to come: the section that has begun finds its last line, and
the sections that begin later follow. -/
theorem reverse_ended_foldl_step (ls : List (Text × ScannedLine)) (i : Nat) (o : OutlineDraft)
    (h : ∀ s, o.pending = some s → s.start < i) :
    (((ls.zipIdx i).foldl step o).close fun _ => i + ls.length - 1).ended.reverse =
      o.ended.reverse ++ (o.pending.map fun s => { s with stop := stopFrom i ls }).toList ++
        spansFrom i ls := by
  induction ls generalizing i o with
  | nil =>
    rw [List.zipIdx_nil, List.foldl_nil, reverse_ended_close]
    simp [stopFrom, spansFrom]
  | cons x ls ih =>
    have hlen : i + (x :: ls).length - 1 = i + 1 + ls.length - 1 := by
      rw [List.length_cons]
      omega
    rw [List.zipIdx_cons, List.foldl_cons, hlen]
    obtain ⟨line, scanned⟩ := x
    cases scanned with
    | header opened =>
      rw [ih _ _ (by simp [step])]
      -- The section began on an earlier line, so it never ends before it begins.
      have hclamp : (o.pending.map fun s => { s with stop := max (i - 1) s.start }) =
          o.pending.map fun s => { s with stop := i - 1 } := by
        refine Option.map_congr fun s hs => ?_
        have hlt := h s hs
        rw [Nat.max_eq_left (by omega)]
      simp only [step, reverse_ended_close, hclamp, stopFrom, spansFrom]
      simp
    | sectionEnd =>
      rw [ih _ _ (by simp [step, pending_close])]
      simp only [step, reverse_ended_close, pending_close, stopFrom, spansFrom]
      simp
    | skipped => exact ih _ o fun s hs => Nat.lt_succ_of_lt (h s hs)
    | content current => exact ih _ o fun s hs => Nat.lt_succ_of_lt (h s hs)

end OutlineDraft

theorem outline_eq_spansFrom (text : Text) : outline text = spansFrom 0 (scannedLines text) := by
  have h := OutlineDraft.reverse_ended_foldl_step (scannedLines text) 0 ⟨[], none⟩ (by simp)
  rw [Nat.zero_add] at h
  exact h

theorem le_start_of_mem_spansFrom (h : S ∈ spansFrom i ls) : i ≤ S.start := by
  fun_induction spansFrom i ls with
  | case1 => cases h
  | case2 i line opened ls ih =>
    rcases List.mem_cons.1 h with rfl | h
    · exact Nat.le_refl i
    · exact Nat.le_of_succ_le (ih h)
  | case3 i _ ls ih => exact Nat.le_of_succ_le (ih h)
  | case4 i _ ls ih => exact Nat.le_of_succ_le (ih h)
  | case5 i _ _ ls ih => exact Nat.le_of_succ_le (ih h)

theorem stopFrom_lt_start (hi : 0 < i) (h : S ∈ spansFrom i ls) : stopFrom i ls < S.start := by
  fun_induction stopFrom i ls with
  | case1 => cases h
  | case2 i line opened ls =>
    have hle := le_start_of_mem_spansFrom h
    omega
  | case3 i line ls => exact le_start_of_mem_spansFrom (i := i + 1) h
  | case4 i line ls ih => exact ih (Nat.succ_pos i) h
  | case5 i line current ls ih => exact ih (Nat.succ_pos i) h

theorem pairwise_spansFrom (i : Nat) (ls : List (Text × ScannedLine)) :
    (spansFrom i ls).Pairwise (·.stop < ·.start) := by
  fun_induction spansFrom i ls with
  | case1 => exact .nil
  | case2 i line opened ls ih =>
    exact List.pairwise_cons.2 ⟨fun S hS => stopFrom_lt_start (Nat.succ_pos i) hS, ih⟩
  | case3 i _ ls ih => exact ih
  | case4 i _ ls ih => exact ih
  | case5 i _ _ ls ih => exact ih

theorem mem_spansFrom_of_header (i : Nat) (h : ls[k]? = some (line, .header opened)) :
    ⟨trim line, opened, i + k, stopFrom (i + k + 1) (ls.drop (k + 1))⟩ ∈ spansFrom i ls := by
  induction ls generalizing i k with
  | nil => cases h
  | cons x ls ih =>
    cases k with
    | zero =>
      cases Option.some.inj h
      exact List.mem_cons_self
    | succ k =>
      have hrest := ih (i + 1) h
      rw [Nat.add_right_comm i 1 k] at hrest
      obtain ⟨line', scanned⟩ := x
      cases scanned with
      | header opened' => exact List.mem_cons_of_mem _ hrest
      | sectionEnd | skipped | content current => exact hrest

theorem exists_of_mem_spansFrom (h : S ∈ spansFrom i xs) :
    ∃ k line opened, xs[k]? = some (line, .header opened) ∧
      S = ⟨trim line, opened, i + k, stopFrom (i + k + 1) (xs.drop (k + 1))⟩ := by
  induction xs generalizing i with
  | nil => cases h
  | cons x xs ih =>
    have hlater : S ∈ spansFrom (i + 1) xs → ∃ k line opened,
        (x :: xs)[k]? = some (line, .header opened) ∧
          S = ⟨trim line, opened, i + k, stopFrom (i + k + 1) ((x :: xs).drop (k + 1))⟩ := by
      intro hS
      obtain ⟨k, line, opened, hx, he⟩ := ih hS
      rw [Nat.add_right_comm i 1 k] at he
      exact ⟨k + 1, line, opened, hx, he⟩
    obtain ⟨line, scanned⟩ := x
    cases scanned with
    | header opened =>
      rcases List.mem_cons.1 h with rfl | h
      · exact ⟨0, line, opened, rfl, rfl⟩
      · exact hlater h
    | sectionEnd | skipped | content => exact hlater h

/-- Whether a line is within a section, its first and last line included. -/
def Span.covers (S : Span) (i : Nat) : Bool :=
  S.start ≤ i && i ≤ S.stop

/-- Sections that follow one another share no line. -/
theorem filter_covers_eq_singleton {l : List Span} (h : l.Pairwise (·.stop < ·.start))
    (hS : S ∈ l) (hi : S.covers i) : l.filter (·.covers i) = [S] := by
  simp only [Span.covers, Bool.and_eq_true, decide_eq_true_eq] at hi
  induction l with
  | nil => cases hS
  | cons T l ih =>
    obtain ⟨hT, hl⟩ := List.pairwise_cons.1 h
    rcases List.mem_cons.1 hS with rfl | hS
    · have hrest : l.filter (·.covers i) = [] := by
        refine List.filter_eq_nil_iff.2 fun U hU => ?_
        have hlt := hT U hU
        simp only [Span.covers, Bool.and_eq_true, decide_eq_true_eq]
        omega
      rw [List.filter_cons_of_pos (by simpa [Span.covers] using hi), hrest]
    · have hlt := hT S hS
      rw [List.filter_cons_of_neg (by simp [Span.covers]; omega)]
      exact ih hl hS

end SolverInput
