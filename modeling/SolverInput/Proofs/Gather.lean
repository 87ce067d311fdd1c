import Mathlib.Data.List.Forall2
import SolverInput.Proofs.Exactness
import SolverInput.Proofs.Spans

namespace SolverInput
set_option autoImplicit true

/-- Lines, each with what it is when the section `current` is open before the first. -/
def scannedFrom (current : Option Section) (ls : List Text) : List (Text × ScannedLine) :=
  ls.zip (scan ls current).1

@[simp] theorem scannedFrom_cons (current : Option Section) (l : Text) (ls : List Text) :
    scannedFrom current (l :: ls) =
      (l, (scanLine l current).1) :: scannedFrom (scanLine l current).2 ls := by
  rw [scannedFrom, scan_cons]
  rfl

theorem scannedFrom_append (current : Option Section) (ls ms : List Text) :
    scannedFrom current (ls ++ ms) =
      scannedFrom current ls ++ scannedFrom (scan ls current).2 ms := by
  induction ls generalizing current with
  | nil => rfl
  | cons l ls ih => rw [List.cons_append, scannedFrom_cons, ih, scannedFrom_cons, scan_cons]; rfl

@[simp] theorem length_scannedFrom (current : Option Section) (ls : List Text) :
    (scannedFrom current ls).length = ls.length := by
  simp [scannedFrom]

/-- The role of a line is all that the scan sees of it. -/
theorem scanLine_congr (h : LineRole.ofLine l = LineRole.ofLine m) : scanLine l = scanLine m := by
  unfold scanLine
  rw [h]

/-- What `f` takes from each of these lines, the first of which is line `i`. -/
def gather (f : Nat → Text → ScannedLine → Option α) (i : Nat) (xs : List (Text × ScannedLine)) :
    List α :=
  (xs.zipIdx i).filterMap fun ((line, scanned), j) => f j line scanned

@[simp] theorem gather_cons (f : Nat → Text → ScannedLine → Option α) (i : Nat)
    (x : Text × ScannedLine) (xs : List (Text × ScannedLine)) :
    gather f i (x :: xs) = (f i x.1 x.2).toList ++ gather f (i + 1) xs := by
  obtain ⟨line, scanned⟩ := x
  rw [gather, List.zipIdx_cons, List.filterMap_cons]
  dsimp only
  cases f i line scanned <;> rfl

theorem gather_append (f : Nat → Text → ScannedLine → Option α) (i : Nat)
    (xs ys : List (Text × ScannedLine)) :
    gather f i (xs ++ ys) = gather f i xs ++ gather f (i + xs.length) ys := by
  rw [gather, List.zipIdx_append, List.filterMap_append]
  rfl

theorem forall₂_toList {Q : α → β → Prop} (h : Option.Rel Q a b) :
    List.Forall₂ Q a.toList b.toList := by
  cases h with
  | some h => exact .cons h .nil
  | none => exact .nil

/-- What two functions take from lines that are alike is alike. -/
theorem forall₂_gather {P : Text × ScannedLine → Text × ScannedLine → Prop} {Q : α → β → Prop}
    (h : List.Forall₂ P xs ys)
    (hf : ∀ i x y, P x y → Option.Rel Q (f i x.1 x.2) (g i y.1 y.2)) (i : Nat) :
    List.Forall₂ Q (gather f i xs) (gather g i ys) := by
  induction h generalizing i with
  | nil => exact .nil
  | cons hxy _ ih =>
    rw [gather_cons, gather_cons]
    exact List.rel_append (forall₂_toList (hf i _ _ hxy)) (ih (i + 1))

/-- A finding is made of the token alone, and the keyword of the token decides whether there is
one. -/
theorem Dictionary.finding?_rel {T : Token → Token → Prop} {Q : Finding → Finding → Prop}
    (d : Dictionary) (s : Section) (h : Option.Rel T (Token.ofLine? l) (Token.ofLine? m))
    (hk : ∀ t u, T t u → t.keyword = u.keyword)
    (hq : ∀ t u, T t u → Q (.unknownKeyword i t s) (.unknownKeyword j u s)) :
    Option.Rel Q (d.finding? i l s) (d.finding? j m s) := by
  unfold finding?
  split
  · exact .none
  · generalize Token.ofLine? l = a at h
    generalize Token.ofLine? m = b at h
    cases h with
    | none => exact .none
    | @some t u h =>
      dsimp only
      rw [hk t u h]
      split
      · exact .none
      · exact .some (hq t u h)

theorem Dictionary.findings_eq_gather (d : Dictionary) (text : Text) :
    d.findings text = gather d.findingAt? 0 (scannedFrom none (lines (dropMark text))) :=
  rfl

/-- What the outline tells of a header: its text, the section that it opens and its line. -/
structure Heading where
  title : Text
  kind : Option Section
  start : Nat

def headingAt? (i : Nat) (line : Text) : ScannedLine → Option Heading
  | .header opened => some ⟨trim line, opened, i⟩
  | _ => none

def Span.heading (S : Span) : Heading :=
  ⟨S.title, S.kind, S.start⟩

theorem map_heading_spansFrom (i : Nat) (xs : List (Text × ScannedLine)) :
    (spansFrom i xs).map Span.heading = gather headingAt? i xs := by
  fun_induction spansFrom i xs with
  | case1 => rfl
  | case2 i line opened ls ih => rw [gather_cons, List.map_cons, ih]; rfl
  | case3 i line ls ih => rw [gather_cons, ih]; rfl
  | case4 i line ls ih => rw [gather_cons, ih]; rfl
  | case5 i line current ls ih => rw [gather_cons, ih]; rfl

theorem map_heading_outline (text : Text) :
    (outline text).map Span.heading =
      gather headingAt? 0 (scannedFrom none (lines (dropMark text))) := by
  rw [outline_eq_spansFrom, map_heading_spansFrom]
  rfl

end SolverInput
