import SolverInput.Proofs.Gather
import SolverInput.Proofs.Lines

namespace SolverInput
set_option autoImplicit true

structure Token.Like (E : Text → Text → Prop) (t u : Token) : Prop where
  raw : E t.raw u.raw
  start : t.start = u.start

/-- The findings are at one place and quote keywords that `E` relates. -/
structure Finding.Like (E : Text → Text → Prop) (f g : Finding) : Prop where
  line : f.line = g.line
  start : f.start = g.start
  stop : f.stop = g.stop
  message : ∃ (k l : Text) (s : Section), E k l ∧
    f.message = "Unknown keyword \"".toList ++ k ++ "\" in ".toList ++
      s.id.map Char.toUpper ++ " section".toList ∧
    g.message = "Unknown keyword \"".toList ++ l ++ "\" in ".toList ++
      s.id.map Char.toUpper ++ " section".toList

structure Span.Like (E : Text → Text → Prop) (S T : Span) : Prop where
  title : E S.title T.title
  kind : S.kind = T.kind
  start : S.start = T.start
  stop : S.stop = T.stop

/-- Lines that `R` relates differ in nothing but how keywords and titles are written, and there as
`E` allows. What is done to a text on the way to its lines keeps them related. -/
structure Likeness (E R : Text → Text → Prop) : Prop where
  keyword : ∀ {k l}, E k l → k.length = l.length ∧ normalize k = normalize l
  role : ∀ {l m}, R l m → LineRole.ofLine l = LineRole.ofLine m
  title : ∀ {l m h}, R l m → LineRole.ofLine l = .header h → E (trim l) (trim m)
  token : ∀ {l m}, R l m → Option.Rel (Token.Like E) (Token.ofLine? l) (Token.ofLine? m)
  without_mark : ∀ {l m}, R l m → R (dropMark l) (dropMark m)
  without_return : ∀ {l m}, R l m → R (dropReturn l) (dropReturn m)
  nil_iff : ∀ {l m}, R l m → (l = [] ↔ m = [])

/-- Lines that are alike and are the same to the scan. -/
structure ScannedLike (E R : Text → Text → Prop) (x y : Text × ScannedLine) : Prop where
  line : R x.1 y.1
  scanned : x.2 = y.2
  title : ∀ opened, x.2 = .header opened → E (trim x.1) (trim y.1)

theorem stopFrom_eq_of_like (h : List.Forall₂ (ScannedLike E R) xs ys) (i : Nat) :
    stopFrom i xs = stopFrom i ys := by
  induction h generalizing i with
  | nil => rfl
  | @cons x y xs ys hxy _ ih =>
    obtain ⟨l, scanned⟩ := x
    obtain ⟨m, scanned'⟩ := y
    obtain rfl : scanned = scanned' := hxy.scanned
    cases scanned with
    | header | sectionEnd => rfl
    | skipped | content => exact ih (i + 1)

theorem forall₂_spansFrom (h : List.Forall₂ (ScannedLike E R) xs ys) (i : Nat) :
    List.Forall₂ (Span.Like E) (spansFrom i xs) (spansFrom i ys) := by
  induction h generalizing i with
  | nil => exact .nil
  | @cons x y xs ys hxy hrest ih =>
    obtain ⟨l, scanned⟩ := x
    obtain ⟨m, scanned'⟩ := y
    obtain rfl : scanned = scanned' := hxy.scanned
    cases scanned with
    | header opened =>
      have hstop := stopFrom_eq_of_like hrest (i + 1)
      exact .cons ⟨hxy.title opened rfl, rfl, rfl, hstop⟩ (ih (i + 1))
    | sectionEnd | skipped | content => exact ih (i + 1)

namespace Likeness
variable {E R : Text → Text → Prop} (hR : Likeness E R)
include hR

theorem forall₂_modifyHead (h : List.Forall₂ R ls ms) :
    List.Forall₂ R (ls.modifyHead dropMark) (ms.modifyHead dropMark) := by
  cases h with
  | nil => exact .nil
  | cons hl h => exact .cons (hR.without_mark hl) h

theorem forall₂_endLines (h : List.Forall₂ R ls ms) :
    List.Forall₂ R (endLines ls) (endLines ms) := by
  induction h with
  | nil => exact .nil
  | @cons l m ls ms hl h ih =>
    cases h with
    | nil =>
      have hnil := hR.nil_iff hl
      simp only [endLines, hnil]
      split
      · exact .nil
      · exact .cons hl .nil
    | cons => exact .cons (hR.without_return hl) ih

theorem forall₂_lines (h : List.Forall₂ R (rawLines s) (rawLines t)) :
    List.Forall₂ R (lines (dropMark s)) (lines (dropMark t)) := by
  rw [lines_eq_endLines, lines_eq_endLines, rawLines_dropMark, rawLines_dropMark]
  apply hR.forall₂_endLines
  exact hR.forall₂_modifyHead h

theorem forall₂_scannedFrom (h : List.Forall₂ R ls ms) (current : Option Section) :
    List.Forall₂ (ScannedLike E R) (scannedFrom current ls) (scannedFrom current ms) := by
  induction h generalizing current with
  | nil => exact .nil
  | @cons l m ls ms hl _ ih =>
    have hscan := scanLine_congr (hR.role hl)
    rw [scannedFrom_cons, scannedFrom_cons, ← hscan]
    refine .cons ⟨hl, rfl, ?_⟩ (ih _)
    intro opened hopened
    obtain ⟨hd, hrole, _⟩ := scanLine_eq_header_iff.1 hopened
    exact hR.title hl hrole

theorem unknownKeyword_like (h : Token.Like E t u) (i : Nat) (s : Section) :
    Finding.Like E (.unknownKeyword i t s) (.unknownKeyword i u s) := by
  have hlen := (hR.keyword h.raw).1
  have hstop : t.stop = u.stop := by
    rw [Token.stop, Token.stop, h.start, hlen]
  exact ⟨rfl, h.start, hstop, t.raw, u.raw, s, h.raw, rfl, rfl⟩

theorem findingAt?_like (d : Dictionary) (i : Nat) (h : ScannedLike E R x y) :
    Option.Rel (Finding.Like E) (d.findingAt? i x.1 x.2) (d.findingAt? i y.1 y.2) := by
  rw [← h.scanned]
  unfold Dictionary.findingAt?
  split
  · rename_i s _
    apply d.finding?_rel s (hR.token h.line)
    · intro t u ht
      exact (hR.keyword ht.raw).2
    · intro t u ht
      exact hR.unknownKeyword_like ht i s
  · exact .none

/-- Documents whose lines are alike have like findings. -/
theorem findings (d : Dictionary) (h : List.Forall₂ R (rawLines s) (rawLines t)) :
    List.Forall₂ (Finding.Like E) (d.findings s) (d.findings t) := by
  have hlines := hR.forall₂_scannedFrom (hR.forall₂_lines h) none
  exact forall₂_gather hlines (fun i _ _ => hR.findingAt?_like d i) 0

/-- Documents whose lines are alike have like outlines. -/
theorem outline (h : List.Forall₂ R (rawLines s) (rawLines t)) :
    List.Forall₂ (Span.Like E) (outline s) (outline t) := by
  rw [outline_eq_spansFrom, outline_eq_spansFrom]
  exact forall₂_spansFrom (hR.forall₂_scannedFrom (hR.forall₂_lines h) none) 0

end Likeness

end SolverInput
