import SolverInput.Pattern

namespace SolverInput

/-- A way in which a pattern fits. -/
structure Fit where
  /-- The characters that the pattern takes. -/
  taken : Text
  /-- What each group of the pattern takes, if it takes part. -/
  groups : List (Option Text)
  deriving DecidableEq

namespace Fit

/-- Two fits of patterns that stand one after the other. -/
def followedBy (f g : Fit) : Fit :=
  ⟨f.taken ++ g.taken, f.groups ++ g.groups⟩

/-- Two fits of the same pattern. A group keeps what it took last. -/
def repeatedBy (f g : Fit) : Fit :=
  ⟨f.taken ++ g.taken, f.groups.zipWith (fun old new => new.or old) g.groups⟩

/-- What the `n`th group takes. Groups are counted from one, by their opening parentheses. -/
def group? (f : Fit) (n : Nat) : Option Text :=
  f.groups[n - 1]?.join

end Fit

/-- The place behind some characters that begin here. -/
def Place.after (p : Place) (taken : Text) : Place :=
  ⟨p.index + taken.length, taken.getLast?.or p.last, p.rest.drop taken.length⟩

namespace Pattern

def groupCount : Pattern → Nat
  | empty => 0
  | one _ => 0
  | anchor _ => 0
  | group p => p.groupCount + 1
  | seq p q => p.groupCount + q.groupCount
  | alt p q => p.groupCount + q.groupCount
  | repeated p _ _ _ => p.groupCount

/-- The groups of a part that takes no part. -/
def noGroups (p : Pattern) : List (Option Text) :=
  List.replicate p.groupCount none

def prefer (isLazy : Bool) (stop goOn : List Fit) : List Fit :=
  if isLazy then stop ++ goOn else goOn ++ stop

/-- Fits of a repeated pattern, given those of the pattern. A round takes something unless it is the
first or one that must be, so as many rounds as characters and rounds that must be are enough. -/
def rounds (fits : Place → List Fit) (stop : Fit) (isLazy : Bool) :
    Nat → Bool → Nat → Option Nat → Place → List Fit
  | 0, _, _, _, _ => []
  | fuel + 1, isFirst, least, most, p =>
    let goOn := if least = 0 && most == some 0 then [] else
      (fits p).flatMap fun f =>
        if least = 0 && f.taken.isEmpty && !isFirst then []
        else (rounds fits stop isLazy fuel false (least - 1) (most.map (· - 1))
          (p.after f.taken)).map f.repeatedBy
    prefer isLazy (if least = 0 then [stop] else []) goOn

/-- The ways in which a pattern fits at a place, the preferred one first. -/
def fits : Pattern → Place → List Fit
  | empty, _ => [⟨[], []⟩]
  | one set, p => (p.rest.head?.filter set.contains).toList.map fun c => ⟨[c], []⟩
  | anchor a, p => if a.holds p then [⟨[], []⟩] else []
  | group q, p => (q.fits p).map fun f => ⟨f.taken, some f.taken :: f.groups⟩
  | seq q r, p => (q.fits p).flatMap fun f => (r.fits (p.after f.taken)).map f.followedBy
  | alt q r, p =>
    (q.fits p).map (fun f => ⟨f.taken, f.groups ++ r.noGroups⟩) ++
      (r.fits p).map fun f => ⟨f.taken, q.noGroups ++ f.groups⟩
  | repeated q least most isLazy, p =>
    rounds q.fits ⟨[], q.noGroups⟩ isLazy (least + p.rest.length + 2) true least most p

/-- The first fit in a text: of those that begin earliest the preferred one. -/
def captures? (p : Pattern) (s : Text) : Option Fit :=
  (Place.all s).findSome? fun place => (p.fits place).head?

end Pattern

end SolverInput
