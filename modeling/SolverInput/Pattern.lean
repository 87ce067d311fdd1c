import SolverInput.Pattern.CharSet

namespace SolverInput

structure Place where
  /-- The number of characters before. -/
  index : Nat
  last : Option Char
  rest : Text

namespace Place

def advance? (set : CharSet) (p : Place) : Option Place :=
  match p.rest with
  | [] => none
  | c :: rest => if set.contains c then some ⟨p.index + 1, some c, rest⟩ else none

def onward (index : Nat) (last : Option Char) : Text → List Place
  | [] => [⟨index, last, []⟩]
  | c :: rest => ⟨index, last, c :: rest⟩ :: onward (index + 1) (some c) rest

def all (s : Text) : List Place :=
  onward 0 none s

def without (old new : List Place) : List Place :=
  new.filter fun p => !old.any (·.index == p.index)

def merge (a b : List Place) : List Place :=
  a ++ without a b

/-- More steps than can lead from one of the places to another one. -/
def room (places : List Place) : Nat :=
  (places.map (·.rest.length)).foldl max 0 + 1

/-- The places that exactly `n` steps lead to. -/
def times (step : List Place → List Place) : Nat → List Place → List Place
  | 0, places => places
  | n + 1, places => if places.isEmpty then [] else times step n (step places)

/-- The places that up to `n` more steps lead to, if `seen` were reached before and the newest of
them are `newest`. -/
def upTo (step : List Place → List Place) : Nat → List Place → List Place → List Place
  | 0, seen, _ => seen
  | n + 1, seen, newest =>
    let next := without seen (step newest)
    if next.isEmpty then seen else upTo step n (seen ++ next) next

end Place

/-- A condition on a place, which takes no character. The edges of words are told by the set of the
characters that words have. -/
inductive Anchor where
  | start
  | finish
  | lineStart
  | lineEnd
  /-- The start of a line, where a carriage return, a line feed or both end lines. -/
  | anyLineStart
  | anyLineEnd
  | wordEdge (word : CharSet)
  | noWordEdge (word : CharSet)
  | wordStart (word : CharSet)
  | wordEnd (word : CharSet)
  /-- No word before. -/
  | wordStartHalf (word : CharSet)
  /-- No word after. -/
  | wordEndHalf (word : CharSet)
  deriving DecidableEq

def Anchor.holds (p : Place) : Anchor → Bool
  | start => p.last.isNone
  | finish => p.rest.isEmpty
  | lineStart => p.last.isNone || p.last == some '\n'
  | lineEnd => p.rest.isEmpty || p.rest.head? == some '\n'
  | anyLineStart =>
    p.last.isNone || p.last == some '\n' || (p.last == some '\r' && p.rest.head? != some '\n')
  | anyLineEnd =>
    p.rest.isEmpty || p.rest.head? == some '\r' ||
      (p.rest.head? == some '\n' && p.last != some '\r')
  | wordEdge word => p.last.any word.contains != p.rest.head?.any word.contains
  | noWordEdge word => p.last.any word.contains == p.rest.head?.any word.contains
  | wordStart word => !p.last.any word.contains && p.rest.head?.any word.contains
  | wordEnd word => p.last.any word.contains && !p.rest.head?.any word.contains
  | wordStartHalf word => !p.last.any word.contains
  | wordEndHalf word => !p.rest.head?.any word.contains

inductive Pattern where
  | empty
  | one (set : CharSet)
  | anchor (a : Anchor)
  /-- A pattern in parentheses that count as a group. -/
  | group (p : Pattern)
  | seq (p q : Pattern)
  | alt (p q : Pattern)
  /-- A pattern at least `least` times and at most `most` times, if there is such a limit. It is
  tried as often as possible first, or if it is lazy as rarely as possible. -/
  | repeated (p : Pattern) (least : Nat) (most : Option Nat) (isLazy : Bool)
  deriving DecidableEq

namespace Pattern

/-- The places where a pattern can end that begins at one of the given places. -/
def ends : Pattern → List Place → List Place
  | empty, places => places
  | one set, places => places.filterMap (·.advance? set)
  | anchor a, places => places.filter (a.holds ·)
  | group p, places => p.ends places
  | seq p q, places => q.ends (p.ends places)
  | alt p q, places => Place.merge (p.ends places) (q.ends places)
  | repeated p least most _, places =>
    let room := Place.room places
    let first := Place.times p.ends (min least room) places
    Place.upTo p.ends ((most.map (· - least)).getD room) first first

def occursIn (p : Pattern) (s : Text) : Bool :=
  !(p.ends (Place.all s)).isEmpty

/-- Whether a pattern can only fit the empty text. -/
def isWidthless : Pattern → Bool
  | empty => true
  | one _ => false
  | anchor _ => true
  | group p => p.isWidthless
  | seq p q => p.isWidthless && q.isWidthless
  | alt p q => p.isWidthless && q.isWidthless
  | repeated p _ most _ => p.isWidthless || most == some 0

/-- The memory in bytes that a pattern takes when its repetitions are written out, about. -/
def size : Pattern → Nat
  | empty => 32
  | one set => set.size
  | anchor _ => 32
  | group p => p.size + 64
  | seq p q => p.size + q.size
  | alt p q => p.size + q.size + 72
  | repeated p least most _ =>
    if p.isWidthless then p.size + 72
    else match most with
      | some most => least * p.size + (most - least) * (p.size + 40) + 32
      | none => max least 1 * p.size + 72

def sizeLimit : Nat :=
  10 * 1024 * 1024

def sequence : List Pattern → Pattern
  | [] => .empty
  | [p] => p
  | p :: ps => .seq p (sequence ps)

def choice : List Pattern → Pattern
  | [] => .empty
  | [p] => p
  | p :: ps => .alt p (choice ps)

end Pattern

end SolverInput
