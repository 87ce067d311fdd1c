import SolverInput.Text.LetterCase
import SolverInput.Text.Category

namespace SolverInput

inductive CharSet where
  | runs (rs : List CharRun)
  | union (a b : CharSet)
  | inter (a b : CharSet)
  | complement (a : CharSet)
  /-- The characters that differ in case only from one of the set. -/
  | caseless (a : CharSet)
  /-- The same for ASCII letters alone. -/
  | asciiCaseless (a : CharSet)
  deriving DecidableEq

namespace CharSet

def contains : CharSet → Char → Bool
  | runs rs, c => rs.any (·.contains c)
  | union a b, c => a.contains c || b.contains c
  | inter a b, c => a.contains c && b.contains c
  | complement a, c => !a.contains c
  | caseless a, c => (caseVariants c).any a.contains
  | asciiCaseless a, c => a.contains c || a.contains c.toLower || a.contains c.toUpper

def empty : CharSet :=
  .runs []

def span (first last : Char) : CharSet :=
  .runs [⟨first.toNat, last.toNat, 1⟩]

def single (c : Char) : CharSet :=
  .span c c

def any : CharSet :=
  .complement .empty

def diff (a b : CharSet) : CharSet :=
  .inter a (.complement b)

def symmDiff (a b : CharSet) : CharSet :=
  .union (a.diff b) (b.diff a)

def unions (sets : List CharSet) : CharSet :=
  sets.foldl .union .empty

/-- Whether all characters of the set are surely ASCII. -/
def isAscii : CharSet → Bool
  | runs rs => rs.all (·.last < 0x80)
  | union a b => a.isAscii && b.isAscii
  | inter a b => a.isAscii || b.isAscii
  | complement _ => false
  | caseless a => a.isAscii && !"ksKS".toList.any a.contains
  | asciiCaseless a => a.isAscii

/-- How many runs the set has, at most. -/
def runCount : CharSet → Nat
  | runs rs => (rs.map fun r => if r.step = 1 then 1 else (r.last - r.first) / r.step + 1).sum
  | union a b => a.runCount + b.runCount
  | inter a b => a.runCount + b.runCount
  | complement a => a.runCount + 1
  | caseless a => 2 * a.runCount
  | asciiCaseless a => 2 * a.runCount

/-- The memory in bytes that one place of this set takes in a pattern, about. -/
def size : CharSet → Nat
  | runs [⟨first, last, step⟩] =>
    if first = last then 32 * (Char.ofNat first).utf8Size
    else if last < 0x80 then 72
    else 300 + 30 * (runs [⟨first, last, step⟩]).runCount
  | a => if a.isAscii then 64 + 8 * a.runCount else 300 + 30 * a.runCount

end CharSet

end SolverInput
