import SolverInput.Scan

namespace SolverInput

/-- The lines from a header to the end of its section. -/
structure Span where
  /-- The header as written, without blanks around it. -/
  title : Text
  kind : Option Section
  start : Nat
  /-- The last line: the `end` line if there is one. -/
  stop : Nat
  deriving DecidableEq

structure OutlineDraft where
  /-- The spans that have ended, the last one first. -/
  ended : List Span
  /-- The span that has begun, its last line still to be found. -/
  pending : Option Span

namespace OutlineDraft

def close (o : OutlineDraft) (stop : Span → Nat) : OutlineDraft :=
  match o.pending with
  | none => o
  | some s => ⟨{ s with stop := stop s } :: o.ended, none⟩

/-- A span ends at its `end` line, or on the line before the next header, but not before it
begins. -/
def step (o : OutlineDraft) : (Text × ScannedLine) × Nat → OutlineDraft
  | ((line, .header opened), i) =>
    { o.close fun s => max (i - 1) s.start with pending := some ⟨trim line, opened, i, i⟩ }
  | ((_, .sectionEnd), i) => o.close fun _ => i
  | _ => o

end OutlineDraft

/-- The sections of a document. One that is still open at the end of the document reaches to its
last line. -/
def outline (text : Text) : List Span :=
  let ls := scannedLines text
  let o := ls.zipIdx.foldl OutlineDraft.step ⟨[], none⟩
  (o.close fun _ => ls.length - 1).ended.reverse

end SolverInput
