import SolverInput.Line
import SolverInput.Text

namespace SolverInput

/-- A line together with the section that is open around it. -/
inductive ScannedLine where
  | skipped
  /-- A header, with the section that it opens, if it opens one. -/
  | header (opened : Option Section)
  | sectionEnd
  | content (current : Option Section)
  deriving DecidableEq

/-- Follows the open section over one line. A header replaces the open section and `end` closes
it. -/
def scanLine (line : Text) : StateM (Option Section) ScannedLine := fun current =>
  match LineRole.ofLine line with
  | .blank => (.skipped, current)
  | .comment => (.skipped, current)
  | .header h => (.header h.section?, h.section?)
  | .sectionEnd => (.sectionEnd, none)
  | .content => (.content current, current)

def scan (ls : List Text) : StateM (Option Section) (List ScannedLine) :=
  ls.mapM scanLine

/-- The lines of a document, each with what it is there. No section is open at first. -/
def scannedLines (text : Text) : List (Text × ScannedLine) :=
  let ls := lines (dropMark text)
  ls.zip (scan ls none).1

@[simp] theorem scan_nil (current : Option Section) : scan [] current = ([], current) :=
  rfl

@[simp] theorem scan_cons (l : Text) (ls : List Text) (current : Option Section) :
    scan (l :: ls) current =
      ((scanLine l current).1 :: (scan ls (scanLine l current).2).1,
        (scan ls (scanLine l current).2).2) := by
  simp only [scan, List.mapM_cons]
  rfl

@[simp] theorem length_scan (ls : List Text) (current : Option Section) :
    (scan ls current).1.length = ls.length := by
  induction ls generalizing current with
  | nil => rfl
  | cons l ls ih => simp [ih]

end SolverInput
