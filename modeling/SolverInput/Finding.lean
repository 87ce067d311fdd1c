import SolverInput.Dictionary
import SolverInput.Scan

namespace SolverInput

/-- A warning about one place of a document. Lines and columns count from zero, columns in
characters. -/
structure Finding where
  line : Nat
  start : Nat
  stop : Nat
  message : Text
  deriving DecidableEq

/-- Every finding is a warning. -/
def Finding.severity : Text :=
  "warning".toList

/-- Every finding names the language as its source. -/
def Finding.source : Text :=
  "elmer".toList

def Finding.unknownKeyword (line : Nat) (t : Token) (s : Section) : Finding where
  line := line
  start := t.start
  stop := t.stop
  message := "Unknown keyword \"".toList ++ t.raw ++ "\" in ".toList ++
    s.id.map Char.toUpper ++ " section".toList

/-- Keywords that every section has, whatever the dictionary lists. -/
def isCommonKeyword (keyword : Text) : Bool :=
  keyword == "name".toList || keyword == "end".toList

namespace Dictionary

/-- Checks the keyword of one line. Sections that the dictionary does not list are not checked. -/
def finding? (d : Dictionary) (i : Nat) (line : Text) (s : Section) : Option Finding :=
  if (d.keywords? s.id).isNone then none
  else match Token.ofLine? line with
    | none => none
    | some t =>
      if isCommonKeyword t.keyword || d.knows s t.keyword then none
      else some (.unknownKeyword i t s)

/-- Only lines of content in an open section are checked. -/
def findingAt? (d : Dictionary) (i : Nat) (line : Text) : ScannedLine → Option Finding
  | .content (some s) => d.finding? i line s
  | _ => none

/-- The findings of a whole document, in the order of its lines. -/
def findings (d : Dictionary) (text : Text) : List Finding :=
  (scannedLines text).zipIdx.filterMap fun ((line, scanned), i) => d.findingAt? i line scanned

end Dictionary

end SolverInput
