import SolverInput.Finding
import SolverInput.Json.Writer

namespace SolverInput

structure Report where
  path : Text
  findings : List Finding
  deriving DecidableEq

inductive ReportFormat where
  | text
  | json
  deriving DecidableEq, Repr

namespace Report

/-- One line a finding; its line and column count from one here. -/
def findingLine (path : Text) (f : Finding) : Text :=
  path ++ ':' :: Nat.toDigits 10 (f.line + 1) ++ ':' :: Nat.toDigits 10 (f.start + 1) ++
    ": ".toList ++ Finding.severity ++ ": ".toList ++ f.message ++ ['\n']

def findingRecord (path : Text) (f : Finding) : Json :=
  .object
    [("path".toList, .string path),
      ("line".toList, .ofNat f.line),
      ("start_column".toList, .ofNat f.start),
      ("end_column".toList, .ofNat f.stop),
      ("message".toList, .string f.message),
      ("severity".toList, .string Finding.severity),
      ("source".toList, .string Finding.source)]

def toText (r : Report) : Text :=
  r.findings.flatMap (findingLine r.path)

def toRecords (r : Report) : List Json :=
  r.findings.map (findingRecord r.path)

end Report

def ReportFormat.render (f : ReportFormat) (rs : List Report) : Text :=
  match f with
  | .text => rs.flatMap (·.toText)
  | .json => Json.write .indented (.array (rs.flatMap (·.toRecords))) ++ ['\n']

end SolverInput
