import SolverInput.Finding
import SolverInput.Table

namespace SolverInput

def languageId : Text :=
  "elmer".toList

/-- A document as its editor hands it over. -/
structure Document where
  id : Text
  language : Text
  text : Text
  deriving DecidableEq

/-- The findings of the last check of each document. -/
abbrev FindingStore := Table (List Finding)

namespace FindingStore

/-- The findings of a document, none if it has not been checked. -/
def findings (store : FindingStore) (id : Text) : List Finding :=
  (store.get? id).getD []

/-- Checks a document and keeps the findings in place of its earlier ones. A document of another
language is left alone. -/
def validate (d : Dictionary) (doc : Document) (store : FindingStore) :
    Option (List Finding) × FindingStore :=
  if doc.language = languageId then
    let fs := d.findings doc.text
    (some fs, store.insert doc.id fs)
  else
    (none, store)

end FindingStore

end SolverInput
