import SolverInput.Json
import SolverInput.Table

namespace SolverInput.Toml

/-- How a table came to be, which says what may still be added to it. -/
inductive Origin where
  /-- By a header that names a table within it. -/
  | implied
  /-- By a dotted key, or by a header at first and entered by a dotted key later. -/
  | dotted
  /-- By a header of its own. -/
  | headed
  deriving DecidableEq

/-- What a key holds while a document is being read. -/
inductive Item where
  /-- A finished value; inline tables and arrays are finished at once. -/
  | value (v : Json)
  | table (origin : Origin) (entries : List (Text × Item))
  /-- The tables under one header in double brackets, the last of them still open. -/
  | tables (earlier : List (List (Text × Item))) (last : List (Text × Item))

abbrev Entries := List (Text × Item)

mutual

def Item.toJson : Item → Json
  | .value v => v
  | .table _ es => .object (membersOf es)
  | .tables earlier last => .array (objectsOf earlier ++ [.object (membersOf last)])

def membersOf : List (Text × Item) → List (Text × Json)
  | [] => []
  | (k, i) :: es => (k, i.toJson) :: membersOf es

def objectsOf : List (List (Text × Item)) → List Json
  | [] => []
  | es :: rest => .object (membersOf es) :: objectsOf rest

end

namespace Entries

def replace (k : Text) (i : Item) (es : Entries) : Entries :=
  es.map fun e => if e.1 = k then (k, i) else e

def append (k : Text) (i : Item) (es : Entries) : Entries :=
  es ++ [(k, i)]

/-- Gives a key, the last of a dotted path, its value. The path leads through tables that have no
header of their own, and makes them tables of dotted keys. Of several tables under one header it
may pass the last, but adds nothing to it directly. -/
def assign : List Text → Json → Entries → Option Entries
  | [], _, _ => none
  | [k], v, es =>
    match Table.find k es with
    | none => some (append k (.value v) es)
    | some _ => none
  | k :: k' :: path, v, es =>
    match Table.find k es with
    | none =>
      (assign (k' :: path) v []).map fun sub => append k (.table .dotted sub) es
    | some (.table .headed _) => none
    | some (.table _ sub) =>
      (assign (k' :: path) v sub).map fun sub => replace k (.table .dotted sub) es
    | some (.tables earlier last) =>
      if path.isEmpty then none
      else (assign (k' :: path) v last).map fun last => replace k (.tables earlier last) es
    | some (.value _) => none

/-- Changes the table at a path of headers, making the tables on the way as needed. Of several
tables under one header the last is meant. -/
def within (f : Entries → Option Entries) : List Text → Entries → Option Entries
  | [], es => f es
  | k :: path, es =>
    match Table.find k es with
    | none => (within f path []).map fun sub => append k (.table .implied sub) es
    | some (.table o sub) => (within f path sub).map fun sub => replace k (.table o sub) es
    | some (.tables earlier last) =>
      (within f path last).map fun last => replace k (.tables earlier last) es
    | some (.value _) => none

/-- Opens the table of a header. A table that was only implied may be opened, any other not
again. -/
def openTable (k : Text) (es : Entries) : Option Entries :=
  match Table.find k es with
  | none => some (append k (.table .headed []) es)
  | some (.table .implied sub) => some (replace k (.table .headed sub) es)
  | some _ => none

def openElement (k : Text) (es : Entries) : Option Entries :=
  match Table.find k es with
  | none => some (append k (.tables [] []) es)
  | some (.tables earlier last) => some (replace k (.tables (earlier ++ [last]) []) es)
  | some _ => none

end Entries

structure Draft where
  entries : Entries
  /-- The header under which keys are assigned. -/
  header : List Text

namespace Draft

def start : Draft :=
  ⟨[], []⟩

def assign (d : Draft) (path : List Text) (v : Json) : Option Draft :=
  (Entries.within (Entries.assign path v) d.header d.entries).map fun es => { d with entries := es }

/-- Reads a header, whose last name `f` opens. -/
def enter (d : Draft) (f : Text → Entries → Option Entries) (path : List Text) : Option Draft := do
  let k ← path.getLast?
  let es ← Entries.within (f k) path.dropLast d.entries
  some ⟨es, path⟩

end Draft

end SolverInput.Toml
