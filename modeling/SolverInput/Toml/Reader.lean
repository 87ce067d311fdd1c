import SolverInput.Toml.Items
import SolverInput.Toml.Scalar
import SolverInput.Toml.Token

namespace SolverInput.Toml

inductive KeyPart where
  | name (s : Text)
  | dot

def keyParts : Token → List KeyPart
  | .text s false => [.name s]
  | .bare run =>
    ((run.splitOnP (· == '.')).map fun s => if s.isEmpty then [] else [.name s]).intersperse [.dot]
      |>.flatten
  | _ => []

def isKeyToken : Token → Bool
  | .text _ multiline => !multiline
  | .bare run => run.all fun c => c.isAlphanum || c == '_' || c == '-' || c == '.'
  | _ => false

def keyOfParts? : List KeyPart → Option (List Text)
  | [.name s] => some [s]
  | .name s :: .dot :: rest => (keyOfParts? rest).map (s :: ·)
  | _ => none

/-- At most this many arrays and inline tables stand inside one another, and a key has at most this
many names. -/
def maxDepth : Nat :=
  80

def readKey? (ts : List Token) : Option (List Text × List Token) := do
  let (own, rest) := ts.span isKeyToken
  let key ← keyOfParts? (own.flatMap keyParts)
  if key.length ≤ maxDepth then some (key, rest) else none

/-- A reader of values: gives the value and the tokens after it. -/
abbrev ValueReader := List Token → Option (Json × List Token)

def skipNewlines (ts : List Token) : List Token :=
  ts.dropWhile (· == .newline)

/-- The items of an array up to its closing bracket. A comma may follow the last. -/
def readItems? (value : ValueReader) : Nat → List Token → Option (List Json × List Token)
  | 0, _ => none
  | bound + 1, ts =>
    match skipNewlines ts with
    | .closeBracket _ :: rest => some ([], rest)
    | ts => do
      let (v, rest) ← value ts
      match skipNewlines rest with
      | .closeBracket _ :: rest => some ([v], rest)
      | .comma :: rest =>
        let (vs, rest) ← readItems? value bound rest
        some (v :: vs, rest)
      | _ => none

/-- The members of an inline table up to its closing brace. A comma may follow the last, and the
names of a key alone must stand on one line. -/
def readMembers? (value : ValueReader) : Nat → Entries → List Token → Option (Entries × List Token)
  | 0, _, _ => none
  | bound + 1, es, ts =>
    match skipNewlines ts with
    | .closeBrace :: rest => some (es, rest)
    | ts => do
      let (key, rest) ← readKey? ts
      match skipNewlines rest with
      | .equals :: rest =>
        let (v, rest) ← value (skipNewlines rest)
        let es ← es.assign key v
        match skipNewlines rest with
        | .closeBrace :: rest => some (es, rest)
        | .comma :: rest => readMembers? value bound es rest
        | _ => none
      | _ => none

/-- Reads a value in which arrays and inline tables stand at most `depth` deep. -/
def readValue? : Nat → ValueReader
  | _, .text s _ :: rest => some (.string s, rest)
  | _, .bare run :: rest => (scalar? run).map (·, rest)
  | depth + 1, .openBracket _ :: rest => do
    let (items, rest) ← readItems? (readValue? depth) (rest.length + 1) rest
    some (.array items, rest)
  | depth + 1, .openBrace :: rest => do
    let (es, rest) ← readMembers? (readValue? depth) (rest.length + 1) [] rest
    some (.object (membersOf es), rest)
  | _, _ => none

/-- Nothing more may stand on the line of a header or an assignment. -/
def endLine? : List Token → Option (List Token)
  | [] => some []
  | .newline :: rest => some rest
  | _ => none

def readStatement? (d : Draft) : List Token → Option (Draft × List Token)
  | .openBracket _ :: .openBracket true :: ts => do
    let (key, rest) ← readKey? ts
    match rest with
    | .closeBracket _ :: .closeBracket true :: rest =>
      some (← d.enter Entries.openElement key, ← endLine? rest)
    | _ => none
  | .openBracket _ :: ts => do
    let (key, rest) ← readKey? ts
    match rest with
    | .closeBracket _ :: rest => some (← d.enter Entries.openTable key, ← endLine? rest)
    | _ => none
  | ts => do
    let (key, rest) ← readKey? ts
    match rest with
    | .equals :: rest =>
      let (v, rest) ← readValue? maxDepth rest
      some (← d.assign key v, ← endLine? rest)
    | _ => none

def readStatements? : Nat → Draft → List Token → Option Draft
  | _, d, [] => some d
  | 0, _, _ => none
  | bound + 1, d, .newline :: ts => readStatements? bound d ts
  | bound + 1, d, ts => do
    let (d, rest) ← readStatement? d ts
    readStatements? bound d rest

/-- Reads a document as one object. Its dates, infinities and numbers become the values that stand
for them in a dictionary file. -/
def read? (s : Text) : Option Json := do
  let ts ← tokens? (dropMark s)
  let d ← readStatements? ts.length .start ts
  some (.object (membersOf d.entries))

end SolverInput.Toml
