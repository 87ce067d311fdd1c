import SolverInput.Json.Numeral

namespace SolverInput.Json

/-- An array or object of which one value is being read; what came before stands in reverse. -/
inductive Frame where
  | array (done : List Json)
  | object (done : List (Text × Json)) (key : Text)

/-- What may come next. -/
inductive Awaiting where
  | value
  /-- Just after an opening bracket. -/
  | firstItem
  /-- Just after an opening brace. -/
  | firstMember
  | member (done : List (Text × Json))
  | colon (done : List (Text × Json)) (key : Text)
  /-- After a value that is complete. -/
  | separator (v : Json)

inductive Token where
  | openBracket
  | closeBracket
  | openBrace
  | closeBrace
  | colon
  | comma
  | scalar (v : Json)

/-- How far the structure of a text has been read. -/
structure Progress where
  awaiting : Awaiting
  /-- The arrays and objects around the place, the innermost first. -/
  frames : List Frame

namespace Progress

def start : Progress :=
  ⟨.value, []⟩

/-- At most this many arrays and objects stand inside one another. -/
def maxDepth : Nat :=
  127

/-- Takes the first token of a value. -/
def beginValue (frames : List Frame) : Token → Option Progress
  | .scalar v => some ⟨.separator v, frames⟩
  | .openBracket => if frames.length < maxDepth then some ⟨.firstItem, frames⟩ else none
  | .openBrace => if frames.length < maxDepth then some ⟨.firstMember, frames⟩ else none
  | _ => none

def step (p : Progress) (t : Token) : Option Progress :=
  match p.awaiting, t, p.frames with
  | .value, t, frames => beginValue frames t
  | .firstItem, .closeBracket, frames => some ⟨.separator (.array []), frames⟩
  | .firstItem, t, frames => beginValue (.array [] :: frames) t
  | .firstMember, .closeBrace, frames => some ⟨.separator (.object []), frames⟩
  | .firstMember, .scalar (.string k), frames => some ⟨.colon [] k, frames⟩
  | .member done, .scalar (.string k), frames => some ⟨.colon done k, frames⟩
  | .colon done k, .colon, frames => some ⟨.value, .object done k :: frames⟩
  | .separator v, .comma, .array done :: frames => some ⟨.value, .array (v :: done) :: frames⟩
  | .separator v, .comma, .object done k :: frames => some ⟨.member ((k, v) :: done), frames⟩
  | .separator v, .closeBracket, .array done :: frames =>
    some ⟨.separator (.array (v :: done).reverse), frames⟩
  | .separator v, .closeBrace, .object done k :: frames =>
    some ⟨.separator (.object ((k, v) :: done).reverse), frames⟩
  | _, _, _ => none

def result? : Progress → Option Json
  | ⟨.separator v, []⟩ => some v
  | _ => none

end Progress

/-- Where in a token the reader stands. Texts are gathered in reverse. -/
inductive Mode where
  | between
  /-- In a number or in one of the three names. -/
  | word (done : Text)
  | quoted (done : Text)
  | escaped (done : Text)
  /-- In the four digits of an escape, after the first half of a surrogate pair if there is one. -/
  | unit (done : Text) (high : Option Nat) (count value : Nat)
  /-- After the first half of a surrogate pair: a backslash must follow. -/
  | pairSlash (done : Text) (high : Nat)
  | pairLetter (done : Text) (high : Nat)

/-- The state of a reader between two characters. -/
structure Reading where
  mode : Mode
  progress : Progress

namespace Reading

def start : Reading :=
  ⟨.between, .start⟩

/-- A number, or the name of a constant. -/
def scalarOfWord? (w : Text) : Option Json :=
  if w = "null".toList then some .null
  else if w = "true".toList then some (.bool true)
  else if w = "false".toList then some (.bool false)
  else ((Numeral.ofText? w).bind Number.ofNumeral?).map .number

def isWordChar (c : Char) : Bool :=
  c.isAlphanum || c == '+' || c == '-' || c == '.'

def isSpace (c : Char) : Bool :=
  c == ' ' || c == '\t' || c == '\n' || c == '\r'

def take (p : Progress) (t : Token) : Option Reading :=
  (p.step t).map (⟨.between, ·⟩)

/-- Reads a character outside all tokens. -/
def stepBetween (p : Progress) (c : Char) : Option Reading :=
  if isSpace c then some ⟨.between, p⟩
  else if isWordChar c then some ⟨.word [c], p⟩
  else match c with
    | '"' => some ⟨.quoted [], p⟩
    | '[' => take p .openBracket
    | ']' => take p .closeBracket
    | '\x7b' => take p .openBrace
    | '\x7d' => take p .closeBrace
    | ':' => take p .colon
    | ',' => take p .comma
    | _ => none

def endWord (p : Progress) (done : Text) : Option Progress := do
  p.step (.scalar (← scalarOfWord? done.reverse))

/-- The character that follows a backslash, for those that stand for one character. -/
def unescape? : Char → Option Char
  | '"' => some '"'
  | '\\' => some '\\'
  | '/' => some '/'
  | 'b' => some '\x08'
  | 'f' => some '\x0c'
  | 'n' => some '\n'
  | 'r' => some '\r'
  | 't' => some '\t'
  | _ => none

/-- A complete UTF-16 code unit. The two halves of a surrogate pair must stand together. -/
def endUnit (done : Text) (high : Option Nat) (unit : Nat) : Option Mode :=
  let isHigh := 0xd800 ≤ unit && unit < 0xdc00
  let isLow := 0xdc00 ≤ unit && unit < 0xe000
  match high with
  | some h =>
    if isLow then
      some (.quoted (Char.ofNat (0x10000 + (h - 0xd800) * 0x400 + (unit - 0xdc00)) :: done))
    else none
  | none =>
    if isHigh then some (.pairSlash done unit)
    else if isLow then none
    else some (.quoted (Char.ofNat unit :: done))

def step (r : Reading) (c : Char) : Option Reading :=
  let p := r.progress
  match r.mode with
  | .between => stepBetween p c
  | .word done =>
    if isWordChar c then some ⟨.word (c :: done), p⟩
    else (endWord p done).bind (stepBetween · c)
  | .quoted done =>
    if c = '"' then take p (.scalar (.string done.reverse))
    else if c = '\\' then some ⟨.escaped done, p⟩
    else if c.toNat < 0x20 then none
    else some ⟨.quoted (c :: done), p⟩
  | .escaped done =>
    if c = 'u' then some ⟨.unit done none 0 0, p⟩
    else (unescape? c).map fun x => ⟨.quoted (x :: done), p⟩
  | .unit done high count value =>
    match hexValue? c with
    | none => none
    | some d =>
      if count < 3 then some ⟨.unit done high (count + 1) (value * 16 + d), p⟩
      else (endUnit done high (value * 16 + d)).map (⟨·, p⟩)
  | .pairSlash done high => if c = '\\' then some ⟨.pairLetter done high, p⟩ else none
  | .pairLetter done high => if c = 'u' then some ⟨.unit done (some high) 0 0, p⟩ else none

def result? (r : Reading) : Option Json :=
  match r.mode with
  | .between => r.progress.result?
  | .word done => (endWord r.progress done).bind (·.result?)
  | _ => none

end Reading

/-- Reads a text that is one value, with space around it. -/
def read? (s : Text) : Option Json :=
  (s.foldlM Reading.step .start).bind (·.result?)

end SolverInput.Json
