import SolverInput.Json.Reader
import SolverInput.Text

namespace SolverInput.Toml

inductive Token where
  | newline
  | equals
  | comma
  /-- An opening bracket; `double` if another one stands directly before it. -/
  | openBracket (double : Bool)
  /-- A closing bracket; `double` if another one stands directly before it. -/
  | closeBracket (double : Bool)
  | openBrace
  | closeBrace
  | text (s : Text) (multiline : Bool)
  /-- A run outside quotation marks: parts of a key with their dots, or a value. -/
  | bare (run : Text)
  deriving DecidableEq

/-- Where in a token the reader stands. Texts are gathered in reverse. -/
inductive Mode where
  | between (last : Char)
  | comment
  | bare (done : Text)
  /-- After a date and one space: a time of day may follow. -/
  | dateGap (done : Text)
  /-- After one or two quotation marks. -/
  | quotes (mark : Char) (two : Bool)
  | line (mark : Char) (done : Text)
  /-- After three quotation marks: a line feed that follows does not count. -/
  | blockStart (mark : Char)
  /-- In a text of several lines, after this many quotation marks. -/
  | block (mark : Char) (done : Text) (marks : Nat)
  | escaped (multiline : Bool) (done : Text)
  | hex (multiline : Bool) (done : Text) (left value : Nat)
  /-- After a backslash at the end of a line: blanks are passed over. -/
  | joining (done : Text) (ended : Bool)

structure Reading where
  mode : Mode
  /-- The tokens before, the last one first. -/
  tokens : List Token

namespace Reading

def isBareChar (c : Char) : Bool :=
  c.isAlphanum || c == '_' || c == '-' || c == '+' || c == '.' || c == ':'

/-- Tabs, and all characters but control characters. -/
def isTextChar (c : Char) : Bool :=
  c == '\t' || (0x20 ≤ c.toNat && c.toNat != 0x7f)

/-- Four, two and two digits with hyphens between them. -/
def hasDateShape (s : Text) : Bool :=
  s.map (fun c => if c.isDigit then '0' else c) == "0000-00-00".toList

def emit (tokens : List Token) (t : Token) (last : Char) : Reading :=
  ⟨.between last, t :: tokens⟩

def stepBetween (last : Char) (tokens : List Token) (c : Char) : Option Reading :=
  match c with
  | ' ' => some ⟨.between c, tokens⟩
  | '\t' => some ⟨.between c, tokens⟩
  | '\n' => some (emit tokens .newline c)
  | '#' => some ⟨.comment, tokens⟩
  | '"' => some ⟨.quotes c false, tokens⟩
  | '\'' => some ⟨.quotes c false, tokens⟩
  | '=' => some (emit tokens .equals c)
  | ',' => some (emit tokens .comma c)
  | '[' => some (emit tokens (.openBracket (last == '[')) c)
  | ']' => some (emit tokens (.closeBracket (last == ']')) c)
  | '\x7b' => some (emit tokens .openBrace c)
  | '\x7d' => some (emit tokens .closeBrace c)
  | _ => if isBareChar c then some ⟨.bare [c], tokens⟩ else none

def stepLine (mark : Char) (done : Text) (tokens : List Token) (c : Char) : Option Reading :=
  if c = mark then some (emit tokens (.text done.reverse false) c)
  else if c = '\\' && mark = '"' then some ⟨.escaped false done, tokens⟩
  else if isTextChar c then some ⟨.line mark (c :: done), tokens⟩
  else none

/-- Reads a character of a text of several lines. Three quotation marks end it, and up to two more
before them belong to it. -/
def stepBlock (mark : Char) (done : Text) (marks : Nat) (tokens : List Token) (c : Char) :
    Option Reading :=
  if c = mark && marks < 5 then some ⟨.block mark done (marks + 1), tokens⟩
  else if marks ≥ 3 then
    stepBetween mark (.text (List.replicate (marks - 3) mark ++ done).reverse true :: tokens) c
  else
    let done := List.replicate marks mark ++ done
    if c = '\\' && mark = '"' then some ⟨.escaped true done, tokens⟩
    else if c = '\n' || isTextChar c then some ⟨.block mark (c :: done) 0, tokens⟩
    else none

def resume (multiline : Bool) (done : Text) (tokens : List Token) : Reading :=
  ⟨if multiline then .block '"' done 0 else .line '"' done, tokens⟩

def unescape? : Char → Option Char
  | 'b' => some '\x08'
  | 't' => some '\t'
  | 'n' => some '\n'
  | 'f' => some '\x0c'
  | 'r' => some '\r'
  | 'e' => some '\x1b'
  | '"' => some '"'
  | '\\' => some '\\'
  | _ => none

def hexLength? : Char → Option Nat
  | 'x' => some 2
  | 'u' => some 4
  | 'U' => some 8
  | _ => none

def stepEscaped (multiline : Bool) (done : Text) (tokens : List Token) (c : Char) :
    Option Reading :=
  match unescape? c, hexLength? c with
  | some x, _ => some (resume multiline (x :: done) tokens)
  | none, some n => some ⟨.hex multiline done n 0, tokens⟩
  | none, none =>
    if multiline && (c = ' ' || c = '\t' || c = '\n') then some ⟨.joining done (c = '\n'), tokens⟩
    else none

def step (r : Reading) (c : Char) : Option Reading :=
  let ts := r.tokens
  match r.mode with
  | .between last => stepBetween last ts c
  | .comment =>
    if c = '\n' then some (emit ts .newline c)
    else if isTextChar c then some r
    else none
  | .bare done =>
    if isBareChar c then some ⟨.bare (c :: done), ts⟩
    else if c = ' ' && hasDateShape done.reverse then some ⟨.dateGap done, ts⟩
    else stepBetween ' ' (.bare done.reverse :: ts) c
  | .dateGap done =>
    if c.isDigit then some ⟨.bare (c :: ' ' :: done), ts⟩
    else stepBetween ' ' (.bare done.reverse :: ts) c
  | .quotes mark false =>
    if c = mark then some ⟨.quotes mark true, ts⟩ else stepLine mark [] ts c
  | .quotes mark true =>
    if c = mark then some ⟨.blockStart mark, ts⟩
    else stepBetween mark (.text [] false :: ts) c
  | .line mark done => stepLine mark done ts c
  | .blockStart mark =>
    if c = '\n' then some ⟨.block mark [] 0, ts⟩ else stepBlock mark [] 0 ts c
  | .block mark done marks => stepBlock mark done marks ts c
  | .escaped multiline done => stepEscaped multiline done ts c
  | .hex multiline done left value =>
    match hexValue? c with
    | none => none
    | some d =>
      let value := value * 16 + d
      if left > 1 then some ⟨.hex multiline done (left - 1) value, ts⟩
      else if value.isValidChar then some (resume multiline (Char.ofNat value :: done) ts)
      else none
  | .joining done ended =>
    if c = '\n' then some ⟨.joining done true, ts⟩
    else if c = ' ' || c = '\t' then some r
    else if ended then stepBlock '"' done 0 ts c
    else none

def result? (r : Reading) : Option (List Token) :=
  match r.mode with
  | .between _ => some r.tokens.reverse
  | .comment => some r.tokens.reverse
  | .bare done => some (.bare done.reverse :: r.tokens).reverse
  | .dateGap done => some (.bare done.reverse :: r.tokens).reverse
  | .quotes _ true => some (.text [] false :: r.tokens).reverse
  | .block mark done marks =>
    if marks ≥ 3 then
      some (.text (List.replicate (marks - 3) mark ++ done).reverse true :: r.tokens).reverse
    else none
  | _ => none

end Reading

/-- Writes each line end as a line feed. A carriage return may only stand before one. -/
def plainLines? (s : Text) : Option Text :=
  let pieces := s.splitOnP (· == '\n')
  let ls := pieces.dropLast.map dropReturn ++ pieces.getLast?.toList
  if ls.any (·.contains '\r') then none else some (['\n'].intercalate ls)

/-- The tokens of a text, without comments and the spaces between tokens. -/
def tokens? (s : Text) : Option (List Token) := do
  let s ← plainLines? s
  (← s.foldlM Reading.step ⟨.between ' ', []⟩).result?

end SolverInput.Toml
