import SolverInput.Pattern.Bracket

namespace SolverInput.Pattern

structure Part where
  pattern : Pattern
  /-- How many groups, sequences, choices and repetitions surround its innermost part. -/
  depth : Nat
  /-- Whether a repetition can follow. None can follow a setting of flags. -/
  isRepeatable : Bool

namespace Part

def ofPattern (p : Pattern) : Part :=
  ⟨p, 0, true⟩

def setting : Part :=
  ⟨.empty, 0, false⟩

/-- Several parts as one; `last` comes after the others, which are in reverse. -/
def join (f : List Pattern → Pattern) : List Part → Part
  | [] => .ofPattern .empty
  | [p] => { p with isRepeatable := true }
  | ps => ⟨f (ps.reverse.map (·.pattern)), (ps.map (·.depth)).foldl max 0 + 1, true⟩

end Part

/-- A group that is still open, or the whole pattern. -/
structure Group where
  flags : Flags
  counts : Bool
  /-- The sequences before the last bar, the last one first. -/
  choices : List Part
  /-- The parts after the last bar, the last one first. -/
  parts : List Part

namespace Group

def opened (f : Flags) (counts : Bool) : Group :=
  ⟨f, counts, [], []⟩

def push (g : Group) (p : Part) : Group :=
  { g with parts := p :: g.parts }

def nextChoice (g : Group) : Group :=
  { g with choices := Part.join sequence g.parts :: g.choices, parts := [] }

def inside (g : Group) : Part :=
  Part.join choice g.nextChoice.choices

def part (g : Group) : Part :=
  let p := g.inside
  ⟨if g.counts then .group p.pattern else p.pattern, p.depth + 1, true⟩

/-- Repeats the last part. A question mark after a repetition turns its preference around. -/
def repeatLast? (least : Nat) (most : Option Nat) (isMarked : Bool) (g : Group) : Option Group :=
  match g.parts with
  | p :: ps =>
    if p.isRepeatable then
      let pattern := .repeated p.pattern least most (g.flags.lazy != isMarked)
      some { g with parts := ⟨pattern, p.depth + 1, true⟩ :: ps }
    else none
  | [] => none

end Group

/-- Where the reader stands: in a group, within others. -/
structure Reading where
  group : Group
  outer : List Group
  /-- The names of groups. No two are alike. -/
  names : List Text

namespace Flags

def characterSet? (f : Flags) (c : Char) (isByte : Bool) : Option CharSet :=
  if isByte && !f.unicode && 0x80 ≤ c.toNat then none
  else if f.unicode || c.toNat < 0x80 then some (f.fold (.single c))
  else some (.single c)

def dot? (f : Flags) : Option CharSet :=
  if !f.unicode then none
  else if f.dotAll then some .any
  else if f.carriageReturn then some (.complement (.union (.single '\r') (.single '\n')))
  else some (.complement (.single '\n'))

def lineStart (f : Flags) : Anchor :=
  if !f.multiline then .start
  else if f.carriageReturn then .anyLineStart
  else .lineStart

def lineEnd (f : Flags) : Anchor :=
  if !f.multiline then .finish
  else if f.carriageReturn then .anyLineEnd
  else .lineEnd

end Flags

/-- The letters of flags up to a colon or a closing parenthesis, each once. Those after a hyphen are
cleared. -/
def readFlags? (f : Flags) (on : Bool) (seen : List Char) : Text → Option (Flags × List Char × Text)
  | [] => none
  | c :: rest =>
    if c = ':' || c = ')' then
      if seen.head? = some '-' then none else some (f, seen, c :: rest)
    else if seen.contains c then none
    else if c = '-' then readFlags? f false (c :: seen) rest
    else match f.set? on c with
      | some f => readFlags? f on (c :: seen) rest
      | none => none

def readName? (s : Text) : Option (Text × Text) :=
  match s.span (· != '>') with
  | (c :: name, _ :: rest) =>
    if (c = '_' || Property.alphabetic.contains c) && name.all fun c =>
        c = '_' || c = '.' || c = '[' || c = ']' || Property.alphabetic.contains c ||
          Property.numeric.contains c
    then some (c :: name, rest) else none
  | _ => none

/-- A decimal number of 32 bits, with blanks around it. -/
def countOfText? (s : Text) : Option Nat :=
  let digits := trim s
  if !digits.isEmpty && digits.all (·.isDigit) && decimalValue digits < UInt32.size then
    some (decimalValue digits)
  else none

/-- The limits of a repetition between braces: one number, or two with a comma between them, of
which the second may be missing. -/
def limitsOfText? (s : Text) : Option (Nat × Option Nat) :=
  match s.splitOnP (· == ',') with
  | [n] => (countOfText? n).map fun n => (n, some n)
  | [least, []] => (countOfText? least).map fun least => (least, none)
  | [least, most] => do
    let least ← countOfText? least
    let most ← countOfText? most
    if least ≤ most then some (least, some most) else none
  | _ => none

def readQuestionMark : Text → Bool × Text
  | '?' :: rest => (true, rest)
  | s => (false, s)

namespace Reading

def push (r : Reading) (p : Part) : Reading :=
  { r with group := r.group.push p }

def openGroup? (r : Reading) (s : Text) : Option (Reading × Text) :=
  let f := r.group.flags
  let within (names : List Text) (f : Flags) (counts : Bool) : Reading :=
    ⟨.opened f counts, r.group :: r.outer, names⟩
  let named (s : Text) : Option (Reading × Text) := do
    let (name, rest) ← readName? s
    if r.names.contains name then none else some (within (name :: r.names) f true, rest)
  match f.skip s with
  | '?' :: 'P' :: '<' :: rest => named rest
  | '?' :: '<' :: rest => named rest
  | '?' :: rest => do
    let (new, seen, rest) ← readFlags? f true [] rest
    match rest with
    | ')' :: rest =>
      if seen.isEmpty then none
      else some ({ r with group := { r.group.push .setting with flags := new } }, rest)
    | _ => some (within r.names new false, rest.drop 1)
  | rest => some (within r.names f true, rest)

def closeGroup? (r : Reading) : Option Reading :=
  match r.outer with
  | [] => none
  | up :: outer => some ⟨up.push r.group.part, outer, r.names⟩

def repeatBraced? (r : Reading) (s : Text) : Option (Reading × Text) := do
  let f := r.group.flags
  let (inside, rest) ← readBraced? f.spaced false s
  let (least, most) ← limitsOfText? inside
  let (isMarked, rest) := readQuestionMark (f.skip rest)
  return ({ r with group := ← r.group.repeatLast? least most isMarked }, rest)

def repeatLast? (r : Reading) (least : Nat) (most : Option Nat) (s : Text) :
    Option (Reading × Text) := do
  let (isMarked, rest) := readQuestionMark s
  return ({ r with group := ← r.group.repeatLast? least most isMarked }, rest)

def pushEscape? (r : Reading) (s : Text) : Option (Reading × Text) := do
  let (e, rest) ← readEscape? r.group.flags s
  let p ← match e with
    | .char c isByte => (r.group.flags.characterSet? c isByte).map .one
    | .set s => some (.one s)
    | .anchor a => some (.anchor a)
  return (r.push (.ofPattern p), rest)

def step? (r : Reading) (c : Char) (rest : Text) : Option (Reading × Text) :=
  let f := r.group.flags
  match c with
  | '(' => r.openGroup? rest
  | ')' => r.closeGroup?.map (·, rest)
  | '|' => some ({ r with group := r.group.nextChoice }, rest)
  | '[' => do
    let (m, rest) ← readBrackets? f rest
    return (r.push ⟨.one m.set, m.depth, true⟩, rest)
  | '?' => r.repeatLast? 0 (some 1) rest
  | '*' => r.repeatLast? 0 none rest
  | '+' => r.repeatLast? 1 none rest
  | '\x7b' => r.repeatBraced? rest
  | '\\' => r.pushEscape? rest
  | '.' => do return (r.push (.ofPattern (.one (← f.dot?))), rest)
  | '^' => some (r.push (.ofPattern (.anchor f.lineStart)), rest)
  | '$' => some (r.push (.ofPattern (.anchor f.lineEnd)), rest)
  | _ => do return (r.push (.ofPattern (.one (← f.characterSet? c false))), rest)

/-- Reads to the end. Each step takes a character, so as many steps as characters are enough. -/
def finish? : Nat → Reading → Text → Option Part
  | 0, _, _ => none
  | n + 1, r, s => match r.group.flags.skip s with
    | [] => if r.outer.isEmpty then some r.group.inside else none
    | c :: rest => do
      let (r, rest) ← r.step? c rest
      finish? n r rest

end Reading

def depthLimit : Nat :=
  250

/-- Reads a regular expression. One that is too deep or too large is none. -/
def ofText? (s : Text) : Option Pattern := do
  let p ← Reading.finish? (s.length + 1) ⟨.opened .initial false, [], []⟩ s
  if p.depth ≤ depthLimit && p.pattern.size ≤ sizeLimit then some p.pattern else none

end SolverInput.Pattern
