import SolverInput.Pattern.CharSet
import SolverInput.Text.Script

namespace SolverInput.Property

open Category

/-- Letters of all kinds, and the marks and signs that stand for letters. -/
def alphabetic : CharSet :=
  .unions (
    [capitals, smallLetters, titleLetters, modifierLetters, otherLetters, letterNumbers,
      markedAlphabetic].map .runs)

def numeric : CharSet :=
  .unions ([decimalDigits, letterNumbers, otherNumbers].map .runs)

def digits : CharSet :=
  .runs decimalDigits

def blanks : CharSet :=
  .union (.runs [⟨0x9, 0xd, 1⟩, ⟨0x85, 0x85, 1⟩])
    (.unions ([spaces, lineSeparators, paragraphSeparators].map .runs))

/-- What words are made of: letters, marks, digits, connectors, and two characters that join. -/
def wordChars : CharSet :=
  .unions (
    [alphabetic, .runs nonspacingMarks, .runs spacingMarks, .runs enclosingMarks, digits,
      .runs connectors, .runs [⟨0x200c, 0x200d, 1⟩]])

/-- The properties that are no categories, each by its names in small letters without separators. -/
def derived : List (List String × CharSet) :=
  [
    (["alphabetic", "alpha"], alphabetic),
    (["lowercase", "lower"], .unions ([smallLetters, otherLowercase].map .runs)),
    (["uppercase", "upper"], .unions ([capitals, otherUppercase].map .runs)),
    (["whitespace", "wspace", "space"], blanks)]

def assigned : CharSet :=
  .unions (
    [capitals, smallLetters, titleLetters, modifierLetters, otherLetters, nonspacingMarks,
      spacingMarks, enclosingMarks, decimalDigits, letterNumbers, otherNumbers, connectors, dashes,
      openPunctuation, closePunctuation, initialQuotes, finalQuotes, otherPunctuation, mathSymbols,
      currencySymbols, modifierSymbols, otherSymbols, spaces, lineSeparators, paragraphSeparators,
      controls, formats, privateUse].map .runs)

def categories : List (List String × CharSet) :=
  [
    (["any"], .any),
    (["assigned"], assigned),
    (["ascii"], .runs [⟨0, 0x7f, 1⟩]),
    (["lu", "uppercaseletter"], .runs capitals),
    (["ll", "lowercaseletter"], .runs smallLetters),
    (["lt", "titlecaseletter"], .runs titleLetters),
    (["lc", "casedletter"], .unions ([capitals, smallLetters, titleLetters].map .runs)),
    (["lm", "modifierletter"], .runs modifierLetters),
    (["lo", "otherletter"], .runs otherLetters),
    (["l", "letter"], .unions (
      [capitals, smallLetters, titleLetters, modifierLetters, otherLetters].map .runs)),
    (["mn", "nonspacingmark"], .runs nonspacingMarks),
    (["mc", "spacingmark"], .runs spacingMarks),
    (["me", "enclosingmark"], .runs enclosingMarks),
    (["m", "mark", "combiningmark"], .unions (
      [nonspacingMarks, spacingMarks, enclosingMarks].map .runs)),
    (["nd", "decimalnumber", "digit"], digits),
    (["nl", "letternumber"], .runs letterNumbers),
    (["no", "othernumber"], .runs otherNumbers),
    (["n", "number"], numeric),
    (["pc", "connectorpunctuation"], .runs connectors),
    (["pd", "dashpunctuation"], .runs dashes),
    (["ps", "openpunctuation"], .runs openPunctuation),
    (["pe", "closepunctuation"], .runs closePunctuation),
    (["pi", "initialpunctuation"], .runs initialQuotes),
    (["pf", "finalpunctuation"], .runs finalQuotes),
    (["po", "otherpunctuation"], .runs otherPunctuation),
    (["p", "punctuation", "punct"], .unions (
      [connectors, dashes, openPunctuation, closePunctuation, initialQuotes, finalQuotes,
        otherPunctuation].map .runs)),
    (["sm", "mathsymbol"], .runs mathSymbols),
    (["sc", "currencysymbol"], .runs currencySymbols),
    (["sk", "modifiersymbol"], .runs modifierSymbols),
    (["so", "othersymbol"], .runs otherSymbols),
    (["s", "symbol"], .unions (
      [mathSymbols, currencySymbols, modifierSymbols, otherSymbols].map .runs)),
    (["zs", "spaceseparator"], .runs spaces),
    (["zl", "lineseparator"], .runs lineSeparators),
    (["zp", "paragraphseparator"], .runs paragraphSeparators),
    (["z", "separator"], .unions ([spaces, lineSeparators, paragraphSeparators].map .runs)),
    (["cc", "control", "cntrl"], .runs controls),
    (["cf", "format"], .runs formats),
    (["co", "privateuse"], .runs privateUse),
    (["cn", "unassigned"], .complement assigned),
    (["c", "other"], .unions (
      [.runs controls, .runs formats, .runs privateUse, .complement assigned]))]

/-- A name without what does not count: separators, the case of letters, and `is` in front. -/
def simplifyName (name : Text) : Text :=
  let lowered := name.map Char.toLower
  let (body, cut) := if ['i', 's'].isPrefixOf lowered then (lowered.drop 2, true)
    else (lowered, false)
  let kept := body.filter fun c => c.toNat < 0x80 && c != ' ' && c != '_' && c != '-'
  if cut && kept == ['c'] then ['i', 's', 'c'] else kept

def find? (table : List (List String × CharSet)) (name : Text) : Option CharSet :=
  (table.find? fun entry => entry.1.any (·.toList == name)).map Prod.snd

def scriptSets : List (List String × CharSet) :=
  scripts.map fun (names, rs) => (names, .runs rs)

def ofName? (name : Text) : Option CharSet :=
  find? (derived ++ categories ++ scriptSets) (simplifyName name)

/-- The characters for which the named property, the category or the script, has a value. -/
def ofValue? (name value : Text) : Option CharSet :=
  let name := simplifyName name
  if name = "gc".toList || name = "generalcategory".toList then
    find? categories (simplifyName value)
  else if name = "sc".toList || name = "script".toList then
    find? scriptSets (simplifyName value)
  else none

/-- The characters between a property's braces: a name, or a name and a value with `:`, `=` or `!=`
between them. All three mean the same. -/
def ofText? (s : Text) : Option CharSet :=
  match s.span (· != '!') with
  | (name, '!' :: '=' :: value) => ofValue? name value
  | _ => match s.span (· != ':') with
    | (name, _ :: value) => ofValue? name value
    | _ => match s.span (· != '=') with
      | (name, _ :: value) => ofValue? name value
      | _ => ofName? s

def asciiDigits : CharSet :=
  .runs [⟨0x30, 0x39, 1⟩]

def asciiBlanks : CharSet :=
  .runs [⟨0x9, 0xd, 1⟩, ⟨0x20, 0x20, 1⟩]

def asciiWordChars : CharSet :=
  .runs [⟨0x30, 0x39, 1⟩, ⟨0x41, 0x5a, 1⟩, ⟨0x5f, 0x5f, 1⟩, ⟨0x61, 0x7a, 1⟩]

/-- The sets of ASCII characters that have names inside brackets. -/
def asciiClasses : List (List String × CharSet) :=
  [
    (["alnum"], .runs [⟨0x30, 0x39, 1⟩, ⟨0x41, 0x5a, 1⟩, ⟨0x61, 0x7a, 1⟩]),
    (["alpha"], .runs [⟨0x41, 0x5a, 1⟩, ⟨0x61, 0x7a, 1⟩]),
    (["ascii"], .runs [⟨0, 0x7f, 1⟩]),
    (["blank"], .runs [⟨0x9, 0x9, 1⟩, ⟨0x20, 0x20, 1⟩]),
    (["cntrl"], .runs [⟨0, 0x1f, 1⟩, ⟨0x7f, 0x7f, 1⟩]),
    (["digit"], asciiDigits),
    (["graph"], .runs [⟨0x21, 0x7e, 1⟩]),
    (["lower"], .runs [⟨0x61, 0x7a, 1⟩]),
    (["print"], .runs [⟨0x20, 0x7e, 1⟩]),
    (["punct"], .runs [⟨0x21, 0x2f, 1⟩, ⟨0x3a, 0x40, 1⟩, ⟨0x5b, 0x60, 1⟩, ⟨0x7b, 0x7e, 1⟩]),
    (["space"], asciiBlanks),
    (["upper"], .runs [⟨0x41, 0x5a, 1⟩]),
    (["word"], asciiWordChars),
    (["xdigit"], .runs [⟨0x30, 0x39, 1⟩, ⟨0x41, 0x46, 1⟩, ⟨0x61, 0x66, 1⟩])]

def asciiClass? (name : Text) : Option CharSet :=
  find? asciiClasses name

end SolverInput.Property
