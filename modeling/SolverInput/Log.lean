import SolverInput.Pattern.Reader

namespace SolverInput

inductive LogLevel where
  | error
  | warn
  | info
  | debug
  | trace
  deriving DecidableEq, Repr

namespace LogLevel

/-- Higher for less important messages. -/
def rank : LogLevel → Nat
  | error => 1
  | warn => 2
  | info => 3
  | debug => 4
  | trace => 5

def name : LogLevel → Text
  | error => "ERROR".toList
  | warn => "WARN".toList
  | info => "INFO".toList
  | debug => "DEBUG".toList
  | trace => "TRACE".toList

end LogLevel

inductive LogEvent where
  | userFileLoaded (path : Text)
  | fileLoaded (path : Text)
  | dictionaryReady (sections keywords : Nat)
  | dictionaryUnavailable (cause : Text)
  | documentChecked (lines findings : Nat)
  | filesChecked (files findings : Nat)
  deriving DecidableEq

namespace LogEvent

def level : LogEvent → LogLevel
  | userFileLoaded _ => .info
  | fileLoaded _ => .info
  | dictionaryReady _ _ => .debug
  | dictionaryUnavailable _ => .error
  | documentChecked _ _ => .trace
  | filesChecked _ _ => .info

def message : LogEvent → Text
  | userFileLoaded path => "Loaded user keyword dictionary: ".toList ++ path
  | fileLoaded path => "Loaded keyword dictionary: ".toList ++ path
  | dictionaryReady sections keywords =>
    "Keyword dictionary ready: ".toList ++ Nat.toDigits 10 sections ++ " sections, ".toList ++
      Nat.toDigits 10 keywords ++ " keywords".toList
  | dictionaryUnavailable cause => "Failed to load keyword dictionary: ".toList ++ cause
  | documentChecked lines findings =>
    "Validated ".toList ++ Nat.toDigits 10 lines ++ " lines, ".toList ++
      Nat.toDigits 10 findings ++ " findings".toList
  | filesChecked files findings =>
    Nat.toDigits 10 files ++ " file(s) checked, ".toList ++ Nat.toDigits 10 findings ++
      " finding(s)".toList

def origin : LogEvent → Text
  | userFileLoaded _ => "elmer_sif_language_server::dictionary".toList
  | fileLoaded _ => "elmer_sif_language_server::dictionary".toList
  | dictionaryReady _ _ => "elmer_sif_language_server::dictionary".toList
  | dictionaryUnavailable _ => "elmer_sif_language_server::lsp::server".toList
  | documentChecked _ _ => "elmer_sif_language_server::validation::engine".toList
  | filesChecked _ _ => "sif_check".toList

end LogEvent

/-- Up to which rank events are shown, for one part of the programs or for all of them. -/
structure LogDirective where
  /-- How the names of the part begin. -/
  part : Option Text
  rank : Nat
  deriving DecidableEq

namespace LogDirective

/-- The rank of a level by its name, in any case. `off` is below all levels. -/
def rankOf? (s : Text) : Option Nat :=
  let s := s.map Char.toLower
  if s = "off".toList then some 0
  else if s = "error".toList then some 1
  else if s = "warn".toList then some 2
  else if s = "info".toList then some 3
  else if s = "debug".toList then some 4
  else if s = "trace".toList then some 5
  else none

/-- A level, a part, or both with an equals sign between them. A part alone shows all it has. -/
def ofText? (s : Text) : Option LogDirective :=
  match s.splitOnP (· == '=') with
  | [word] => match rankOf? word with
    | some rank => some ⟨none, rank⟩
    | none => some ⟨some word, LogLevel.trace.rank⟩
  | [part, level] =>
    if (trim level).isEmpty then some ⟨some part, LogLevel.trace.rank⟩
    else (rankOf? (trim level)).map fun rank => ⟨some part, rank⟩
  | _ => none

def concerns (d : LogDirective) (origin : Text) : Bool :=
  d.part.all (·.isPrefixOf origin)

/-- How exactly a directive tells what it is for. -/
def precision (d : LogDirective) : Nat :=
  (d.part.getD []).length

/-- Adds a directive. One for the same part gives way to it and leaves it its position. -/
def insert (ds : List LogDirective) (d : LogDirective) : List LogDirective :=
  if ds.any (·.part == d.part) then ds.map fun x => if x.part = d.part then d else x
  else ds ++ [d]

/-- The most precise directive for an origin; of several the last one. -/
def find? (ds : List LogDirective) (origin : Text) : Option LogDirective :=
  (ds.filter (·.concerns origin)).foldl (fun best d => match best with
    | some b => if b.precision ≤ d.precision then some d else some b
    | none => some d) none

/-- Directives with commas between them. Without any, errors are shown. -/
def listOfText (s : Text) : List LogDirective :=
  let pieces := ((s.splitOnP (· == ',')).map trim).filter (!·.isEmpty)
  match (pieces.filterMap ofText?).foldl insert [] with
  | [] => [⟨none, LogLevel.error.rank⟩]
  | ds => ds

end LogDirective

/-- Which events are shown: those that the directives let through and whose message a pattern
fits. -/
structure LogFilter where
  directives : List LogDirective
  pattern : Option Pattern

namespace LogFilter

/-- Directives, and after a slash a pattern. One that can not be read is left out, and with a second
slash all is. -/
def ofText (s : Text) : LogFilter :=
  match s.splitOnP (· == '/') with
  | [ds] => ⟨LogDirective.listOfText ds, none⟩
  | [ds, pattern] => ⟨LogDirective.listOfText ds, Pattern.ofText? pattern⟩
  | _ => ⟨LogDirective.listOfText [], none⟩

def passes (f : LogFilter) (e : LogEvent) : Bool :=
  (LogDirective.find? f.directives e.origin).any (e.level.rank ≤ ·.rank) &&
    f.pattern.all (·.occursIn e.message)

end LogFilter

end SolverInput
