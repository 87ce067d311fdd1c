import SolverInput.Dictionary.Builtin
import SolverInput.Files
import SolverInput.Json.Reader
import SolverInput.Log
import SolverInput.Toml.Reader

namespace SolverInput

inductive DictionaryFormat where
  | json
  | toml
  deriving DecidableEq, Repr

namespace DictionaryFormat

def name : DictionaryFormat → Text
  | json => "JSON".toList
  | toml => "TOML".toList

/-- What is said of a text that is no dictionary file of this format. -/
def refusal (f : DictionaryFormat) : Text :=
  "Invalid ".toList ++ f.name ++ " keyword dictionary".toList

def readValue? : DictionaryFormat → Text → Option Json
  | json => Json.read?
  | toml => Toml.read?

def read? (f : DictionaryFormat) (text : Text) : Option Dictionary :=
  ((f.readValue? text).bind Listing.ofJson?).map .ofListing

/-- What follows the last dot of a file name. A dot at its beginning does not count. -/
def extension? (path : Text) : Option Text :=
  let name := path.reverse.takeWhile (· != '/')
  let (extension, rest) := name.span (· != '.')
  match rest with
  | '.' :: _ :: _ => some extension.reverse
  | _ => none

/-- Only the extension `toml` means TOML. -/
def ofPath (path : Text) : DictionaryFormat :=
  if extension? path = some "toml".toList then toml else json

end DictionaryFormat

/-- How the parser of a format words why it refuses a text. The programs pass that on as it is. -/
abbrev Wording := DictionaryFormat → Text → Text

inductive LoadError where
  | unreadable (path : Text) (cause : ReadError)
  /-- The file was read, but the parser of its format refuses the text. -/
  | malformed (path : Text) (format : DictionaryFormat) (text : Text)
  deriving DecidableEq

def LoadError.message (say : Wording) : LoadError → Text
  | unreadable path cause =>
    "Failed to read keyword dictionary: ".toList ++ path ++ ": ".toList ++ cause.message
  | malformed path format text =>
    "Failed to load keyword dictionary: ".toList ++ path ++ ": ".toList ++ format.refusal ++
      ": ".toList ++ say format text

def loadFile (fs : FileSystem) (path : Text) : Except LoadError Dictionary :=
  match fs.readText path with
  | .error cause => .error (.unreadable path cause)
  | .ok text =>
    let format := DictionaryFormat.ofPath path
    match format.read? text with
    | some d => .ok d
    | none => .error (.malformed path format text)

/-- A dictionary file that is to be loaded, and the event that reports it. -/
inductive DictionarySource where
  /-- In the directory with the user's settings. -/
  | user (path : Text)
  | commandLine (path : Text)

namespace DictionarySource

def path : DictionarySource → Text
  | user path => path
  | commandLine path => path

def event : DictionarySource → LogEvent
  | user path => .userFileLoaded path
  | commandLine path => .fileLoaded path

end DictionarySource

/-- A dictionary, or why there is none, and what was reported on the way. -/
structure Loading where
  events : List LogEvent
  result : Except LoadError Dictionary

namespace Loading

/-- The files to load, in their order. Files of the user that do not exist are passed over. -/
def sources (fs : FileSystem) (user commandLine : List Text) : List DictionarySource :=
  (user.filter fs.hasEntry).map .user ++ commandLine.map .commandLine

/-- Merges the files into a dictionary, up to the first that cannot be loaded. -/
def mergeFiles (fs : FileSystem) : Dictionary → List DictionarySource → Loading
  | d, [] => ⟨[], .ok d⟩
  | d, s :: rest =>
    match loadFile fs s.path with
    | .error e => ⟨[], .error e⟩
    | .ok extra =>
      let l := mergeFiles fs (d.merge extra) rest
      ⟨s.event :: l.events, l.result⟩

end Loading

/-- The built-in dictionary with the user's files and those of the command line. -/
def Dictionary.load (fs : FileSystem) (user commandLine : List Text) : Loading :=
  let l := Loading.mergeFiles fs .builtin (Loading.sources fs user commandLine)
  match l.result with
  | .error _ => l
  | .ok d => { l with events := l.events ++ [.dictionaryReady d.ids.length d.size] }

end SolverInput
