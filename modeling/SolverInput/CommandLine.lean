import SolverInput.Report

namespace SolverInput

inductive Program where
  | checker
  | server
  deriving DecidableEq, Repr

def Program.name : Program → Text
  | checker => "sif-check".toList
  | server => "sif-ls".toList

def Program.usage (p : Program) : Text :=
  "Usage: ".toList ++ p.name ++ " [OPTIONS]".toList ++
    (if p = .checker then " <FILE>...".toList else []) ++ ['\n']

def versionNumber : Text :=
  "0.1.0".toList

inductive UsageError where
  | missingRequiredArgument
  | invalidValue
  | argumentConflict
  | unknownArgument
  | tooManyValues
  | displayHelp
  | displayVersion
  deriving DecidableEq, Repr

structure Options where
  files : List Text
  format : ReportFormat
  /-- Dictionary files, in the order of the command line. -/
  keywords : List Text
  logLevel : Text
  deriving DecidableEq

inductive ValueOption where
  | keywords
  | logLevel
  | format
  deriving DecidableEq, Repr

/-- Words that have been taken but not examined yet. That happens when the next option or the end of
the line is reached. -/
inductive Held where
  | nothing
  | option (o : ValueOption) (value : Option Text)
  | files (paths : List Text)

structure CommandLine where
  program : Program
  files : List Text
  keywords : List Text
  logLevel : Option Text
  format : Option ReportFormat
  held : Held
  /-- Whether `--` has been read: all further words are files. -/
  onlyFiles : Bool

namespace CommandLine

def start (p : Program) : CommandLine :=
  ⟨p, [], [], none, none, .nothing, false⟩

def format? (s : Text) : Option ReportFormat :=
  if s = "text".toList then some .text
  else if s = "json".toList then some .json
  else none

/-- Gives an option its value. Only `--keywords` may be repeated. -/
def setOption (cl : CommandLine) (value : Text) : ValueOption → Except UsageError CommandLine
  | .keywords =>
    if value.isEmpty then .error .invalidValue
    else .ok { cl with keywords := cl.keywords ++ [value] }
  | .logLevel =>
    if cl.logLevel.isSome then .error .argumentConflict
    else .ok { cl with logLevel := some value }
  | .format =>
    if cl.format.isSome then .error .argumentConflict
    else match format? value with
      | some f => .ok { cl with format := some f }
      | none => .error .invalidValue

def settle (cl : CommandLine) : Except UsageError CommandLine :=
  let free := { cl with held := .nothing }
  match cl.held with
  | .nothing => .ok cl
  | .option _ none => .error .invalidValue
  | .option o (some value) => free.setOption value o
  | .files paths =>
    if paths.any (·.isEmpty) then .error .invalidValue
    else .ok { free with files := cl.files ++ paths }

def option? (p : Program) (name : Text) : Option ValueOption :=
  if name = "keywords".toList then some .keywords
  else if name = "log-level".toList then some .logLevel
  else if name = "format".toList && p = .checker then some .format
  else none

/-- What the options without value ask for. -/
def request? (name : Text) : Option UsageError :=
  if name = "help".toList then some .displayHelp
  else if name = "version".toList then some .displayVersion
  else none

/-- Reads an option by its name, with the value after an equals sign if there is one. -/
def readOption (cl : CommandLine) (name : Text) (value : Option Text) :
    Except UsageError CommandLine :=
  match option? cl.program name, request? name, value with
  | some o, _, some value => do (← cl.settle).setOption value o
  | some o, _, none => do .ok { ← cl.settle with held := .option o none }
  | none, some _, some _ => .error .tooManyValues
  | none, some request, none => do
    let _ ← cl.settle
    .error request
  | none, none, _ => .error .unknownArgument

/-- Reads options of one letter. The first decides, as none can be combined with others. -/
def readLetter (cl : CommandLine) (letter : Char) : Except UsageError CommandLine :=
  if letter = 'h' then cl.readOption "help".toList none
  else if letter = 'V' then cl.readOption "version".toList none
  else .error .unknownArgument

/-- Reads a word that is no option: the value of the option before it, or a file. -/
def readPlain (cl : CommandLine) (word : Text) : Except UsageError CommandLine :=
  match cl.held, cl.onlyFiles, cl.program with
  | .option o none, false, _ => .ok { cl with held := .option o (some word) }
  | _, _, .server => .error .unknownArgument
  | .files paths, _, .checker => .ok { cl with held := .files (paths ++ [word]) }
  | _, _, .checker => do .ok { ← cl.settle with held := .files [word] }

def readWord (cl : CommandLine) (word : Text) : Except UsageError CommandLine :=
  if cl.onlyFiles then cl.readPlain word
  else match word with
    | ['-', '-'] => .ok { cl with onlyFiles := true }
    | '-' :: '-' :: rest =>
      let (name, value) := rest.span (· != '=')
      cl.readOption name (value.tail?)
    | '-' :: letter :: _ => cl.readLetter letter
    | _ => cl.readPlain word

def finish (cl : CommandLine) : Except UsageError Options := do
  let cl ← cl.settle
  if cl.program = .checker && cl.files.isEmpty then .error .missingRequiredArgument
  else .ok ⟨cl.files, cl.format.getD .text, cl.keywords, cl.logLevel.getD "info".toList⟩

end CommandLine

/-- Reads a command line, the name of the program left out. -/
def Options.ofWords (p : Program) (words : List Text) : Except UsageError Options := do
  (← words.foldlM CommandLine.readWord (CommandLine.start p)).finish

/-- What the programs learn from around them, apart from files. -/
structure Environment where
  home : Option Text
  /-- The home directory that the accounts of the system give the user. -/
  accountHome : Option Text
  configHome : Option Text
  logFilter : Option Text
  deriving DecidableEq

namespace Environment

def joinPath (directory name : Text) : Text :=
  if directory.isEmpty || directory.getLast? = some '/' then directory ++ name
  else directory ++ '/' :: name

/-- The home directory. An empty one is none. -/
def homeDirectory? (env : Environment) : Option Text :=
  (env.home.filter (!·.isEmpty)).or (env.accountHome.filter (!·.isEmpty))

/-- The directory for settings: the one that is named, if by an absolute path, or else one in the
home directory, if there is any. -/
def configDirectory? (env : Environment) : Option Text :=
  match env.configHome with
  | some ('/' :: rest) => some ('/' :: rest)
  | _ => env.homeDirectory?.map (joinPath · ".config".toList)

/-- Where the user may keep dictionary files. -/
def userFiles (env : Environment) : List Text :=
  match env.configDirectory? with
  | none => []
  | some directory =>
    let directory := joinPath directory "sif-ls".toList
    [joinPath directory "keywords.json".toList, joinPath directory "keywords.toml".toList]

/-- The filter for the log. The environment goes before the command line, even with nothing. -/
def logText (env : Environment) (o : Options) : Text :=
  env.logFilter.getD o.logLevel

end Environment

end SolverInput
