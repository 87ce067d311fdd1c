import SolverInput.CommandLine
import SolverInput.FindingStore
import SolverInput.Loading

namespace SolverInput

inductive CheckError where
  | dictionary (e : LoadError)
  | unreadable (path : Text) (cause : ReadError)
  deriving DecidableEq

def CheckError.message (say : Wording) : CheckError → Text
  | dictionary e => e.message say
  | unreadable path cause => "Failed to read ".toList ++ path ++ ": ".toList ++ cause.message

/-- Checks a file and keeps its findings under its path. Each file counts as a solver input file,
whatever its name. -/
def checkFile (fs : FileSystem) (d : Dictionary) (path : Text) (store : FindingStore) :
    Except CheckError (Report × LogEvent × FindingStore) :=
  match fs.readText path with
  | .error cause => .error (.unreadable path cause)
  | .ok text =>
    let (checked, store) := store.validate d ⟨path, languageId, text⟩
    let found := checked.getD []
    .ok (⟨path, found⟩, .documentChecked (lines (dropMark text)).length found.length, store)

/-- Checks files in their order, up to the first that cannot be read. One store serves them all. -/
def checkFiles (fs : FileSystem) (d : Dictionary) :
    List Text → FindingStore → List LogEvent × Except CheckError (List Report)
  | [], _ => ([], .ok [])
  | path :: rest, store =>
    match checkFile fs d path store with
    | .error e => ([], .error e)
    | .ok (report, event, store) =>
      let (events, reports) := checkFiles fs d rest store
      (event :: events, reports.map (report :: ·))

def reportFiles (fs : FileSystem) (d : Dictionary) (paths : List Text) :
    List LogEvent × Except CheckError (List Report) :=
  checkFiles fs d paths ∅

/-- What a run of a program leaves behind. -/
structure Outcome where
  status : Nat
  output : Text
  error : Option CheckError
  log : List LogEvent

namespace Outcome

def failure (e : CheckError) (log : List LogEvent) : Outcome :=
  ⟨2, [], some e, log⟩

def findingCount (rs : List Report) : Nat :=
  rs.foldr (fun r n => r.findings.length + n) 0

/-- Loads the dictionary and checks the files. The status tells a clean run from one with
findings. -/
def ofOptions (fs : FileSystem) (userFiles : List Text) (o : Options) : Outcome :=
  let loading := Dictionary.load fs userFiles o.keywords
  match loading.result with
  | .error e => failure (.dictionary e) loading.events
  | .ok d =>
    let (events, checked) := reportFiles fs d o.files
    match checked with
    | .error e => failure e (loading.events ++ events)
    | .ok rs =>
      let total := findingCount rs
      ⟨if total = 0 then 0 else 1, o.format.render rs, none,
        loading.events ++ events ++ [.filesChecked rs.length total]⟩

/-- A program that is asked for help or its version does that alone. -/
def ofUsageError (p : Program) : UsageError → Outcome
  | .displayVersion => ⟨0, p.name ++ ' ' :: versionNumber ++ ['\n'], none, []⟩
  | .displayHelp => ⟨0, p.usage, none, []⟩
  | _ => ⟨2, [], none, []⟩

/-- A run of the checker on a command line, with the messages that the filter lets through. -/
def ofWords (fs : FileSystem) (env : Environment) (ws : List Text) : Outcome :=
  match Options.ofWords .checker ws with
  | .error e => ofUsageError .checker e
  | .ok o =>
    let run := ofOptions fs env.userFiles o
    { run with log := run.log.filter (LogFilter.ofText (env.logText o)).passes }

end Outcome

end SolverInput
