import SolverInput.CommandLine
import SolverInput.FindingStore
import SolverInput.Loading
import SolverInput.Session.Message

namespace SolverInput

/-- What the client sends. The first three of the life cycle and the question for symbols want an
answer, the others do not. -/
inductive Event where
  | initializeRequest
  | initializedNotice
  | shutdownRequest
  | exitNotice
  | opened (uri language : Text) (version : Int32) (text : Text)
  /-- Each change gives the whole new text. -/
  | changed (uri : Text) (version : Int32) (texts : List Text)
  | saved (uri : Text) (text : Option Text)
  | closed (uri : Text)
  | symbolsRequest (uri : Text)
  /-- A notice that does not say what it should, such as one with a version beyond 32 bits. -/
  | unreadableNotice
  deriving DecidableEq

def Event.isRequest : Event → Bool
  | initializeRequest => true
  | shutdownRequest => true
  | symbolsRequest _ => true
  | _ => false

/-- What moves a session on. Besides the client the program itself may ask for the findings of a
document to be sent again. -/
inductive Action where
  | event (e : Event)
  | republish (uri : Text)
  deriving DecidableEq

inductive Refusal where
  | notInitialized
  | invalidRequest
  /-- The session is over. -/
  | exited
  deriving DecidableEq, Repr

inductive Reply where
  | capabilities
  | null
  /-- No list for a document that is not open. -/
  | symbols (list : Option (List Symbol))
  | refused (r : Refusal)
  deriving DecidableEq

/-- What an event brings about: messages in their order, and a reply to a request. -/
structure Answer where
  sent : List Message
  reply : Option Reply
  deriving DecidableEq

namespace Answer

def silent : Answer :=
  ⟨[], .none⟩

def sending (ms : List Message) : Answer :=
  ⟨ms, .none⟩

def replying (r : Reply) : Answer :=
  ⟨[], some r⟩

end Answer

inductive Phase where
  | uninitialized
  | running
  | shutDown
  | exited
  deriving DecidableEq, Repr

structure OpenDocument where
  content : Text
  version : Int32
  deriving DecidableEq

structure Setup where
  dictionary : Dictionary
  /-- Why there is no dictionary, if loading it failed. -/
  startupError : Option Text

namespace Setup

/-- Without a dictionary no section is checked, and the client is told why. -/
def ofLoading (say : Wording) (l : Loading) : Setup :=
  match l.result with
  | .ok d => ⟨d, none⟩
  | .error e => ⟨.empty, some (e.message say)⟩

def startupEvents (say : Wording) (l : Loading) : List LogEvent :=
  match l.result with
  | .ok _ => l.events
  | .error e => l.events ++ [.dictionaryUnavailable (e.message say)]

/-- The set-up that a command line asks for, and what of its start-up passes the log filter. -/
def ofWords (say : Wording) (fs : FileSystem) (env : Environment) (ws : List Text) :
    Except UsageError (Setup × List LogEvent) := do
  let o ← Options.ofWords .server ws
  let l := Dictionary.load fs env.userFiles o.keywords
  return (.ofLoading say l, (startupEvents say l).filter (LogFilter.ofText (env.logText o)).passes)

end Setup

structure Session where
  phase : Phase
  documents : Table OpenDocument
  store : FindingStore
  deriving DecidableEq

namespace Session

def start : Session :=
  ⟨.uninitialized, ∅, ∅⟩

def publish (setup : Setup) (uri : Text) : StateM Session Answer := fun s =>
  match s.documents.get? uri with
  | none => (.silent, s)
  | some doc =>
    let (found, store) := s.store.validate setup.dictionary ⟨uri, languageId, doc.content⟩
    (.sending [.publish uri (some doc.version) ((found.getD []).map Finding.toDiagnostic)],
      { s with store })

def keep (setup : Setup) (uri : Text) (doc : OpenDocument) : StateM Session Answer := fun s =>
  publish setup uri { s with documents := s.documents.insert uri doc }

def greeting (setup : Setup) : List Message :=
  .log "sif-ls initialized".toList :: match setup.startupError with
    | none => []
    | some e => [.showError ("Keyword dictionary unavailable, validation disabled: ".toList ++ e)]

/-- Acts on an event in a running session. Only documents of the language are followed. -/
def handle (setup : Setup) (e : Event) : StateM Session Answer := fun s =>
  match e with
  | .initializeRequest => (.replying (.refused .invalidRequest), s)
  | .initializedNotice => (.sending (greeting setup), s)
  | .shutdownRequest => (.replying .null, { s with phase := .shutDown })
  | .exitNotice => (.silent, { s with phase := .exited })
  | .opened uri language version text =>
    if language = languageId then keep setup uri ⟨text, version⟩ s else (.silent, s)
  | .changed uri version texts =>
    match texts.getLast?, s.documents.get? uri with
    | some text, some _ => keep setup uri ⟨text, version⟩ s
    | _, _ => (.silent, s)
  | .saved uri text =>
    match s.documents.get? uri with
    | some doc => keep setup uri { doc with content := text.getD doc.content } s
    | none => (.silent, s)
  | .closed uri =>
    match s.documents.get? uri with
    | some _ =>
      (.sending [.publish uri none []],
        { s with documents := s.documents.erase uri, store := s.store.erase uri })
    | none => (.silent, s)
  | .symbolsRequest uri =>
    (.replying (.symbols ((s.documents.get? uri).map (SolverInput.symbols ·.content))), s)
  | .unreadableNotice => (.silent, s)

/-- Outside a running session requests are refused and notices dropped, except those that lead to
the next phase. -/
def receive (setup : Setup) (e : Event) : StateM Session Answer := fun s =>
  match s.phase, e with
  | .exited, _ => (.replying (.refused .exited), s)
  | _, .exitNotice => (.silent, { s with phase := .exited })
  | .running, e => handle setup e s
  | .uninitialized, .initializeRequest => (.replying .capabilities, { s with phase := .running })
  | .uninitialized, e =>
    (if e.isRequest then .replying (.refused .notInitialized) else .silent, s)
  | .shutDown, e => (if e.isRequest then .replying (.refused .invalidRequest) else .silent, s)

/-- A document that the program asks about is checked in each phase, but nothing is sent once the
session is over. -/
def act (setup : Setup) : Action → StateM Session Answer
  | .event e => receive setup e
  | .republish uri => fun s =>
    let (answer, s) := publish setup uri s
    (if s.phase = .exited then .silent else answer, s)

def run (setup : Setup) (as : List Action) : StateM Session (List Answer) :=
  as.mapM (act setup)

end Session

end SolverInput
