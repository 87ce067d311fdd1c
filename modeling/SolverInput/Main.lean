import SolverInput.Check
import SolverInput.Session.Wire

namespace SolverInput.Main

/-- The trouble that the system reports by a number. -/
def pathErrorOfCode (number : UInt32) (description : String) : PathError :=
  match number with
  | 2 => .missing
  | 13 => .denied
  | 20 => .notDirectory
  | 36 => .tooLong
  | _ => .other number.toNat description.toList

def pathError : IO.Error → PathError
  | .alreadyExists _ n d | .otherError n d | .resourceBusy n d | .resourceVanished n d
  | .unsupportedOperation n d | .hardwareFault n d | .unsatisfiedConstraints n d
  | .illegalOperation n d | .protocolError n d | .timeExpired n d | .interrupted _ n d
  | .noFileOrDirectory _ n d | .invalidArgument _ n d | .permissionDenied _ n d
  | .resourceExhausted _ n d | .inappropriateType _ n d | .noSuchThing _ n d =>
    pathErrorOfCode n d
  | .unexpectedEof => .other 5 "Input/output error".toList
  | .userError d => .other 5 d.toList

/-- What stands at a path on disk. When it cannot be read, the way to it tells whether it is there.
The code 21 is that of a directory. -/
def readEntry (path : Text) : IO (Except PathError Entry) := do
  if path.contains '\x00' then return .error .badName
  let name := String.ofList path
  try
    let bytes ← IO.FS.readBinFile name
    return .ok (.file bytes)
  catch
    | .inappropriateType _ 21 _ => return .ok .directory
    | e =>
      try
        let _ ← IO.FS.realPath name
        return .ok (.locked (pathError e))
      catch _ => return .error (pathError e)

/-- The part of the file system that lies at some paths. -/
def readPaths (paths : List Text) : IO FileSystem := do
  let found ← paths.mapM fun p => do return (p, ← readEntry p)
  return ⟨fun p => (found.lookup p).getD (.error .missing)⟩

/-- The number of the user that a process runs for, from what the system says of the process. -/
def userNumber? (status : Text) : Option Text :=
  (lines status).findSome? fun l => match words l with
    | [key, number, _, _, _] => if key = "Uid:".toList then some number else none
    | _ => none

/-- The home directory of a user in the table of accounts. -/
def accountHome? (accounts number : Text) : Option Text :=
  (lines accounts).findSome? fun l => match l.splitOnP (· == ':') with
    | [_, _, n, _, _, home, _] => if n = number then some home else none
    | _ => none

def readAccountHome : IO (Option Text) := do
  try
    let status ← IO.FS.readFile "/proc/self/status"
    let accounts ← IO.FS.readFile "/etc/passwd"
    return (userNumber? status.toList).bind (accountHome? accounts.toList)
  catch _ => return none

def environment : IO Environment := do
  let readVariable (name : String) : IO (Option Text) := do
    return (← IO.getEnv name).map String.toList
  return {
    home := ← readVariable "HOME"
    accountHome := ← readAccountHome
    configHome := ← readVariable "XDG_CONFIG_HOME"
    logFilter := ← readVariable "RUST_LOG" }

/-- The reasons of the parsers here are not kept, only that there are some. -/
def wording : Wording := fun format _ =>
  "no ".toList ++ format.name ++ " of this form".toList

def pathsOf (p : Program) (env : Environment) (ws : List Text) : List Text :=
  match Options.ofWords p ws with
  | .ok o => env.userFiles ++ o.keywords ++ o.files
  | .error _ => []

def printLog (events : List LogEvent) : IO Unit :=
  events.forM fun e => IO.eprintln (String.ofList (e.level.name ++ ' ' :: e.message))

def check (ws : List Text) : IO UInt32 := do
  let env ← environment
  let fs ← readPaths (pathsOf .checker env ws)
  let o := Outcome.ofWords fs env ws
  printLog o.log
  IO.print (String.ofList o.output)
  if let some e := o.error then
    IO.eprintln (String.ofList ("sif-check: ".toList ++ e.message wording))
  return o.status.toUInt32

/-- Reads exactly so many bytes, or fewer at the end of the input. -/
partial def readBytes (input : IO.FS.Stream) (count : Nat) (done : ByteArray) : IO ByteArray := do
  if done.size ≥ count then return done
  let more ← input.read (count - done.size).toUSize
  if more.isEmpty then return done
  readBytes input count (done ++ more)

/-- Reads the header of a message; gives the length of its content. -/
partial def readLength (input : IO.FS.Stream) (length : Nat) : IO (Option Nat) := do
  let line ← input.getLine
  if line.isEmpty then return none
  let line := trim line.toList
  if line.isEmpty then return some length
  let (name, value) := line.span (· != ':')
  if name.map Char.toLower = "content-length".toList then
    readLength input (decimalValue (trim (value.drop 1)))
  else
    readLength input length

def send (output : IO.FS.Stream) (j : Json) : IO Unit := do
  let content := String.ofList (Json.write .compact j)
  output.putStr ("Content-Length: " ++ toString content.utf8ByteSize ++ "\r\n\r\n" ++ content)
  output.flush

partial def serve (setup : Setup) (input output : IO.FS.Stream) (s : Session) : IO Unit := do
  let some length ← readLength input 0 | return
  let content ← readBytes input length .empty
  let some call := (String.fromUTF8? content).bind fun text => Json.read? text.toList
    | serve setup input output s
  let method := ((call.field? "method".toList).bind Json.string?).getD []
  let params := (call.field? "params".toList).getD .null
  let some event := Event.ofCall? method params | serve setup input output s
  let (answer, s) := Session.receive setup event s
  if s.phase = .exited then return
  answer.sent.forM fun m => send output m.toJson
  match answer.reply, call.field? "id".toList with
  | some r, some id => send output (r.toJson id)
  | _, _ => pure ()
  serve setup input output s

def serveSession (ws : List Text) : IO UInt32 := do
  let env ← environment
  let fs ← readPaths (pathsOf .server env ws)
  match Setup.ofWords wording fs env ws with
  | .error e =>
    let o := Outcome.ofUsageError .server e
    IO.print (String.ofList o.output)
    return o.status.toUInt32
  | .ok (setup, events) =>
    printLog events
    serve setup (← IO.getStdin) (← IO.getStdout) .start
    return 0

end SolverInput.Main

/-- The name under which the program is started says which one it is. -/
def main (args : List String) : IO UInt32 := do
  let ws := args.map String.toList
  if (toString (← IO.appPath)).endsWith "sif-ls" then SolverInput.Main.serveSession ws
  else SolverInput.Main.check ws
