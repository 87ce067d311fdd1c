import SolverInput.CommandLine
import SolverInput.Json.Reader
import SolverInput.Session

namespace SolverInput

def Position.toJson (p : Position) : Json :=
  .object [("line".toList, .ofNat p.line.toNat), ("character".toList, .ofNat p.character.toNat)]

def Range.toJson (r : Range) : Json :=
  .object [("start".toList, r.start.toJson), ("end".toList, r.stop.toJson)]

/-- The number of a warning in the protocol. -/
def warningSeverity : Nat :=
  2

def Diagnostic.toJson (d : Diagnostic) : Json :=
  .object
    [("range".toList, d.range.toJson),
      ("severity".toList, .ofNat warningSeverity),
      ("source".toList, .string Finding.source),
      ("message".toList, .string d.message)]

/-- The number of a namespace among the kinds of symbol. -/
def namespaceKind : Nat :=
  3

def Symbol.toJson (s : Symbol) : Json :=
  .object
    ([("name".toList, .string s.name)] ++
      (s.detail.map fun d => ("detail".toList, Json.string d)).toList ++
      [("kind".toList, .ofNat namespaceKind),
        ("deprecated".toList, .bool false),
        ("range".toList, s.range.toJson),
        ("selectionRange".toList, s.selection.toJson)])

namespace Message

def method : Message → Text
  | log _ => "window/logMessage".toList
  | showError _ => "window/showMessage".toList
  | publish _ _ _ => "textDocument/publishDiagnostics".toList

/-- Type 3 marks information and type 1 an error. -/
def params : Message → Json
  | log text => .object [("type".toList, .ofNat 3), ("message".toList, .string text)]
  | showError text => .object [("type".toList, .ofNat 1), ("message".toList, .string text)]
  | publish uri version diagnostics =>
    .object
      ([("uri".toList, .string uri),
        ("diagnostics".toList, .array (diagnostics.map Diagnostic.toJson))] ++
        (version.map fun v => ("version".toList, Json.ofInt v.toInt)).toList)

end Message

/-- What the server can do: symbols, and documents that are sent whole at each change and when
saved. -/
def capabilities : Json :=
  .object
    [("capabilities".toList, .object
      [("textDocumentSync".toList, .object
          [("openClose".toList, .bool true),
            ("change".toList, .ofNat 1),
            ("save".toList, .object [("includeText".toList, .bool true)])]),
        ("documentSymbolProvider".toList, .bool true)]),
      ("serverInfo".toList, .object
        [("name".toList, .string Program.server.name),
          ("version".toList, .string versionNumber)])]

/-- The code of a refusal. None is sent once the session is over. -/
def Refusal.code? : Refusal → Option Int
  | notInitialized => some (-32002)
  | invalidRequest => some (-32600)
  | exited => none

/-- What a reply carries, or why the request is refused. -/
def Reply.toResult : Reply → Except Refusal Json
  | capabilities => .ok SolverInput.capabilities
  | null => .ok .null
  | symbols .none => .ok .null
  | symbols (some list) => .ok (.array (list.map Symbol.toJson))
  | refused r => .error r

/-- A message of the server, ready to be framed. -/
def Message.toJson (m : Message) : Json :=
  .object
    [("jsonrpc".toList, .string "2.0".toList),
      ("method".toList, .string m.method),
      ("params".toList, m.params)]

/-- A reply to the request of this identifier. -/
def Reply.toJson (id : Json) (r : Reply) : Json :=
  let outcome := match r.toResult with
    | .ok v => ("result".toList, v)
    | .error e => ("error".toList, Json.object
        [("code".toList, .ofInt (e.code?.getD 0)), ("message".toList, .string [])])
  .object [("jsonrpc".toList, .string "2.0".toList), ("id".toList, id), outcome]

namespace Event

/-- The member at the end of a path of names. -/
def member? (v : Json) (path : List String) : Option Json :=
  path.foldlM (fun v name => v.field? name.toList) v

def text? (v : Json) (path : List String) : Option Text :=
  (member? v path).bind Json.string?

/-- A version, if it fits 32 bits. -/
def versionOfInt? (i : Int) : Option Int32 :=
  if (Int32.ofInt i).toInt = i then some (.ofInt i) else none

def version? (v : Json) (path : List String) : Option Int32 :=
  match member? v path with
  | some (.number ⟨negative, digits, 0⟩) => versionOfInt? (if negative then -digits else digits)
  | _ => none

def ofOpenParams? (params : Json) : Option Event := do
  some (opened (← text? params ["textDocument", "uri"])
    (← text? params ["textDocument", "languageId"]) (← version? params ["textDocument", "version"])
    (← text? params ["textDocument", "text"]))

def ofChangeParams? (params : Json) : Option Event := do
  match params.field? "contentChanges".toList with
  | some (.array changes) =>
    some (changed (← text? params ["textDocument", "uri"])
      (← version? params ["textDocument", "version"]) (← changes.mapM (text? · ["text"])))
  | _ => none

/-- The event that a method and its parameters stand for. -/
def ofCall? (method : Text) (params : Json) : Option Event :=
  let uri := text? params ["textDocument", "uri"]
  match String.ofList method with
  | "initialize" => some initializeRequest
  | "initialized" => some initializedNotice
  | "shutdown" => some shutdownRequest
  | "exit" => some exitNotice
  | "textDocument/didOpen" => some ((ofOpenParams? params).getD unreadableNotice)
  | "textDocument/didChange" => some ((ofChangeParams? params).getD unreadableNotice)
  | "textDocument/didSave" =>
    some ((uri.map (saved · (text? params ["text"]))).getD unreadableNotice)
  | "textDocument/didClose" => some ((uri.map closed).getD unreadableNotice)
  | "textDocument/documentSymbol" => uri.map symbolsRequest
  | _ => none

end Event

end SolverInput
