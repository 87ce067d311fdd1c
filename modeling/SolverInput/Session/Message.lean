import SolverInput.Finding
import SolverInput.Outline
import SolverInput.Text

namespace SolverInput

/-- A place in a document as the client counts it: a line and a distance in UTF-16 code units. -/
structure Position where
  line : UInt32
  character : UInt32
  deriving DecidableEq

structure Range where
  start : Position
  stop : Position
  deriving DecidableEq

/-- The line and two columns as a range of the protocol. -/
def Range.ofColumns (line start stop : Nat) : Range :=
  ⟨⟨line.toUInt32, start.toUInt32⟩, ⟨line.toUInt32, stop.toUInt32⟩⟩

/-- A finding as the client is told of it. -/
structure Diagnostic where
  range : Range
  message : Text
  deriving DecidableEq

/-- Columns pass unchanged: up to the end of a keyword each character is one code unit. -/
def Finding.toDiagnostic (f : Finding) : Diagnostic :=
  ⟨.ofColumns f.line f.start f.stop, f.message⟩

/-- A section of a document as the client is told of it. -/
structure Symbol where
  name : Text
  detail : Option Text
  range : Range
  /-- The range of the header. -/
  selection : Range
  deriving DecidableEq

/-- The length of a line, zero if there is no such line. -/
def lineLength (ls : List Text) (i : Nat) : UInt32 :=
  match ls[i]? with
  | some l => (units16 l).toUInt32
  | none => 0

/-- Whole lines, from the beginning of the first to the end of the last. -/
def Range.ofLines (ls : List Text) (first last : Nat) : Range :=
  ⟨⟨first.toUInt32, 0⟩, ⟨last.toUInt32, lineLength ls last⟩⟩

def Span.toSymbol (ls : List Text) (s : Span) : Symbol where
  name := s.title
  detail := s.kind.map Section.id
  range := .ofLines ls s.start s.stop
  selection := .ofLines ls s.start s.start

/-- The sections of a text, measured on the lines that the client has. -/
def symbols (text : Text) : List Symbol :=
  (outline text).map (·.toSymbol (lines text))

/-- What the server sends on its own account. -/
inductive Message where
  | log (text : Text)
  | showError (text : Text)
  /-- All findings of a document, in place of those sent before. -/
  | publish (uri : Text) (version : Option Int32) (diagnostics : List Diagnostic)
  deriving DecidableEq

end SolverInput
