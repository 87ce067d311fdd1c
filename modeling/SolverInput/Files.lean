import SolverInput.Text

namespace SolverInput

inductive PathError where
  | missing
  /-- Something on the way is not a directory. -/
  | notDirectory
  | denied
  | tooLong
  /-- The path holds a character that no name can hold. -/
  | badName
  /-- Any other trouble, by the number and the description that the system has for it. -/
  | other (number : Nat) (description : Text)
  deriving DecidableEq, Repr

def PathError.message : PathError → Text
  | missing => "No such file or directory (os error 2)".toList
  | notDirectory => "Not a directory (os error 20)".toList
  | denied => "Permission denied (os error 13)".toList
  | tooLong => "File name too long (os error 36)".toList
  | badName => "file name contained an unexpected NUL byte".toList
  | other number description =>
    description ++ " (os error ".toList ++ Nat.toDigits 10 number ++ [')']

inductive Entry where
  | file (bytes : ByteArray)
  | directory
  /-- Something that is there, but cannot be opened or not be read to its end. -/
  | locked (cause : PathError)

/-- What each path leads to, as long as nothing changes. It leads nowhere if already asking whether
there is something fails. -/
structure FileSystem where
  lookup : Text → Except PathError Entry

inductive ReadError where
  | path (e : PathError)
  | isDirectory
  | notUtf8
  deriving DecidableEq, Repr

def ReadError.message : ReadError → Text
  | path e => e.message
  | isDirectory => "Is a directory (os error 21)".toList
  | notUtf8 => "stream did not contain valid UTF-8".toList

def Entry.readText : Entry → Except ReadError Text
  | directory => .error .isDirectory
  | locked cause => .error (.path cause)
  | file bytes =>
    match String.fromUTF8? bytes with
    | some s => .ok s.toList
    | none => .error .notUtf8

namespace FileSystem

/-- Whether there is anything at a path, be it a file or a directory, and may it be read or not. -/
def hasEntry (fs : FileSystem) (path : Text) : Bool :=
  match fs.lookup path with
  | .ok _ => true
  | .error _ => false

def readText (fs : FileSystem) (path : Text) : Except ReadError Text :=
  match fs.lookup path with
  | .error e => .error (.path e)
  | .ok entry => entry.readText

end FileSystem

end SolverInput
