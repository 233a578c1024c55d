/-! # Files as a command sees them

A command reads files by their paths and meets the errors of the operating system. It never writes:
what it wants to have written it returns as data.
-/

namespace Rotorcraft

/-- Why a file operation fails. -/
inductive FileError where
  | notFound
  | notADirectory
  | isADirectory
  | alreadyExists
  | nameTooLong
  | nulInName
  | notUtf8
  /-- Another error, in the words of the operating system. -/
  | other (text : String)
deriving DecidableEq, Repr

def FileError.message : FileError → String
  | .notFound => "No such file or directory (os error 2)"
  | .notADirectory => "Not a directory (os error 20)"
  | .isADirectory => "Is a directory (os error 21)"
  | .alreadyExists => "File exists (os error 17)"
  | .nameTooLong => "File name too long (os error 36)"
  | .nulInName => "file name contained an unexpected NUL byte"
  | .notUtf8 => "stream did not contain valid UTF-8"
  | .other text => text

/-- What a command can learn about files. -/
structure Files where
  /-- The bytes of a file. -/
  read : String → Except FileError (List UInt8)
  /-- Whether a path leads to a file. -/
  isFile : String → Bool
  /-- Whether a path leads to a file or directory. -/
  isPresent : String → Bool

def Files.readText (files : Files) (path : String) : Except FileError String := do
  let bytes ← files.read path
  match String.fromUTF8? ⟨bytes.toArray⟩ with
  | some text => .ok text
  | none => .error .notUtf8

/-- Files of which only what came of reading some paths is known. -/
def Files.ofReadings (readings : List (String × Except FileError (List UInt8))) : Files where
  read path := (readings.lookup path).getD (.error .notFound)
  isFile path := match readings.lookup path with
    | some (.ok _) => true
    | _ => false
  isPresent path := match readings.lookup path with
    | some (.ok _) | some (.error .isADirectory) | some (.error (.other _)) => true
    | _ => false

/-- Files and directories to be made. -/
structure WritePlan where
  /-- Made first, with all directories above it. -/
  directory : String
  /-- The paths to write, each with a name for messages and its contents. -/
  files : List (String × String × List UInt8)

namespace Path

/-- The path of an entry of a directory; an absolute path stays as it is. -/
def join (directory entry : String) : String :=
  if entry.toList.head? = some '/' then entry
  else if directory.isEmpty then entry
  else if directory.toList.getLast? = some '/' then directory ++ entry
  else directory ++ "/" ++ entry

/-- Drops slashes and lone dots from the end of a path, given from its end, but not the first one. -/
def trimEnd : List Char → List Char
  | ['/'] => ['/']
  | '/' :: rest => trimEnd rest
  | '.' :: '/' :: rest => trimEnd ('/' :: rest)
  | chars => chars

/-- The directory part of a path; a bare name lies in the current directory. -/
def directoryOf (path : String) : String :=
  match path.toList.reverse.dropWhile (· != '/') with
  | [] => "."
  | chars => String.ofList (trimEnd chars).reverse

end Path
end Rotorcraft
