import Rotorcraft.Command.Program

/-! # The command line

The outermost layer: it reads the files that a command needs, lets the command work on what was
read, and writes what the command asks for.
-/

namespace Rotorcraft.CommandLine

/-- The file error of a number, which may be negated, and a text that the system gives. -/
def numberedError (number : UInt32) (text : String) : FileError :=
  match number.toInt32.toInt.natAbs with
  | 2 => .notFound
  | 17 => .alreadyExists
  | 20 => .notADirectory
  | 21 => .isADirectory
  | 36 => .nameTooLong
  | number => .other (text ++ " (os error " ++ toString number ++ ")")

def fileError : IO.Error → FileError
  | .alreadyExists _ number text | .interrupted _ number text | .noFileOrDirectory _ number text
  | .invalidArgument _ number text | .permissionDenied _ number text
  | .resourceExhausted _ number text | .inappropriateType _ number text
  | .noSuchThing _ number text | .otherError number text | .resourceBusy number text
  | .resourceVanished number text | .unsupportedOperation number text
  | .hardwareFault number text | .unsatisfiedConstraints number text
  | .illegalOperation number text | .protocolError number text
  | .timeExpired number text => numberedError number text
  | error => .other error.toString

def attempt {α : Type} (operation : IO α) : IO (Except FileError α) := do
  match ← operation.toBaseIO with
  | .ok value => pure (.ok value)
  | .error error => pure (.error (fileError error))

def reading (path : String) : IO (String × Except FileError (List UInt8)) := do
  let bytes ← attempt (IO.FS.readBinFile path)
  pure (path, bytes.map fun bytes => bytes.toList)

/-- The files that a command on the scenario at `path` needs. -/
def scenarioFiles (path : String) : IO Files := do
  let first ← reading path
  let keys := match Command.loadScenario (.ofReadings [first]) path with
    | .ok scenario => Command.assetKeys scenario
    | .error _ => []
  pure (.ofReadings (first :: (← keys.mapM fun key => reading (Command.assetPath path key))))

def drawnIds (seed : UInt64) : IdSupply :=
  let draw (index : Nat) : Uuid :=
    let ((high, low), _) := (do
      let high ← RandomSource.next
      let low ← RandomSource.next
      pure (high, low) : StateM RandomSource (UInt64 × UInt64)).run
        ⟨seed + UInt64.ofNat index * 0xD1342543DE82EF95⟩
    .random high low
  ⟨fun index => ⟨draw (2 * index)⟩, fun index => ⟨draw (2 * index + 1)⟩⟩

def settle (path : String) : Except FileError Unit → IO (Except FileError Unit)
  | .ok () => pure (.ok ())
  | .error error => do
    match ← attempt (IO.FS.readBinFile path) with
    | .error .isADirectory => pure (.ok ())
    | _ => pure (.error error)

/-- Makes a directory, given by its parts from the last to the first, and what is missing above it,
as `FileTree.makeMissing` does it. -/
def makeMissing : List String → IO (Except FileError Unit)
  | [] => pure (.ok ())
  | last :: parents => do
    let path := (last :: parents).reverse.foldl Path.join ""
    match ← attempt (IO.FS.createDir path) with
    | .error .notFound =>
      match ← makeMissing parents with
      | .error error => pure (.error error)
      | .ok () => settle path (← attempt (IO.FS.createDir path))
    | made => settle path made

def makeDirectories (path : String) : IO (Except FileError Unit) :=
  makeMissing (FileTree.namedParts path).reverse

def carryOut (plan : WritePlan) : IO (Except CommandError Unit) := do
  if let .error error ← makeDirectories plan.directory then
    return .error (.cannotMakeDirectory error)
  for (path, label, bytes) in plan.files do
    if let .error error ← attempt (IO.FS.writeBinFile path ⟨bytes.toArray⟩) then
      return .error (.cannotWrite label error)
  return .ok ()

/-- Prints what a command answers; gives the exit code. -/
def report : Except CommandError String → IO UInt32
  | .ok output => do
    IO.print output
    pure 0
  | .error .capacityOverflow => do
    IO.eprintln CommandError.capacityOverflow.message
    pure 101
  | .error error => do
    IO.eprintln ("error: " ++ error.message)
    pure 1

/-- Does what a command line asks for; gives the exit code. -/
def perform (seed : UInt64) (styled : Bool) : Invocation → IO UInt32
  | .init name count seed => do
    match Command.init (.ofReadings [← reading name]) name count seed with
    | .error error => report (.error error)
    | .ok (plan, output) => report ((← carryOut plan).map fun _ => output)
  | .check path => do
    report (Command.check (← scenarioFiles path) (drawnIds seed) styled path)
  | .run path ticks verbose json => do
    report (Command.run (← scenarioFiles path) (drawnIds seed)
      ⟨ticks, verbose, json, styled⟩ path)
  | .version program => report (.ok (Program.versionLine program))
  | .help => report (.ok Program.usage)

end Rotorcraft.CommandLine

def main (arguments : List String) : IO UInt32 := do
  match Rotorcraft.Arguments.parse? arguments with
  | none =>
    IO.eprint Rotorcraft.Program.usage
    pure 2
  | some invocation =>
    let seed := UInt64.ofNat (← IO.rand 0 (UInt64.size - 1))
    Rotorcraft.CommandLine.perform seed (← (← IO.getStdout).isTty) invocation
