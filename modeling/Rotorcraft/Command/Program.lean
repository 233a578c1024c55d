import Rotorcraft.Command.Arguments
import Rotorcraft.Command.Sample

/-! # The program on a file tree

What the program answers to a command line when the files are those of a tree.
-/

namespace Rotorcraft

/-- What the program leaves behind. -/
structure ProgramResult where
  exitCode : Nat
  output : String := ""
  /-- Why a command failed. -/
  failure : Option CommandError := none
  files : FileTree

namespace Program

def versionLine (program : String) : String :=
  Command.text [program ++ " 0.1.0"]

def usage : String :=
  Command.text ["Usage: rw <init|check|run> [options]"]

/-- The result of a command that fails: the error is reported, unless the program stops before it can be. -/
def failed (tree : FileTree) : CommandError → ProgramResult
  | .capacityOverflow => { exitCode := 101, files := tree }
  | error => { exitCode := 1, failure := some error, files := tree }

def printed (tree : FileTree) : Except CommandError String → ProgramResult
  | .ok output => { exitCode := 0, output := output, files := tree }
  | .error error => failed tree error

def written (tree : FileTree) (planned : Except CommandError (WritePlan × String)) :
    ProgramResult :=
  match planned with
  | .error error => failed tree error
  | .ok (plan, output) =>
    match plan.applyTo tree with
    | .error error => failed tree error
    | .ok tree => { exitCode := 0, output := output, files := tree }

def perform (tree : FileTree) (ids : IdSupply) : Invocation → ProgramResult
  | .init name count seed => written tree (Command.init tree.toFiles name count seed)
  | .check path => printed tree (Command.check tree.toFiles ids false path)
  | .run path ticks verbose json =>
    printed tree (Command.run tree.toFiles ids ⟨ticks, verbose, json, false⟩ path)
  | .version program => { exitCode := 0, output := versionLine program, files := tree }
  | .help => { exitCode := 0, output := usage, files := tree }

/-- Answers a command line; a fault of usage prints nothing here. -/
def run (tree : FileTree) (ids : IdSupply) (arguments : List String) : ProgramResult :=
  match Arguments.parse? arguments with
  | some invocation => perform tree ids invocation
  | none => { exitCode := 2, files := tree }

end Program
end Rotorcraft
