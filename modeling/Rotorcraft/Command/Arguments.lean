import Rotorcraft.Command

/-! # Command-line arguments

An option has a long name and may have a short one. The value of an option is the next argument, or
follows an equals sign, or follows the short name directly; short names may be put together. No
option may be given twice, and behind `--` nothing is an option. Arguments are taken from left to
right, so that the first fault or request for the version decides.
-/

namespace Rotorcraft

/-- What a command line asks for. -/
inductive Invocation where
  | init (name : String) (count seed : Nat)
  | check (path : String)
  | run (path : String) (ticks : Nat) (verbose json : Bool)
  /-- The version, under the name of the program or of one of its commands. -/
  | version (program : String)
  | help
deriving DecidableEq, Repr

namespace Arguments

/-- What an option takes. -/
inductive ValueKind where
  | nothing
  /-- A number below `2 ^ 64`, which may have a plus sign. -/
  | number
  /-- A nonempty path. -/
  | path
deriving DecidableEq, Repr

/-- An option of a command. -/
structure Switch where
  long : String
  short : Option Char
  kind : ValueKind
deriving DecidableEq, Repr

/-- The options and other arguments of a command that have been taken. -/
structure Taken where
  options : List (String × String) := []
  names : List String := []
deriving DecidableEq, Repr

/-- How the arguments of a command end. -/
inductive Outcome where
  | taken (taken : Taken)
  | version
  | help
deriving DecidableEq, Repr

/-- A number below `2 ^ 64` in decimal digits, which may have a plus sign. -/
def number? (text : String) : Option Nat :=
  let digits := match text.toList with
    | '+' :: rest => rest
    | chars => chars
  if digits.isEmpty || !digits.all Json.isDigit then none
  else
    let value := Json.ofDigits digits
    if value < UInt64.size then some value else none

def ValueKind.accepts (kind : ValueKind) (value : String) : Bool :=
  match kind with
  | .nothing => true
  | .number => (number? value).isSome
  | .path => !value.isEmpty

/-- Whether an argument stands for options and not for a value. -/
def isDashed (argument : String) : Bool :=
  match argument.toList with
  | '-' :: _ :: _ => true
  | _ => false

/-- Takes an option with its value, unless it has been given before or the value is wrong. -/
def take (taken : Taken) (switch : Switch) (value : String) : Option Taken :=
  if (taken.options.lookup switch.long).isSome || !switch.kind.accepts value then none
  else some { taken with options := taken.options ++ [(switch.long, value)] }

/-- What the short names put together in one argument amount to. -/
inductive Cluster where
  | taken (taken : Taken)
  /-- The last of them waits for its value. -/
  | waiting (taken : Taken) (switch : Switch)
  | version
  | help

/-- Takes short names put together. -/
def takeCluster (switches : List Switch) (taken : Taken) : List Char → Option Cluster
  | [] => some (.taken taken)
  | c :: rest =>
    match switches.find? fun switch => switch.short == some c with
    | some switch =>
      if switch.kind = .nothing then do takeCluster switches (← take taken switch "") rest
      else match rest with
        | [] => some (.waiting taken switch)
        | '=' :: value => (take taken switch (String.ofList value)).map .taken
        | value => (take taken switch (String.ofList value)).map .taken
    | none => if c = 'V' then some .version else if c = 'h' then some .help else none

/-- Takes a long name, with its value if there is an equals sign. -/
def takeLong (switches : List Switch) (taken : Taken) (chars : List Char) : Option Cluster :=
  let name := String.ofList (chars.takeWhile (· != '='))
  let value := (chars.dropWhile (· != '=')).drop 1
  let hasValue := chars.contains '='
  match switches.find? fun switch => switch.long == name with
  | some switch =>
    if switch.kind = .nothing then
      if hasValue then none else (take taken switch "").map .taken
    else if hasValue then (take taken switch (String.ofList value)).map .taken
    else some (.waiting taken switch)
  | none =>
    if hasValue then none
    else if name = "version" then some .version
    else if name = "help" then some .help
    else none

/-- Takes an argument that stands for options. -/
def takeDashed (switches : List Switch) (taken : Taken) (argument : String) : Option Cluster :=
  match argument.toList with
  | '-' :: '-' :: name => takeLong switches taken name
  | '-' :: names => takeCluster switches taken names
  | _ => none

def takeName (room : Nat) (taken : Taken) (name : String) : Option Taken :=
  if taken.names.length < room then some { taken with names := taken.names ++ [name] } else none

/-- Takes the arguments of a command; `waiting` is an option whose value comes next. -/
def takeAll (switches : List Switch) (room : Nat) (taken : Taken) (waiting : Option Switch) :
    List String → Option Outcome
  | [] => if waiting.isSome then none else some (.taken taken)
  | argument :: rest =>
    match waiting with
    | some switch =>
      if isDashed argument then none
      else do takeAll switches room (← take taken switch argument) none rest
    | none =>
      if argument = "--" then (rest.foldlM (takeName room) taken).map .taken
      else if isDashed argument then
        match takeDashed switches taken argument with
        | some (.taken taken) => takeAll switches room taken none rest
        | some (.waiting taken switch) => takeAll switches room taken (some switch) rest
        | some .version => some .version
        | some .help => some .help
        | none => none
      else do takeAll switches room (← takeName room taken argument) none rest

def numberOf (taken : Taken) (long : String) (fallback : Nat) : Nat :=
  ((taken.options.lookup long).bind number?).getD fallback

def scenarioOf (taken : Taken) : String :=
  (taken.options.lookup "scenario").getD "scenario.json"

def scenarioSwitch : Switch := ⟨"scenario", some 's', .path⟩

def initSwitches : List Switch :=
  [⟨"entities", some 'e', .number⟩, ⟨"seed", some 's', .number⟩]

def runSwitches : List Switch :=
  [scenarioSwitch, ⟨"ticks", some 't', .number⟩, ⟨"verbose", some 'v', .nothing⟩,
    ⟨"json", none, .nothing⟩]

def command (name : String) (switches : List Switch) (room : Nat) (arguments : List String)
    (build : Taken → Option Invocation) : Option Invocation := do
  match ← takeAll switches room {} none arguments with
  | .taken taken => build taken
  | .version => pure (.version ("rw-" ++ name))
  | .help => pure .help

def commandNames : List String :=
  ["init", "check", "run", "help"]

/-- Reads a command line; `none` is a fault of usage. Help is given on one command at most. -/
def parse? : List String → Option Invocation
  | "init" :: rest => command "init" initSwitches 1 rest fun taken =>
    taken.names.head?.map fun name =>
      .init name (numberOf taken "entities" 4) (numberOf taken "seed" 42)
  | "check" :: rest => command "check" [scenarioSwitch] 0 rest fun taken =>
    some (.check (scenarioOf taken))
  | "run" :: rest => command "run" runSwitches 0 rest fun taken =>
    some (.run (scenarioOf taken) (numberOf taken "ticks" 16)
      (taken.options.lookup "verbose").isSome (taken.options.lookup "json").isSome)
  | "help" :: topics =>
    if topics.length ≤ 1 ∧ topics.all commandNames.contains then some .help else none
  | argument :: _ =>
    if !isDashed argument then none
    else match takeDashed [] {} argument with
      | some .version => some (.version "rw")
      | some .help => some .help
      | _ => none
  | [] => none

end Arguments
end Rotorcraft
