import Rotorcraft.Pass

/-! # The transfer stage

A requested path is loaded from its asset. The request is consumed whether or not the load succeeds;
a failed load is logged and never ends the tick of an actor.
-/

namespace Rotorcraft

/-- What a transfer stage has counted. -/
structure TransferCounters where
  bytesCopied : Nat := 0
  unavailable : Nat := 0
deriving DecidableEq, Repr, Inhabited

namespace TransferStage

def unavailableEvent (frame : Frame) (actor : Actor) (key : String) : Event :=
  frame.event (.assetUnavailable actor.id key) (actor.name ++ " could not load '" ++ key ++ "'")

def copyFailedEvent (frame : Frame) (actor : Actor) (key : String) (error : CopyError) : Event :=
  frame.event (.copyFailed actor.id key)
    (actor.name ++ " could not copy '" ++ key ++ "': " ++ error.message)

/-- Stores the payload of an asset in the path of an actor. -/
def store (frame : Frame) (counters : TransferCounters) (actor : Actor) (key : String)
    (bytes : List UInt8) : TransferCounters × Pass :=
  match CountedBuffer.copy bytes actor.path with
  | .ok (copied, path) =>
    ({ counters with bytesCopied := counters.bytesCopied + copied },
      { actor := { actor with path := path, pathLength := UInt64.ofNat copied }
        calls := [.load key] })
  | .error error =>
    (counters,
      { actor := actor
        events := [copyFailedEvent frame actor key error]
        calls := [.load key] })

def load (frame : Frame) (counters : TransferCounters) (actor : Actor) (key : String) :
    TransferCounters × Pass :=
  match frame.host.asset? key with
  | some bytes => store frame counters actor key bytes
  | none =>
    ({ counters with unavailable := counters.unavailable + 1 },
      { actor := actor
        events := [unavailableEvent frame actor key]
        calls := [.load key] })

def run (frame : Frame) (counters : TransferCounters) (actor : Actor) : TransferCounters × Pass :=
  if !actor.hasFlag .reloadPath then (counters, .silent actor)
  else
    let consumed := actor.clearFlag .reloadPath
    match consumed.pathAsset with
    | none => (counters, .silent consumed)
    | some key => load frame counters consumed key

end TransferStage
end Rotorcraft
