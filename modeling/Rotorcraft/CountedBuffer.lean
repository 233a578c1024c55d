/-! # Counted buffers

A counted buffer starts with the length of its payload as four little-endian bytes. A copy moves
the payload as whole four-byte words and then at most one two-byte half word; an odd last byte
belongs to no unit and stays behind.
-/

namespace Rotorcraft

/-- Why a counted buffer could not be copied. -/
inductive CopyError where
  | missingHeader (length : Nat)
  | sourceTruncated (expected actual : Nat)
  | destinationTooSmall (needed capacity : Nat)
deriving DecidableEq, Repr

def CopyError.message : CopyError → String
  | .missingHeader length =>
    "source buffer has no count header (" ++ toString length ++ " bytes)"
  | .sourceTruncated expected actual =>
    "source payload truncated: header says " ++ toString expected ++ " bytes, found " ++
      toString actual
  | .destinationTooSmall needed capacity =>
    "destination too small: need " ++ toString needed ++ " bytes, have " ++ toString capacity

namespace CountedBuffer

/-- The number that four bytes hold, least significant first. -/
def ofLittleEndian (b0 b1 b2 b3 : UInt8) : Nat :=
  b0.toNat + 0x100 * b1.toNat + 0x10000 * b2.toNat + 0x1000000 * b3.toNat

def littleEndian (number : Nat) : List UInt8 :=
  [UInt8.ofNat number, UInt8.ofNat (number / 0x100), UInt8.ofNat (number / 0x10000),
    UInt8.ofNat (number / 0x1000000)]

/-- The payload length that a header announces, and the bytes behind the header. -/
def header? : List UInt8 → Option (Nat × List UInt8)
  | b0 :: b1 :: b2 :: b3 :: payload => some (ofLittleEndian b0 b1 b2 b3, payload)
  | _ => none

def payloadLength (source : List UInt8) : Except CopyError Nat :=
  match header? source with
  | some (length, _) => .ok length
  | none => .error (.missingHeader source.length)

/-- Moves up to `count` whole words from the front of `payload` to the front of `target`, and then
half a word if `half` holds. -/
def moveUnits : Nat → Bool → List UInt8 → List UInt8 → List UInt8
  | count + 1, half, a :: b :: c :: d :: payload, _ :: _ :: _ :: _ :: target =>
    a :: b :: c :: d :: moveUnits count half payload target
  | 0, true, a :: b :: _, _ :: _ :: target => a :: b :: target
  | _, _, _, target => target

/-- Copies the payload of `source` over the front of `target`; gives the number of bytes moved and
the new contents. -/
def copy (source target : List UInt8) : Except CopyError (Nat × List UInt8) :=
  match header? source with
  | none => .error (.missingHeader source.length)
  | some (length, payload) =>
    let needed := length / 4 * 4 + length % 4 / 2 * 2
    if length = 0 then .ok (0, target)
    else if payload.length < needed then .error (.sourceTruncated needed payload.length)
    else if target.length < needed then .error (.destinationTooSmall needed target.length)
    else .ok (needed, moveUnits (length / 4) (length % 4 / 2 == 1) payload target)

/-- The counted buffer around a payload. -/
def wrap (payload : List UInt8) : List UInt8 :=
  littleEndian payload.length ++ payload

end CountedBuffer
end Rotorcraft
