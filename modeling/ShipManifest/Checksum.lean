import ShipManifest.Text.Bytes

/-!
# Checksums

The checksum is CRC-32 with the reversed polynomial `0xEDB88320`: the state starts with all bits set, takes in the bytes
from the lowest bit on, and is complemented at the end.
-/

namespace ShipManifest.Checksum

/-- Takes one bit into the state. -/
def step (state : UInt32) : UInt32 :=
  if state &&& 1 = 1 then (state >>> 1) ^^^ 0xEDB88320 else state >>> 1

/-- Takes `n` bits into the state. -/
def steps : Nat → UInt32 → UInt32
  | 0, state => state
  | n + 1, state => steps n (step state)

/-- Takes one byte into the state. -/
def addByte (state : UInt32) (byte : UInt8) : UInt32 :=
  steps 8 (state ^^^ byte.toUInt32)

/-- The checksum of the bytes. -/
def ofBytes (bytes : Text.Bytes) : UInt32 :=
  ~~~ bytes.foldl addByte 0xFFFFFFFF

/-- The checksum of the text's UTF-8 form. -/
def ofText (s : String) : UInt32 :=
  ofBytes (Text.encode s)

end ShipManifest.Checksum
