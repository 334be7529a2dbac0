/-!
# Checksums

The checksums by which file formats detect damage: the cyclic redundancy check of ZIP and PNG, the same
check with the highest bit of each byte first, and the sum of compressed data in PNG.
-/

namespace SlideDeck.Bytes

/-- The cyclic redundancy check after a further bit. -/
def crcBit (crc : UInt32) : UInt32 :=
  if crc &&& 1 = 1 then (crc >>> 1) ^^^ 0xEDB88320 else crc >>> 1

/-- The cyclic redundancy check after a further byte. -/
def crcByte (crc : UInt32) (byte : UInt8) : UInt32 :=
  let mixed := crc ^^^ byte.toUInt32
  crcBit <| crcBit <| crcBit <| crcBit <| crcBit <| crcBit <| crcBit <| crcBit mixed

/-- The cyclic redundancy check of bytes. -/
def crc32 (bytes : ByteArray) : UInt32 := bytes.foldl crcByte 0xFFFFFFFF ^^^ 0xFFFFFFFF

/-- The cyclic redundancy check after a further bit, if the highest bit of a byte comes first. -/
def crcHighBit (crc : UInt32) : UInt32 :=
  if crc &&& 0x80000000 = 0 then crc <<< 1 else (crc <<< 1) ^^^ 0x04C11DB7

/-- The cyclic redundancy check after a further byte, the highest bit of which comes first. -/
def crcHighByte (crc : UInt32) (byte : UInt8) : UInt32 :=
  let mixed := crc ^^^ (byte.toUInt32 <<< 24)
  crcHighBit <| crcHighBit <| crcHighBit <| crcHighBit <|
    crcHighBit <| crcHighBit <| crcHighBit <| crcHighBit mixed

/-- The cyclic redundancy check of bytes, the highest bit of each of which comes first. -/
def crc32High (bytes : ByteArray) : UInt32 := bytes.foldl crcHighByte 0xFFFFFFFF ^^^ 0xFFFFFFFF

/-- The sum of compressed data: the sum of all bytes and the sum of the sums so far, each modulo the
greatest prime below `2 ^ 16`. -/
def adler32 (bytes : ByteArray) : Nat :=
  let step (sums : Nat × Nat) (byte : UInt8) : Nat × Nat :=
    let low := (sums.1 + byte.toNat) % 65521
    (low, (sums.2 + low) % 65521)
  let (low, high) := bytes.foldl step (1, 0)
  65536 * high + low

end SlideDeck.Bytes
