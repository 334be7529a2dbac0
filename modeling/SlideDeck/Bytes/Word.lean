import SlideDeck.Number.Power

/-!
# Numbers in bytes

File formats store numbers in a fixed count of bytes, with the lowest or the highest byte first.
-/

namespace SlideDeck.Bytes

/-! ## Reading -/

/-- The number in `count` bytes from an offset, the lowest byte first. -/
def littleEndian? (bytes : ByteArray) (offset : Nat) : (count : Nat) → Option Nat
  | 0 => some 0
  | count + 1 => do
    let low ← bytes[offset]?
    let high ← littleEndian? bytes (offset + 1) count
    pure (low.toNat + 256 * high)

/-- The number in `count` bytes from an offset, the highest byte first. -/
def bigEndian? (bytes : ByteArray) (offset count : Nat) : Option Nat :=
  (List.range count).foldlM (fun value i => do
    let byte ← bytes[offset + i]?
    pure (256 * value + byte.toNat)) 0

/-- The signed number in four bytes from an offset, the lowest byte first. -/
def signed32? (bytes : ByteArray) (offset : Nat) : Option Int := do
  let value ← littleEndian? bytes offset 4
  pure (if value < 2 ^ 31 then value else (value : Int) - 2 ^ 32)

/-- Whether the bytes from an offset are the given ones. -/
def hasBytes (bytes : ByteArray) (offset : Nat) (expected : List Nat) : Bool :=
  bigEndian? bytes offset expected.length ==
    some (expected.foldl (fun value byte => 256 * value + byte) 0)

/-- The bytes of a part of the given length, if all of it is there. -/
def part? (bytes : ByteArray) (offset length : Nat) : Option ByteArray :=
  if offset + length ≤ bytes.size then some (bytes.extract offset (offset + length)) else none

/-! ## Writing -/

/-- The lowest `count` bytes of a number, the lowest first. -/
def littleEndian : (count value : Nat) → List UInt8
  | 0, _ => []
  | count + 1, value => UInt8.ofNat (value % 256) :: littleEndian count (value / 256)

/-- The lowest `count` bytes of a number, the highest first. -/
def bigEndian (count value : Nat) : List UInt8 := (littleEndian count value).reverse

/-- Numbers one after another, each with its count of bytes, the lowest byte first. -/
def fields (numbers : List (Nat × Nat)) : ByteArray :=
  ⟨(numbers.flatMap fun (count, value) => littleEndian count value).toArray⟩

end SlideDeck.Bytes
