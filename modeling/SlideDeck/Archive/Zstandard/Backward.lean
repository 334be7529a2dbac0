import SlideDeck.Archive.Decoding
import SlideDeck.Number.Power

/-!
# Bits from the end

Some bits are read in the reverse of the order in which they were written: from the last byte on, behind
its highest one.
-/

namespace SlideDeck.Archive.Zstandard

/-- The number in `count` bits from a place on, the lowest bit first. What is not there counts as zeros. -/
def bitsAt (bytes : ByteArray) (place count : Nat) : Nat :=
  let first := place / 8
  let byteCount := (place % 8 + count + 7) / 8
  let number := (List.range byteCount).foldr
    (fun i higher => (bytes[first + i]?.getD 0).toNat + 256 * higher) 0
  (number >>> (place % 8)) % 2 ^ count

/-- Bytes, and how many of their bits are still to be read. -/
structure Backward where
  bytes : ByteArray
  left : Nat

namespace Backward

/-- The bits of bytes. Behind the last of them there is a one, then zeros up to a whole byte. -/
def ofBytes? (bytes : ByteArray) : Option Backward :=
  match bytes[bytes.size - 1]? with
  | none => none
  | some last => if last = 0 then none else some ⟨bytes, 8 * (bytes.size - 1) + last.toNat.log2⟩

/-- The number in the next bits. What is not there counts as zeros. -/
def peek (bits : Backward) (count : Nat) : Nat :=
  if count ≤ bits.left then bitsAt bits.bytes (bits.left - count) count
  else bitsAt bits.bytes 0 bits.left * 2 ^ (count - bits.left)

/-- Passes over bits, if they are there. -/
def skip? (bits : Backward) (count : Nat) : Option Backward :=
  if count ≤ bits.left then some { bits with left := bits.left - count } else none

/-- Reads the number in the next bits, if they are there. -/
def read? (bits : Backward) (count : Nat) : Option (Nat × Backward) :=
  (bits.skip? count).map fun rest => (bits.peek count, rest)

end Backward

/-- A value that must be there for bits to make sense. -/
def orDamaged {α : Type} : Option α → Except Stop α
  | some value => .ok value
  | none => .error .damaged

/-- Stops at bits that make no sense, unless a condition holds. -/
def demand (condition : Bool) (stop : Stop) : Except Stop Unit :=
  if condition then .ok () else .error stop

end SlideDeck.Archive.Zstandard
