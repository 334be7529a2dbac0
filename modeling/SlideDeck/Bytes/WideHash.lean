import SlideDeck.Bytes.Word

/-!
# A wide hash

A hash of 64 bits that detects damage: four sums take turns at words of 64 bits and are then merged, the
rest of the bytes is mixed in, and at last the bits are mixed with each other.
-/

namespace SlideDeck.Bytes.WideHash

/-- The constants of the hash, which are prime. -/
def primes : Fin 5 → UInt64
  | 0 => 0x9E3779B185EBCA87
  | 1 => 0xC2B2AE3D27D4EB4F
  | 2 => 0x165667B19E3779F9
  | 3 => 0x85EBCA77C2B2AE63
  | 4 => 0x27D4EB2F165667C5

/-- The word with its bits moved to the left, and those that fall out put in at the right. -/
def rotate (word : UInt64) (count : UInt64) : UInt64 :=
  (word <<< count) ||| (word >>> (64 - count))

/-- A sum after a further word. -/
def round (sum word : UInt64) : UInt64 := rotate (sum + word * primes 1) 31 * primes 0

/-- The number in `count` bytes from an offset, the lowest byte first. -/
def word (bytes : ByteArray) (offset count : Nat) : UInt64 :=
  UInt64.ofNat ((littleEndian? bytes offset count).getD 0)

/-- The four sums after so many groups of four words. -/
def sums (bytes : ByteArray) (groups : Nat) : List UInt64 :=
  (List.range groups).foldl
    (fun sums group => sums.zipIdx.map fun (sum, i) => round sum (word bytes (32 * group + 8 * i) 8))
    [primes 0 + primes 1, primes 1, 0, 0 - primes 0]

/-- The sums as one word. -/
def merged (sums : List UInt64) : UInt64 :=
  let joined := (sums.zip [1, 7, 12, 18]).foldl (fun total (sum, count) => total + rotate sum count) 0
  sums.foldl (fun total sum => (total ^^^ round 0 sum) * primes 0 + primes 3) joined

/-- The hash after the rest of the bytes, which are fewer than four words: words, at most one half, and
bytes. -/
def withRest (hash : UInt64) (bytes : ByteArray) (offset : Nat) : UInt64 :=
  let left := bytes.size - offset
  let hash := (List.range (left / 8)).foldl
    (fun hash i =>
      rotate (hash ^^^ round 0 (word bytes (offset + 8 * i) 8)) 27 * primes 0 + primes 3) hash
  let offset := offset + left / 8 * 8
  let left := left % 8
  let hash := if left < 4 then hash
    else rotate (hash ^^^ (word bytes offset 4 * primes 0)) 23 * primes 1 + primes 2
  let offset := offset + left / 4 * 4
  (List.range (left % 4)).foldl
    (fun hash i => rotate (hash ^^^ (word bytes (offset + i) 1 * primes 4)) 11 * primes 0) hash

/-- The word with its bits mixed with each other. -/
def mixed (hash : UInt64) : UInt64 :=
  let hash := (hash ^^^ (hash >>> 33)) * primes 1
  let hash := (hash ^^^ (hash >>> 29)) * primes 2
  hash ^^^ (hash >>> 32)

/-- The hash of bytes. -/
def hash (bytes : ByteArray) : UInt64 :=
  let groups := bytes.size / 32
  let start := if groups = 0 then primes 4 else merged (sums bytes groups)
  mixed (withRest (start + UInt64.ofNat bytes.size) bytes (32 * groups))

end SlideDeck.Bytes.WideHash
