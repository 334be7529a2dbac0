import SlideDeck.Archive.Zip
import SlideDeck.Text.CodePage437
import SlideDeck.Text.Lossy

/-!
# The directory of an archive

The directory says of each entry what it is called and where its content is. It is found from the end of
the archive: the last record tells its offset, and as other bytes may precede the archive, all offsets are
shifted by what that offset is off. Large archives have a further record with wider numbers, which a
locator in front of the last record points to.
-/

namespace SlideDeck.Archive

/-! ## Finding the directory -/

/-- Where the directory starts, how many records it has, and by how much offsets are shifted. -/
structure Whereabouts where
  start : Nat
  count : Nat
  shift : Nat
deriving Repr, DecidableEq

/-- The last offset up to a given one at which there is a mark, of so many offsets. -/
def lastMark? (bytes : ByteArray) (mark : Nat) : (limit offset : Nat) → Option Nat
  | 0, _ => none
  | limit + 1, offset =>
    if Bytes.littleEndian? bytes offset 4 = some mark then some offset
    else if offset = 0 then none
    else lastMark? bytes mark limit (offset - 1)

/-- The first offset from a given one on at which there is a mark, of so many offsets. -/
def firstMark? (bytes : ByteArray) (mark : Nat) : (limit offset : Nat) → Option Nat
  | 0, _ => none
  | limit + 1, offset =>
    if Bytes.littleEndian? bytes offset 4 = some mark then some offset
    else firstMark? bytes mark limit (offset + 1)

/-- The greatest number in so many bytes. It stands for one that does not fit. -/
def greatest (count : Nat) : Nat := 2 ^ (8 * count) - 1

/-- What the last record of an archive says: its own disk and that of the directory, the count of entries
on this disk and in all, size and offset of the directory, and the length of a comment. -/
structure EndRecord where
  disk : Nat
  directoryDisk : Nat
  countHere : Nat
  count : Nat
  size : Nat
  offset : Nat
  commentLength : Nat

/-- The last record, at an offset. The comment behind it must be there. -/
def endRecord? (bytes : ByteArray) (offset : Nat) : Option EndRecord := do
  let number (place count : Nat) : Option Nat := Bytes.littleEndian? bytes (offset + place) count
  let commentLength ← number 20 2
  let _ ← Bytes.part? bytes (offset + 22) commentLength
  pure
    { disk := ← number 4 2
      directoryDisk := ← number 6 2
      countHere := ← number 8 2
      count := ← number 10 2
      size := ← number 12 4
      offset := ← number 16 4
      commentLength }

/-- Whether a number of the last record does not fit into it. -/
def EndRecord.isTooSmall (record : EndRecord) : Bool :=
  [record.disk, record.directoryDisk, record.countHere, record.count].contains (greatest 2) ||
    [record.size, record.offset].contains (greatest 4)

/-- The mark at the start of the locator of the wider record. -/
def locatorMark : Nat := 0x07064B50

/-- The mark at the start of the wider record. -/
def wideMark : Nat := 0x06064B50

/-- Where the directory is by the wider record, which starts at the offset that its locator tells or
behind it, as far as bytes precede the archive, and in front of the last record, at `last`. -/
def wideWhereabouts? (bytes : ByteArray) (last locator : Nat) (record : EndRecord) :
    Option Whereabouts := do
  let disk ← Bytes.littleEndian? bytes (locator + 4) 4
  let nominal ← Bytes.littleEndian? bytes (locator + 8) 8
  if !record.isTooSmall && record.disk ≠ disk then none
  -- the wider record takes 56 bytes at least
  if last < 60 then none
  let wide ← firstMark? bytes wideMark (last - 60 + 1 - nominal) nominal
  let number (place count : Nat) : Option Nat := Bytes.littleEndian? bytes (wide + place) count
  if (← number 16 4) ≠ (← number 20 4) then none
  let start := (← number 48 8) + (wide - nominal)
  pure ⟨start, ← number 32 8, wide - nominal⟩

/-- Where the directory of an archive is. -/
def whereabouts? (bytes : ByteArray) : Option Whereabouts := do
  if bytes.size < 22 then none
  let last ← lastMark? bytes endMark 65536 (bytes.size - 22)
  let record ← endRecord? bytes last
  if !record.isTooSmall && record.disk ≠ record.directoryDisk then none
  let behind := 42 + record.commentLength
  if behind ≤ bytes.size &&
      Bytes.littleEndian? bytes (bytes.size - behind) 4 == some locatorMark then
    wideWhereabouts? bytes last (bytes.size - behind) record
  else
    if last < record.size + record.offset then none
    let shift := last - record.size - record.offset
    pure ⟨record.offset + shift, record.countHere, shift⟩

/-! ## Records -/

/-- What the directory says of an entry: its name, the number of the method by which it is packed, whether
it is encrypted and whether strongly so, the check of its content, its size unpacked and packed, and where
its header starts. -/
structure Record where
  name : String
  method : Nat
  encrypted : Bool
  strong : Bool
  check : Nat
  size : Nat
  packedSize : Nat
  offset : Nat
deriving Repr, DecidableEq

/-- Reads a wide number from a place on, if the number that is known does not fit. -/
def widened? (fields : ByteArray) (place number : Nat) : Option (Nat × Nat) :=
  if number = greatest 4 then
    (Bytes.littleEndian? fields place 8).map fun wide => (wide, place + 8)
  else some (number, place)

/-- The record with the numbers that an extra field tells, as far as they are there, and the place behind
them if all are. -/
def Record.widened (record : Record) (fields : ByteArray) (place : Nat) : Record × Option Nat :=
  match widened? fields place record.size with
  | none => (record, none)
  | some (size, place) =>
    let record := { record with size }
    match widened? fields place record.packedSize with
    | none => (record, none)
    | some (packedSize, place) =>
      let record := { record with packedSize }
      match widened? fields place record.offset with
      | none => (record, none)
      | some (offset, place) => ({ record with offset }, some place)

/-- The number of the method by which strongly encrypted entries are packed. -/
def strongMethod : Nat := 99

/-- The record of an entry that an extra field tells to be strongly encrypted: the field has one of two
versions, its maker, one of three strengths, and the method that is used within. -/
def Record.strengthened? (record : Record) (fields : ByteArray) (place : Nat) : Option Record :=
  match Bytes.littleEndian? fields place 2, Bytes.littleEndian? fields (place + 2) 2,
    Bytes.littleEndian? fields (place + 4) 1, Bytes.littleEndian? fields (place + 5) 2 with
  | some version, some maker, some strength, some method =>
    if maker = 0x4541 && [1, 2].contains version && [1, 2, 3].contains strength then
      some { record with method, encrypted := true, strong := true }
    else none
  | _, _, _, _ => some record

/-- The record with what extra fields tell, of which there are at most `limit` from a place on. A field
that is not all there ends them. -/
def Record.withFields? (fields : ByteArray) : (limit : Nat) → (place : Nat) → Record → Option Record
  | 0, _, record => some record
  | limit + 1, place, record =>
    match Bytes.littleEndian? fields place 2, Bytes.littleEndian? fields (place + 2) 2 with
    | some kind, some length =>
      let start := place + 4
      if kind = 1 then
        match record.widened fields start with
        | (record, none) => some record
        | (record, some stop) => withFields? fields limit (max stop (start + length)) record
      else if kind = 0x9901 then
        if length ≠ 7 then none
        -- what the field holds is passed over once more
        else (record.strengthened? fields start).bind (withFields? fields limit (start + 14))
      else withFields? fields limit (start + length) record
    | _, _ => some record

/-- The text of a name. -/
def nameText (utf8 : Bool) (bytes : ByteArray) : String :=
  if utf8 then Text.Lossy.decode bytes else Text.CodePage437.decode bytes

/-- The record at an offset, and where the next one starts. Offsets of headers are shifted. -/
def record? (bytes : ByteArray) (shift offset : Nat) : Option (Record × Nat) := do
  let number (place count : Nat) : Option Nat := Bytes.littleEndian? bytes (offset + place) count
  if (← number 0 4) ≠ recordMark then none
  let flags ← number 8 2
  let nameLength ← number 28 2
  let fieldsLength ← number 30 2
  let commentLength ← number 32 2
  let nameBytes ← Bytes.part? bytes (offset + 46) nameLength
  let fields ← Bytes.part? bytes (offset + 46 + nameLength) fieldsLength
  let _ ← Bytes.part? bytes (offset + 46 + nameLength + fieldsLength) commentLength
  let record : Record :=
    { name := nameText (flags / 2 ^ 11 % 2 == 1) nameBytes
      method := ← number 10 2
      encrypted := flags % 2 == 1
      strong := false
      check := ← number 16 4
      packedSize := ← number 20 4
      size := ← number 24 4
      offset := ← number 42 4 }
  let told ← record.withFields? fields (fieldsLength + 1) 0
  if record.method = strongMethod && !told.strong then none
  if 2 ^ 64 ≤ told.offset + shift then none
  pure ({ told with offset := told.offset + shift },
    offset + 46 + nameLength + fieldsLength + commentLength)

/-- So many records, the first of which is at an offset. -/
def records? (bytes : ByteArray) (shift : Nat) : (count offset : Nat) → Option (List Record)
  | 0, _ => some []
  | count + 1, offset => do
    let (record, next) ← record? bytes shift offset
    let rest ← records? bytes shift count next
    pure (record :: rest)

/-- The directory of an archive, if the bytes are one. -/
def directory? (bytes : ByteArray) : Option (List Record) := do
  let whereabouts ← whereabouts? bytes
  records? bytes whereabouts.shift whereabouts.count whereabouts.start

end SlideDeck.Archive
