import SlideDeck.Bytes.Checksum
import SlideDeck.Bytes.Word

/-!
# ZIP archives

An archive holds its entries one after another, each behind a header with its name, then a directory
with a record for each entry, and at its end a record that says where the directory is. `encode` stores
the entries as they are.
-/

namespace SlideDeck.Archive

/-- An entry of an archive. -/
structure Entry where
  name : String
  content : ByteArray

/-- Whether an entry stands for a folder, which has no content. -/
def isFolder (name : String) : Bool :=
  name.toList.getLast? == some '/' || name.toList.getLast? == some '\\'

/-! ## Marks -/

/-- The mark at the start of an entry. -/
def entryMark : Nat := 0x04034B50

/-- The mark at the start of a record of the directory. -/
def recordMark : Nat := 0x02014B50

/-- The mark at the start of the last record. -/
def endMark : Nat := 0x06054B50

/-! ## Writing -/

/-- What headers and records say alike of an entry: the version that is needed, that the name is UTF-8,
that the content is stored as it is, the first day of the calendar, check, sizes and length of the name,
and that nothing is added to it. -/
def description (entry : Entry) : List (Nat × Nat) :=
  [(2, 20), (2, 0x0800), (2, 0), (2, 0), (2, 0x0021), (4, (Bytes.crc32 entry.content).toNat),
    (4, entry.content.size), (4, entry.content.size), (2, entry.name.utf8ByteSize), (2, 0)]

/-- An entry behind its header. -/
def entryBytes (entry : Entry) : ByteArray :=
  Bytes.fields ((4, entryMark) :: description entry) ++ entry.name.toUTF8 ++ entry.content

/-- The attributes of a regular file that all may read and its owner may write. -/
def regularFile : Nat := 0o100644 * 2 ^ 16

/-- The record of an entry that starts at an offset. -/
def recordBytes (offset : Nat) (entry : Entry) : ByteArray :=
  Bytes.fields ([(4, recordMark), (2, 0x0314)] ++ description entry ++
    [(2, 0), (2, 0), (2, 0), (4, regularFile), (4, offset)]) ++ entry.name.toUTF8

/-- The archive of entries. -/
def encode (entries : List Entry) : ByteArray :=
  let (body, directory) := entries.foldl
    (fun (body, directory) entry =>
      let record := recordBytes body.size entry
      (body ++ entryBytes entry, directory ++ record))
    (ByteArray.empty, ByteArray.empty)
  body ++ directory ++ Bytes.fields
    [(4, endMark), (2, 0), (2, 0), (2, entries.length), (2, entries.length),
      (4, directory.size), (4, body.size), (2, 0)]

end SlideDeck.Archive
