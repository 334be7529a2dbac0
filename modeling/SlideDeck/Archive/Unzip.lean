import SlideDeck.Archive.Directory
import SlideDeck.Archive.Method

/-!
# Reading archives

The entries of an archive are read in the order of its directory. The first one that cannot be read stops
it, and `Fault` says which one that is, and why.
-/

namespace SlideDeck.Archive

/-- Why an entry cannot be read. -/
inductive EntryFault where
  | encrypted
  /-- The archive ends in its header. -/
  | cut
  | noHeader
  | unknownMethod
deriving Repr, DecidableEq

/-- The wording of a fault. -/
def EntryFault.message : EntryFault → String
  | .encrypted => "unsupported Zip archive: Password required to decrypt file"
  | .cut => "failed to fill whole buffer"
  | .noHeader => "invalid Zip archive: Invalid local file header"
  | .unknownMethod => "unsupported Zip archive: Compression method not supported"

/-- Why an archive cannot be read. -/
inductive Fault where
  | notAnArchive
  | entry (index : Nat) (cause : EntryFault)
  | content (name : String) (cause : ContentFault)
deriving Repr, DecidableEq

/-- Where the content of an entry starts, whose header is at an offset. -/
def contentStart (bytes : ByteArray) (offset : Nat) : Except EntryFault Nat :=
  match Bytes.littleEndian? bytes offset 4 with
  | none => .error .cut
  | some mark =>
    if mark ≠ entryMark then .error .noHeader
    else match Bytes.littleEndian? bytes (offset + 26) 2, Bytes.littleEndian? bytes (offset + 28) 2 with
      | some nameLength, some fieldsLength => .ok (offset + 30 + nameLength + fieldsLength)
      | _, _ => .error .cut

/-- The method by which an entry is packed, and its packed content, as far as it is there. -/
def packedContent (bytes : ByteArray) (record : Record) : Except EntryFault (Method × ByteArray) := do
  if record.encrypted then .error .encrypted
  let start ← contentStart bytes record.offset
  match Method.ofNumber? record.method with
  | none => .error .unknownMethod
  | some method =>
    let stop := min bytes.size (start + record.packedSize)
    .ok (method, bytes.extract start stop)

/-- The content of an entry, which must fit its check. -/
def content (record : Record) (method : Method) (packed : ByteArray) :
    Except ContentFault ByteArray := do
  let content ← match method.unpack packed with
    | .ok content => .ok content
    | .error stop => .error (.packed method stop)
  if (Bytes.crc32 content).toNat ≠ record.check then .error .check
  .ok content

/-- The entry with an index, of which the directory has this record. -/
def entry (bytes : ByteArray) (index : Nat) (record : Record) : Except Fault Entry := do
  let (method, packed) ← (packedContent bytes record).mapError (Fault.entry index)
  let content ← if isFolder record.name then .ok ByteArray.empty
    else (content record method packed).mapError (Fault.content record.name)
  .ok ⟨record.name, content⟩

/-- The entries of an archive. -/
def decode (bytes : ByteArray) : Except Fault (List Entry) :=
  match directory? bytes with
  | none => .error .notAnArchive
  | some records => records.zipIdx.mapM fun (record, index) => entry bytes index record

end SlideDeck.Archive
