import Courier.Payload.Flow

/-!
Files. A disk gives names to files and holds their contents. A file that was opened by its name stays
readable after the name is gone, and a file written anew under its name changes for those who hold it
open.
-/
namespace Courier

/-- How many bytes of a file one read yields at most. -/
def fileChunkLength : Nat := 4096

/-- The contents of all files, each file known by its place, and the names that lead to them. -/
structure Disk where
  contents : List Bytes := []
  names : List (String × Nat) := []
  deriving DecidableEq, Repr

namespace Disk

def bytes (disk : Disk) (file : Nat) : Bytes := disk.contents.getD file []

/-- Why no file of this name can be opened: a name that no file system takes, a name below a file that is
no directory, or no file. -/
def refusal (disk : Disk) (name : String) : String :=
  if name.toList.contains '\x00' then "file name contained an unexpected NUL byte"
  else if 4096 ≤ name.utf8ByteSize || (name.splitOn "/").any (255 < ·.utf8ByteSize) then
    "File name too long (os error 36)"
  else if disk.names.any fun (file, _) => (file ++ "/").toList.isPrefixOf name.toList then
    "Not a directory (os error 20)"
  else "No such file or directory (os error 2)"

def find (disk : Disk) (name : String) : Except String Nat :=
  match disk.names.find? fun (file, _) => file == name with
  | some (_, file) => .ok file
  | none => .error (disk.refusal name)

def write (disk : Disk) (name : String) (data : Bytes) : Disk :=
  match disk.find name with
  | .ok file => { disk with contents := disk.contents.set file data }
  | .error _ => ⟨disk.contents ++ [data], disk.names ++ [(name, disk.contents.length)]⟩

def remove (disk : Disk) (name : String) : Disk :=
  { disk with names := disk.names.filter fun (file, _) => file != name }

/-- What is left of a file after `offset` bytes, in chunks; `fuel` is at least their number. -/
def chunksFrom : Nat → Bytes → List Item
  | 0, _ => []
  | fuel + 1, rest =>
    if rest.isEmpty then []
    else .chunk (rest.take fileChunkLength) :: chunksFrom fuel (rest.drop fileChunkLength)

end Disk

/-- An opened stream: items that wait in a queue, or a file with the number of bytes already read. -/
inductive Stream where
  | queue (flow : Flow)
  | file (place offset : Nat)
  deriving DecidableEq, Repr

inductive Pull where
  | item (item : Item)
  | ended
  | waiting
  deriving DecidableEq, Repr

namespace Stream

/-- All that the stream has still to yield, with the files as they are. -/
def flow (disk : Disk) : Stream → Flow
  | queue flow => flow
  | file place offset =>
    let rest := (disk.bytes place).drop offset
    ⟨Disk.chunksFrom rest.length rest, false⟩

/-- Asks for the next item. A file that has come to its end stays ended. -/
def next (disk : Disk) : Stream → Pull × Stream
  | queue ⟨[], stalls⟩ => (if stalls then .waiting else .ended, queue ⟨[], stalls⟩)
  | queue ⟨item :: items, stalls⟩ => (.item item, queue ⟨items, stalls⟩)
  | file place offset =>
    let chunk := ((disk.bytes place).drop offset).take fileChunkLength
    if chunk.isEmpty then (.ended, queue ⟨[], false⟩)
    else (.item (.chunk chunk), file place (offset + chunk.length))

/-- What is left of a stream after it was read to the end or to its first error. -/
def afterDrain : Stream → Stream
  | queue ⟨items, stalls⟩ =>
    queue ⟨(items.dropWhile fun item => item matches .chunk _).drop 1, stalls⟩
  | file .. => queue ⟨[], false⟩

end Stream

end Courier
