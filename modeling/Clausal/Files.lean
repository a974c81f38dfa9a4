import Clausal.Text.Quoted
import Clausal.Xz

/-!
# Files

A file tree as a value: names of files and directories below one working directory. Nothing is known of
what lies around it, except that everything above it is a directory. Directories on the way to a name
exist with it. A path is looked up component by component, so a path that goes through a file is told
apart from one that leads nowhere. Names and paths have a greatest length, counted in bytes.

A file holds bytes, or a packed form of bytes, of which only these are known. Which of the two a reader
expects is decided by the end of the path alone: a file is unpacked if and only if its path ends in `.xz`.
-/

namespace Clausal

/-- What a file holds. -/
inductive Content where
  /-- Bytes as they are. -/
  | plain (bytes : List UInt8)
  /-- A packed form of these bytes. -/
  | packed (bytes : List UInt8)

/-- What a name stands for. -/
inductive Node where
  /-- A file. -/
  | file (content : Content)
  /-- A directory. -/
  | directory

/-- Why a file cannot be read. -/
inductive FileFault where
  /-- Nothing has this path. -/
  | notFound (path : String)
  /-- The path leads through something that is not a directory. -/
  | notADirectory (path : String)
  /-- The path names a directory. -/
  | isADirectory (path : String)
  /-- A file stands where a directory is to be made. -/
  | alreadyThere (path : String)
  /-- The path, or a name in it, is too long. -/
  | tooLong (path : String)
  /-- The path holds the character that ends paths. -/
  | endMark
  /-- The bytes cannot be unpacked. -/
  | notUnpacked (refusal : Xz.Refusal)
  /-- The packed bytes end too early. -/
  | cutStream
  /-- The bytes are not UTF-8. -/
  | notUtf8 (error : Text.Utf8Error)
deriving DecidableEq

namespace FileFault

/-- Two hexadecimal digits. -/
def byteText (byte : UInt8) : String :=
  "0x" ++ String.ofList (Text.hexDigits 2 byte.toNat)

/-- What is wrong with bytes that are not UTF-8. -/
def causeText : Text.Utf8Cause → String
  | .invalidStart => "invalid start byte"
  | .invalidContinuation => "invalid continuation byte"
  | .unexpectedEnd => "unexpected end of data"

/-- The sentence that reports bytes that are not UTF-8. -/
def utf8Text (error : Text.Utf8Error) : String :=
  let place := if error.length = 1 then
      s!"byte {byteText error.byte} in position {error.position}"
    else s!"bytes in position {error.position}-{error.position + error.length - 1}"
  s!"'utf-8' codec can't decode {place}: {causeText error.cause}"

/-- The sentence that reports a fault. -/
def message : FileFault → String
  | notFound path => s!"[Errno 2] No such file or directory: {Text.quoted path}"
  | notADirectory path => s!"[Errno 20] Not a directory: {Text.quoted path}"
  | isADirectory path => s!"[Errno 21] Is a directory: {Text.quoted path}"
  | alreadyThere path => s!"[Errno 17] File exists: {Text.quoted path}"
  | tooLong path => s!"[Errno 36] File name too long: {Text.quoted path}"
  | endMark => "embedded null byte"
  | notUnpacked refusal => refusal.message
  | cutStream => "Compressed file ended before the end-of-stream marker was reached"
  | notUtf8 error => utf8Text error

/-- The fault is about finding or opening the file, not about what it holds, nor about a path that is
none. -/
def isAccess : FileFault → Bool
  | notFound _ | notADirectory _ | isADirectory _ | alreadyThere _ | tooLong _ => true
  | endMark | notUnpacked _ | cutStream | notUtf8 _ => false

/-- The fault of unpacking that does not come to its end. -/
def ofStop : Xz.Stop → FileFault
  | .cut => cutStream
  | .refused refusal => notUnpacked refusal

end FileFault

/-- Files and directories below the working directory. -/
structure Files where
  /-- Each name, as its components, with what it stands for. -/
  entries : List (List String × Node)

namespace Files

/-- No file and no directory. -/
def empty : Files := ⟨[]⟩

/-- The parts of a path between its slashes. -/
def parts (path : String) : List String :=
  (path.toList.splitOn '/').map String.ofList

/-- The components of a path, without empty ones and those that stand for the same directory. -/
def components (path : String) : List String :=
  (parts path).filter fun part => part ≠ "" ∧ part ≠ "."

/-- The path of a name in a directory. -/
def under (directory name : String) : String :=
  if directory.isEmpty || directory.endsWith "/" then directory ++ name
  else directory ++ "/" ++ name

/-- Puts a file or a directory at a path; what was there before is replaced. -/
def put (files : Files) (path : String) (node : Node) : Files :=
  let name := components path
  if files.entries.any (·.1 == name) then
    ⟨files.entries.map fun entry => if entry.1 == name then (name, node) else entry⟩
  else ⟨files.entries ++ [(name, node)]⟩

/-- What stands at the given components. A directory exists with everything below it. -/
def node? (files : Files) (name : List String) : Option Node :=
  match files.entries.find? (·.1 == name) with
  | some (_, node) => some node
  | none =>
    if name.isEmpty || files.entries.any fun entry => name.isPrefixOf entry.1 then
      some .directory
    else none

/-- Why a path leads nowhere. -/
inductive Miss where
  /-- A component does not exist. -/
  | absent
  /-- A component that is to be gone through is a file. -/
  | blocked
  /-- The path or a component is too long. -/
  | tooLong
  /-- The path holds the character that ends paths. -/
  | endMark

/-- The fault of a path that leads nowhere. -/
def Miss.fault (path : String) : Miss → FileFault
  | absent => .notFound path
  | blocked => .notADirectory path
  | tooLong => .tooLong path
  | endMark => .endMark

/-- The greatest number of bytes in a name. -/
def nameLimit : Nat := 255

/-- The least number of bytes that is too much for a path. -/
def pathLimit : Nat := 4096

/-- Follows components from a directory. -/
def follow (files : Files) (here : List String) : List String → Except Miss Node
  | [] => match files.node? here with
    | none => .error .absent
    | some node => .ok node
  | part :: rest =>
    match files.node? here with
    | none => .error .absent
    | some (.file _) => .error .blocked
    | some .directory =>
      if part = ".." then
        if !here.isEmpty then follow files here.dropLast rest
        else if rest.all (· = "..") then .ok .directory
        else .error .absent
      else if nameLimit < part.utf8ByteSize then .error .tooLong
      else follow files (here ++ [part]) rest

/-- Follows components from the root of all directories, of which nothing else is known. -/
def followFromRoot : List String → Except Miss Node
  | [] => .ok .directory
  | part :: _ => .error (if nameLimit < part.utf8ByteSize then .tooLong else .absent)

/-- What a path leads to. A path that ends like that of a directory does not lead to a file. -/
def resolve (files : Files) (path : String) : Except Miss Node :=
  if path.toList.contains (Char.ofNat 0) then .error .endMark
  else if pathLimit ≤ path.utf8ByteSize then .error .tooLong
  else if path.isEmpty then .error .absent
  else if path.startsWith "/" then followFromRoot (components path)
  else match files.follow [] (components path) with
    | .error miss => .error miss
    | .ok .directory => .ok .directory
    | .ok (.file content) =>
      let final := (parts path).getLast?
      if final = some "" ∨ final = some "." then .error .blocked else .ok (.file content)

/-- Something stands at the path. -/
def has (files : Files) (path : String) : Bool :=
  (files.resolve path).toBool

/-- The content of the file at a path. -/
def content (files : Files) (path : String) : Except FileFault Content :=
  match files.resolve path with
  | .error miss => .error (miss.fault path)
  | .ok .directory => .error (.isADirectory path)
  | .ok (.file content) => .ok content

/-! ## Making directories -/

/-- A path cut before its last name, without the slashes in between; a path that ends in a slash has an
empty last name. -/
def cutLastName (path : String) : String × String :=
  let reversed := path.toList.reverse
  let name := (reversed.takeWhile (· ≠ '/')).reverse
  let front := reversed.dropWhile (· ≠ '/')
  let trimmed := front.dropWhile (· = '/')
  (String.ofList (if trimmed.isEmpty then front else trimmed).reverse, String.ofList name)

/-- The directory that a path lies in, and its last name, whether or not a slash ends the path. -/
def parentAndName (path : String) : String × String :=
  let (front, name) := cutLastName path
  if name.isEmpty then cutLastName front else (front, name)

/-- Makes one directory, whose parent has to be there. -/
def makeDirectory (files : Files) (path : String) : Except FileFault Files :=
  match files.resolve path with
  | .ok _ => .error (.alreadyThere path)
  | .error .absent =>
    let parent := (parentAndName path).1
    match files.resolve (if parent.isEmpty then "." else parent) with
    | .ok .directory => if path.isEmpty then .error (.notFound path) else .ok (files.put path .directory)
    | _ => .error (.notFound path)
  | .error miss => .error (miss.fault path)

/-- Makes a directory with those on the way to it, out of at most so many. One that is there is left as
it is. -/
def makeDirectoriesWithin : Nat → Files → String → Except FileFault Files
  | 0, files, _ => .ok files
  | fuel + 1, files, path => do
    let (parent, name) := parentAndName path
    let prepared ←
      if parent.isEmpty || name.isEmpty || files.has parent then .ok files
      else match makeDirectoriesWithin fuel files parent with
        | .error (.alreadyThere _) => .ok files
        | other => other
    match prepared.makeDirectory path with
    | .ok made => .ok made
    | .error fault =>
      match prepared.resolve path with
      | .ok .directory => .ok prepared
      | _ => .error fault

/-- Makes a directory with those on the way to it. One that is there is left as it is. -/
def makeDirectories (files : Files) (path : String) : Except FileFault Files :=
  makeDirectoriesWithin (path.length + 1) files path

/-! ## Reading files -/

/-- The first byte of every packed form, which starts no UTF-8 sequence. -/
def packedMark : UInt8 := 0xFD

/-- The bytes of a file that is read as it is. -/
def rawBytes : Content → List UInt8
  | .plain bytes => bytes
  | .packed _ => [packedMark]

/-- The blocks in which a reader gets the bytes of a file that is unpacked, and the fault that ends
them. -/
def unpackedBlocks : Content → List (List UInt8) × Option FileFault
  | .packed bytes => (Text.blocks bytes.length bytes, none)
  | .plain bytes =>
    let contents := Xz.Contents.unpack bytes
    (contents.blocks, contents.stop.map FileFault.ofStop)

/-- The lines of a file that is read under a path. -/
def linesOf (path : String) (content : Content) : Text.LineSource FileFault :=
  let (blocks, ending) :=
    if path.endsWith ".xz" then unpackedBlocks content
    else
      let bytes := rawBytes content
      (Text.blocks bytes.length bytes, none)
  Text.linesOfBlocks .notUtf8 ending blocks

/-- The lines of the file at a path. -/
def lines (files : Files) (path : String) : Except FileFault (Text.LineSource FileFault) :=
  (files.content path).map (linesOf path)

end Files

end Clausal
