import SchemaTypes.FileSystem.Path
import SchemaTypes.Text.Display
import SchemaTypes.Text.Utf8

/-!
# A file system

Files and directories by their place, which is the list of names that leads there from the root.
There are no links, and nobody is kept from looking. So looking for something and reading it fail
only because of what stands where: a name that is not there, a file in place of a directory, a
directory in place of a file, or a name that is too long. A whole path may be too long as well,
and then nobody looks at its names.

Making a directory and writing a file may fail for one more reason. The system may refuse what is to
be put at a place, for want of rights or of space or whatever else (`FileSystem.refusal`). A refusal
comes before anything is changed: no file is cut short by a write that is refused.

Names are followed one by one and each step needs a directory to start from. This is why two dots
behind a name that does not exist fail, although they would lead back to where it was looked for.

Making directories is the one operation that may fail half way; the directories made until then
stay. It looks upwards for a directory that is there, and gives up if that is too far.
-/

namespace SchemaTypes

/-- A place: the names that lead to it from the root. -/
abbrev Place := List String

/-- What stands at a place. -/
inductive Entry where
  | file (content : List UInt8)
  | directory
deriving Repr, DecidableEq

/-- Why the system refuses something: the number of the reason and its words. -/
structure Refusal where
  number : Nat
  words : String
deriving Repr, DecidableEq

/-- Why an operation on files fails. -/
inductive FileError where
  | notFound
  | occupied
  | notADirectory
  | isADirectory
  | nameTooLong
  /-- A name holds a null character, so the operation is not even tried. -/
  | nullCharacter
  /-- Too many directories are missing. -/
  | tooDeep
  /-- The system refuses what is asked. -/
  | refused (refusal : Refusal)
deriving Repr, DecidableEq

namespace FileError

/-- The number of an error and its words. -/
def description : FileError → String
  | .notFound => "[Errno 2] No such file or directory"
  | .occupied => "[Errno 17] File exists"
  | .notADirectory => "[Errno 20] Not a directory"
  | .isADirectory => "[Errno 21] Is a directory"
  | .nameTooLong => "[Errno 36] File name too long"
  | .nullCharacter => "embedded null byte"
  | .tooDeep => "maximum recursion depth exceeded while calling a Python object"
  | .refused refusal => "[Errno " ++ refusal.number.repr ++ "] " ++ refusal.words

/-- Whether the words for an error name the path. -/
def namesPath : FileError → Bool
  | .nullCharacter | .tooDeep => false
  | _ => true

end FileError

/-- A failed operation: the reason and the path as it was given. -/
structure FileFault where
  error : FileError
  path : String
deriving Repr, DecidableEq

/-- The text of a failed operation. -/
def FileFault.message (fault : FileFault) : String :=
  fault.error.description
    ++ (if fault.error.namesPath then ": " ++ Text.display fault.path else "")

/-- A file system with its current directory. -/
structure FileSystem where
  entries : List (Place × Entry)
  current : Place
  /-- The reason for which the system refuses to put an entry at a place, if it does. -/
  refusal : Place → Entry → Option Refusal := fun _ _ => none

namespace FileSystem

/-! ## Places -/

/-- What stands at a place. The root is always a directory. -/
def find? (files : FileSystem) (place : Place) : Option Entry :=
  if place = [] then some .directory else files.entries.lookup place

/-- Entries with another one at a place, instead of the one there if there is one. -/
def putEntry (place : Place) (entry : Entry) : List (Place × Entry) → List (Place × Entry)
  | [] => [(place, entry)]
  | (known, old) :: rest =>
    if known = place then (known, entry) :: rest else (known, old) :: putEntry place entry rest

/-- Puts an entry at a place. -/
def put (files : FileSystem) (place : Place) (entry : Entry) : FileSystem :=
  { files with entries := putEntry place entry files.entries }

/-- The most bytes that a name may have. -/
def maxNameBytes : Nat := 255

/-- The most bytes that a written path may have. -/
def maxPathBytes : Nat := 4095

/-- Fails if a path is too long as it is written. -/
def checkLength (path : String) : Except FileError Unit :=
  if maxPathBytes < path.utf8ByteSize then .error .nameTooLong else .ok ()

/-- Follows one name from a place that has to be a directory. An empty name and a dot stay
there. -/
def enter (files : FileSystem) (place : Place) (name : String) : Except FileError Place :=
  match files.find? place with
  | none => .error .notFound
  | some (.file _) => .error .notADirectory
  | some .directory =>
    if name = "" ∨ name = "." then .ok place
    else if name = ".." then .ok place.dropLast
    else if maxNameBytes < name.utf8ByteSize then .error .nameTooLong
    else if (files.find? (place ++ [name])).isSome then .ok (place ++ [name])
    else .error .notFound

/-- Follows names from a place. -/
def walk (files : FileSystem) (place : Place) (names : List String) : Except FileError Place :=
  names.foldlM files.enter place

/-- Where a path begins. -/
def origin (files : FileSystem) (path : Path) : Place :=
  if path.isAbsolute then [] else files.current

/-- Whether a path leads to a directory. -/
def isDirectory (files : FileSystem) (path : Path) : Bool :=
  match checkLength path.text, files.walk (files.origin path) path.names with
  | .ok (), .ok place => files.find? place == some .directory
  | _, _ => false

/-- Where the last name of a path would stand, if it is one that can be made. The names before it
have to lead to a directory; a path that ends in two dots, or has no names, leads to a directory
that is there. -/
def target (files : FileSystem) (path : Path) : Except FileError (Option Place) := do
  checkLength path.text
  match path.names.getLast? with
  | none => return none
  | some name => do
    let place ← files.walk (files.origin path) path.parent.names
    match files.find? place with
    | none => .error .notFound
    | some (.file _) => .error .notADirectory
    | some .directory =>
      if name = ".." then .ok none
      else if maxNameBytes < name.utf8ByteSize then .error .nameTooLong
      else .ok (some (place ++ [name]))

/-! ## Reading -/

/-- The place to which a written path leads. A slash at its end asks for a directory. -/
def locate (files : FileSystem) (path : String) : Except FileError Place :=
  if path.toList.contains '\x00' then .error .nullCharacter
  else if path.isEmpty then .error .notFound
  else do
    checkLength path
    files.walk (if Path.leadingSlashes path = 0 then files.current else [])
      (Path.splitSlashes path)

/-- Whether there is anything at a written path. -/
def has (files : FileSystem) (path : String) : Bool :=
  match files.locate path with
  | .ok _ => true
  | .error _ => false

/-- Whether there is anything at a written path, unless the path is too long to tell. -/
def seek (files : FileSystem) (path : String) : Except FileFault Bool :=
  match files.locate path with
  | .ok _ => .ok true
  | .error .nameTooLong => .error ⟨.nameTooLong, path⟩
  | .error _ => .ok false

/-- The content of a file. -/
def read (files : FileSystem) (path : String) : Except FileFault (List UInt8) :=
  match files.locate path with
  | .error error => .error ⟨error, path⟩
  | .ok place =>
    match files.find? place with
    | none => .error ⟨.notFound, path⟩
    | some .directory => .error ⟨.isADirectory, path⟩
    | some (.file content) => .ok content

/-! ## Writing -/

/-- Puts an entry at a place unless the system refuses it. -/
def tryPut (files : FileSystem) (place : Place) (entry : Entry) : Except FileError FileSystem :=
  match files.refusal place entry with
  | some refusal => .error (.refused refusal)
  | none => .ok (files.put place entry)

/-- Makes a directory, in a directory that is there. -/
def makeDirectory (files : FileSystem) (path : Path) : Except FileError FileSystem := do
  match ← files.target path with
  | none => .error .occupied
  | some place =>
    if (files.find? place).isSome then .error .occupied else files.tryPut place .directory

/-- Accepts that making a directory failed if there is a directory, whatever the reason was. -/
def orDirectory (files : FileSystem) (path : Path) (error : FileError) : Except FileFault Unit :=
  if files.isDirectory path then .ok () else .error ⟨error, path.text⟩

/-- The most directories in a row that are found to be missing. The number is an estimate: it is
what the limit of one interpreter for calls inside each other leaves at the depth at which the
program makes directories. No result here depends on it. -/
def maxMissing : Nat := 976

/-- Makes a directory and those above it that are missing; the names come last name first, and
some directories below are known to be missing. A directory that is there is left as it is. -/
def makeDirectoriesUp (files : FileSystem) (slashes missing : Nat) :
    List String → FileSystem × Except FileFault Unit
  | [] => (files, files.orDirectory ⟨slashes, []⟩ .occupied)
  | name :: above =>
    let path : Path := ⟨slashes, (name :: above).reverse⟩
    match files.makeDirectory path with
    | .ok made => (made, .ok ())
    | .error .notFound =>
      if maxMissing ≤ missing then (files, .error ⟨.tooDeep, path.text⟩)
      else
        match files.makeDirectoriesUp slashes (missing + 1) above with
        | (made, .error fault) => (made, .error fault)
        | (made, .ok ()) =>
          match made.makeDirectory path with
          | .ok last => (last, .ok ())
          | .error .notFound => (made, .error ⟨.notFound, path.text⟩)
          | .error error => (made, made.orDirectory path error)
    | .error error => (files, files.orDirectory path error)

/-- Makes the directory of a path and those above it that are missing. -/
def makeDirectories (files : FileSystem) (path : Path) : FileSystem × Except FileFault Unit :=
  if path.hasNull then (files, .error ⟨.nullCharacter, path.text⟩)
  else files.makeDirectoriesUp path.slashes 0 path.names.reverse

/-- Writes a file, over the one that is there. -/
def write (files : FileSystem) (path : Path) (content : List UInt8) :
    Except FileFault FileSystem :=
  if path.hasNull then .error ⟨.nullCharacter, path.text⟩
  else
    match files.target path with
    | .error error => .error ⟨error, path.text⟩
    | .ok none => .error ⟨.isADirectory, path.text⟩
    | .ok (some place) =>
      if files.find? place = some .directory then .error ⟨.isADirectory, path.text⟩
      else (files.tryPut place (.file content)).mapError (⟨·, path.text⟩)

/-- Writes a text to a file, after making the directories that its path needs. -/
def writeText (files : FileSystem) (path : Path) (text : String) :
    FileSystem × Except FileFault Unit :=
  match files.makeDirectories path.parent with
  | (made, .error fault) => (made, .error fault)
  | (made, .ok ()) =>
    match made.write path (Text.Utf8.encode text) with
    | .error fault => (made, .error fault)
    | .ok written => (written, .ok ())

end FileSystem
end SchemaTypes
