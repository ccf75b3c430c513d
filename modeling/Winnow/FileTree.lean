import Winnow.Text.Split

/-! # File trees

The files that the command line reads and writes, as a value: directories, texts, files that
hold no text, and files that may not be opened. There are no links.
-/

namespace Winnow

/-- A place in a file tree: names from a starting point, which is the root of all files
    or a directory that is left open. -/
structure FilePath where
  /-- Whether the path starts at the root. -/
  fromRoot : Bool
  /-- The names on the way. -/
  names : List String
  deriving DecidableEq, Inhabited

namespace FilePath

/-- The written form of a path. -/
def text (path : FilePath) : String :=
  (if path.fromRoot then "/" else "") ++ "/".intercalate path.names

/-- The starting point that is left open. -/
def openStart : FilePath := ⟨false, []⟩

/-- The path of a file in a directory. -/
def child (path : FilePath) (name : String) : FilePath :=
  { path with names := path.names ++ [name] }

/-- The directory that holds a path; nothing is above the starting point. -/
def parent (path : FilePath) : FilePath :=
  { path with names := path.names.dropLast }

/-- The parts of a written path, which stand between slashes. -/
def parts (written : String) : List String :=
  (Text.pieces (· == '/') written.toList).map String.ofList

/-- The path with a written form: its parts as they stand, but for those that lead
    nowhere. -/
def ofText (written : String) : FilePath where
  fromRoot := written.toList.head? == some '/'
  names := (parts written).filter fun part => part != "" && part != "."

/-- Where one part of a written path leads from a directory. -/
def step (place : FilePath) (part : String) : FilePath :=
  if part = "" ∨ part = "." then place
  else if part = ".." then place.parent
  else place.child part

/-- The places on the way along the parts of a written path. -/
def walk (place : FilePath) : List String → List FilePath
  | [] => [place]
  | part :: rest => place :: (place.step part).walk rest

/-- Where a written path starts. -/
def start (workingDirectory : FilePath) (written : String) : FilePath :=
  if written.toList.head? == some '/' then ⟨true, []⟩ else workingDirectory

/-- Drops the parts at the end that name no step of their own. -/
def dropIdle (parts : List (List Char)) : List (List Char) :=
  (parts.reverse.dropWhile fun part => part == [] || part == ['.']).reverse

/-- The written directory of a written path. A path without a step has none. -/
def directoryText? (written : String) : Option String :=
  match Text.pieces (· == '/') written.toList with
  | [] :: part :: parts =>
      match dropIdle (part :: parts) with
      | [] => none
      | steps =>
          some (String.ofList ('/' :: Text.join ['/'] (dropIdle steps.dropLast)))
  | ['.'] :: parts =>
      match dropIdle parts with
      | [] => some ""
      | steps => some (String.ofList (Text.join ['/'] (['.'] :: dropIdle steps.dropLast)))
  | parts =>
      match dropIdle parts with
      | [] => none
      | steps => some (String.ofList (Text.join ['/'] (dropIdle steps.dropLast)))

/-- A written path and the written directories above it, at most `count` of them, nearest
    first. -/
def writtenAncestors : Nat → String → List String
  | 0, written => [written]
  | count + 1, written => written :: ((directoryText? written).map (writtenAncestors count)).getD []

def writtenChild (directory name : String) : String :=
  if directory = "" ∨ directory.toList.getLast? = some '/' then directory ++ name
  else directory ++ "/" ++ name

end FilePath

/-- What stands at a place. -/
inductive FileEntry where
  | directory
  /-- A file that holds a text. -/
  | text (contents : String)
  /-- A file that holds no text. -/
  | binary (bytes : List UInt8)
  /-- A file that may be neither read nor written. -/
  | closed
  deriving DecidableEq, Inhabited

/-- Why a file could not be read or written. -/
inductive FileError where
  /-- Nothing stands there. -/
  | notFound
  /-- A directory was needed on the way. -/
  | notDirectory
  /-- A directory stands there. -/
  | isDirectory
  /-- A name or the whole path is too long. -/
  | nameTooLong
  /-- The path has a character that ends paths. -/
  | endsEarly
  /-- The file holds no text. -/
  | notText
  /-- The file may not be opened. -/
  | denied
  deriving DecidableEq, Inhabited

def FileError.message : FileError → String
  | notFound => "No such file or directory (os error 2)"
  | notDirectory => "Not a directory (os error 20)"
  | isDirectory => "Is a directory (os error 21)"
  | nameTooLong => "File name too long (os error 36)"
  | endsEarly => "file name contained an unexpected NUL byte"
  | notText => "stream did not contain valid UTF-8"
  | denied => "Permission denied (os error 13)"

/-- Files and directories by their places. Directories need no entry of their own if
    something stands below them. -/
structure FileTree where
  /-- What stands where. -/
  entries : List (FilePath × FileEntry)
  deriving Inhabited

namespace FileTree

/-- Whether something stands below a place. -/
def hasBelow (tree : FileTree) (path : FilePath) : Bool :=
  tree.entries.any fun (other, _) =>
    other.fromRoot == path.fromRoot && path.names.isPrefixOf other.names
      && other.names.length != path.names.length

/-- What stands at a place. -/
def entry? (tree : FileTree) (path : FilePath) : Option FileEntry :=
  match tree.entries.lookup path with
  | some entry => some entry
  | none => if path.names.isEmpty || tree.hasBelow path then some .directory else none

/-- Whether something stands at a place. -/
def has (tree : FileTree) (path : FilePath) : Bool :=
  (tree.entry? path).isSome

/-- Whether a file, rather than a directory, stands at a place. -/
def isFile (tree : FileTree) (path : FilePath) : Bool :=
  match tree.entry? path with
  | some (.text _) | some (.binary _) | some .closed => true
  | some .directory | none => false

/-- The number of bytes that a name may have. -/
def maxNameBytes : Nat := 255

/-- The number of bytes that a written path may have. -/
def maxPathBytes : Nat := 4095

/-- Follows the parts of a written path, one by one, from a directory. -/
def follow (tree : FileTree) (place : FilePath) : List String → Except FileError FilePath
  | [] => .ok place
  | part :: rest =>
      match tree.entry? place with
      | none => .error .notFound
      | some .directory =>
          if maxNameBytes < part.utf8ByteSize then .error .nameTooLong
          else tree.follow (place.step part) rest
      | some _ => .error .notDirectory

/-- The place that a written path leads to from a working directory. -/
def resolve (tree : FileTree) (workingDirectory : FilePath) (written : String) :
    Except FileError FilePath :=
  if written.toList.contains '\x00' then .error .endsEarly
  else if maxPathBytes < written.utf8ByteSize then .error .nameTooLong
  else tree.follow (FilePath.start workingDirectory written) (FilePath.parts written)

/-- The text of the file at a place. -/
def read (tree : FileTree) (path : FilePath) : Except FileError String :=
  match tree.entry? path with
  | none => .error .notFound
  | some .directory => .error .isDirectory
  | some (.binary _) => .error .notText
  | some .closed => .error .denied
  | some (.text contents) => .ok contents

/-- The text of the file that a written path leads to. -/
def readAt (tree : FileTree) (workingDirectory : FilePath) (written : String) :
    Except FileError String := do
  tree.read (← tree.resolve workingDirectory written)

/-- Whether a written path leads to a file, rather than to a directory. -/
def hasFileAt (tree : FileTree) (workingDirectory : FilePath) (written : String) : Bool :=
  match tree.resolve workingDirectory written with
  | .ok path => tree.isFile path
  | .error _ => false

/-- The entries with one replaced, or added at the end. -/
def setEntry (path : FilePath) (entry : FileEntry) :
    List (FilePath × FileEntry) → List (FilePath × FileEntry)
  | [] => [(path, entry)]
  | (other, old) :: rest =>
      if other = path then (path, entry) :: rest else (other, old) :: setEntry path entry rest

/-- Writes a text to a place whose directory exists, and gives the tree that is left, also if the
    file can't be opened. There is always room for the text, so a file that was opened is written
    to its end. -/
def write (tree : FileTree) (path : FilePath) (contents : String) :
    Except FileError Unit × FileTree :=
  match tree.entry? path with
  | some .directory => (.error .isDirectory, tree)
  | some .closed => (.error .denied, tree)
  | _ =>
      match tree.entry? path.parent with
      | some .directory => (.ok (), ⟨setEntry path (.text contents) tree.entries⟩)
      | some _ => (.error .notDirectory, tree)
      | none => (.error .notFound, tree)

end FileTree

end Winnow
