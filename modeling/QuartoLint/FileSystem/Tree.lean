/-
Directory trees held in memory.

A place is the list of names that leads to it from the root. A tree knows
the bytes of its files and the places of its directories; every place above
one of these is a directory too, and so is the root. A path is walked name
by name from a working directory, or from the root if it starts with a
slash. Every name, also an empty one or a dot, has to be looked up in a
directory. The directory above the root is the root.

The checks come in a fixed order: a NUL in the path, an empty path, the
length of the whole path, and then for each name whether it is looked up in
a directory, its length, and whether it is there.
-/
import QuartoLint.FileSystem

namespace QuartoLint

/-- The names that lead to a file or directory from the root. -/
abbrev Place := List Text

/-- Files with their bytes, and directories, each at its place. -/
structure Tree where
  files : List (Place × ByteArray)
  directories : List Place

namespace Tree

def empty : Tree := ⟨[], []⟩

/-- Adds a file, in front of any other at its place. -/
def addFile (tree : Tree) (place : Place) (bytes : ByteArray) : Tree :=
  { tree with files := (place, bytes) :: tree.files }

def addDirectory (tree : Tree) (place : Place) : Tree :=
  { tree with directories := place :: tree.directories }

def file? (tree : Tree) (place : Place) : Option ByteArray :=
  tree.files.lookup place

/-- Whether the place is a directory: it is the root, it was added as one, or
something stands below it. -/
def isDirectory (tree : Tree) (place : Place) : Bool :=
  place.isEmpty || tree.directories.any place.isPrefixOf
    || tree.files.any fun (other, _) =>
        other != place && place.isPrefixOf other

-- =============================================================== walking

/-- The most bytes that a path may have. -/
def maxPathBytes : Nat := 4095

/-- The most bytes that a name may have. -/
def maxNameBytes : Nat := 255

/-- The names between the slashes of a path. -/
def names (path : Path) : List Text :=
  path.splitOn '/'

/-- The place that a name leads to from a place. -/
def step (tree : Tree) (place : Place) (name : Text) :
    Except ReadFault Place :=
  if !tree.isDirectory place then .error .notADirectory
  else if name.isEmpty || name == ['.'] then .ok place
  else if name == ['.', '.'] then .ok place.dropLast
  else if maxNameBytes < Text.utf8Size name then .error .nameTooLong
  else
    let next := place ++ [name]
    if (tree.file? next).isSome || tree.isDirectory next then .ok next
    else .error .notFound

/-- The place that a path leads to. -/
def resolve (tree : Tree) (workingDirectory : Place) (path : Path) :
    Except ReadFault Place :=
  if path.contains '\x00' then .error .nulInPath
  else if path.isEmpty then .error .notFound
  else if maxPathBytes < Text.utf8Size path then .error .nameTooLong
  else
    let start := if path.head? == some '/' then [] else workingDirectory
    (names path).foldlM tree.step start

def read (tree : Tree) (workingDirectory : Place) (path : Path) :
    Except ReadFault ByteArray :=
  match tree.resolve workingDirectory path with
  | .error fault => .error fault
  | .ok place =>
    match tree.file? place with
    | some bytes => .ok bytes
    | none => .error .isADirectory

/-- What a run in the working directory sees of the tree. -/
def fileSystem (tree : Tree) (workingDirectory : Place) : FileSystem where
  isFile path := (tree.read workingDirectory path).isOk
  read path := tree.read workingDirectory path

end Tree

end QuartoLint
