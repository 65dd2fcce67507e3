/-
What a run can see of the files around it.

A file system answers two questions about a path: is it a regular file, and
what are the bytes of the file. The answers do not change during a run, so
both are functions. Reading a text reads the bytes and then decodes them;
bytes that are not UTF-8 count as a failure to read.
-/
import QuartoLint.Text.Utf8

namespace QuartoLint

/-- A path, written with a slash between the names of its directories. A path
is a text here. One whose bytes are not UTF-8, which a report or a message
would show with replacement characters in it, is not represented. -/
abbrev Path := Text

namespace Path

/-- The path of a name in a directory. The empty path is the directory that
relative paths start from. -/
def join (directory name : Path) : Path :=
  if directory.isEmpty || directory.getLast? == some '/' then
    directory ++ name
  else directory ++ '/' :: name

end Path

/-- Why a file could not be read. -/
inductive ReadFault
  | nulInPath
  | notFound
  | notADirectory
  | isADirectory
  | nameTooLong
  | invalidUtf8
  /-- Any other cause, in the words of the system. -/
  | other (description : Text)
deriving Repr, DecidableEq

namespace ReadFault

def message : ReadFault → Text
  | nulInPath => "file name contained an unexpected NUL byte".toList
  | notFound => "No such file or directory (os error 2)".toList
  | notADirectory => "Not a directory (os error 20)".toList
  | isADirectory => "Is a directory (os error 21)".toList
  | nameTooLong => "File name too long (os error 36)".toList
  | invalidUtf8 => "stream did not contain valid UTF-8".toList
  | other description => description

end ReadFault

/-- The answers to both questions, for every path. -/
structure FileSystem where
  isFile : Path → Bool
  read : Path → Except ReadFault ByteArray

namespace FileSystem

/-- The text of the file that the path leads to. -/
def readText (files : FileSystem) (path : Path) : Except ReadFault Text :=
  match files.read path with
  | .error fault => .error fault
  | .ok bytes =>
    match Text.ofUtf8? bytes with
    | some text => .ok text
    | none => .error .invalidUtf8

end FileSystem

end QuartoLint
