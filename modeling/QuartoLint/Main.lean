/-
The command line program.

Everything that a run may look at is read once, before it starts. The run
itself is a function of what was read.
-/
import QuartoLint.Run

namespace QuartoLint

/-- What was found at a path. -/
structure Finding where
  isFile : Bool
  content : Except ReadFault ByteArray

/-- The error number of a code; some calls give the number negated. -/
def errorNumber (code : UInt32) : Nat :=
  if code.toNat < 0x80000000 then code.toNat else 0x100000000 - code.toNat

/-- The fault behind an error code, or else the words for it. -/
def ReadFault.ofCode (code : UInt32) (description : String) : ReadFault :=
  match errorNumber code with
  | 2 => .notFound
  | 20 => .notADirectory
  | 21 => .isADirectory
  | 36 => .nameTooLong
  | number => .other s!"{description} (os error {number})".toList

/-- The fault behind an error of the system. -/
def ReadFault.ofError : IO.Error → ReadFault
  | .noFileOrDirectory _ code details
  | .invalidArgument _ code details
  | .permissionDenied _ code details
  | .resourceExhausted _ code details
  | .inappropriateType _ code details => .ofCode code details
  | error => .other (toString error).toList

/-- Whether the path leads to a regular file. -/
def isRegularFile (path : String) : IO Bool := do
  try
    let metadata ← (← IO.FS.realPath path).metadata
    return metadata.type == .file
  catch _ => return false

def find (path : Path) : IO Finding := do
  if path.contains '\x00' then return ⟨false, .error .nulInPath⟩
  let name := String.ofList path
  let content ← (IO.FS.readBinFile name).toBaseIO
  return ⟨← isRegularFile name, content.mapError ReadFault.ofError⟩

/-- A file system of what was found. -/
def FileSystem.ofFindings (findings : List (Path × Finding)) : FileSystem where
  isFile path := (findings.lookup path).any Finding.isFile
  read path :=
    match findings.lookup path with
    | some finding => finding.content
    | none => .error .notFound

/-- Where config files are looked for. -/
def configDirectories : IO ConfigDirectories := do
  let project := toString (← IO.currentDir)
  let home := (← IO.getEnv "HOME").map (· ++ "/.config")
  let base ← do
    match ← IO.getEnv "XDG_CONFIG_HOME" with
    | some directory =>
      pure (if directory.startsWith "/" then some directory else home)
    | none => pure home
  return ⟨project.toList, base.map fun base =>
    Path.join base.toList "qmd-lint".toList⟩

/-- Writes the records that the level asks for to the error output. -/
def writeLog (level : Text) (records : List Log.Record) : IO Unit := do
  if let some threshold := Log.Level.ofName? level then
    for record in records do
      if record.level.isShownAt threshold then
        IO.eprintln (String.ofList record.line)

def writeProblem (label : String) (message : Text) : IO Unit :=
  IO.eprintln s!"{label}: {String.ofList message}"

def runFound (arguments : Arguments) : IO Outcome := do
  let directories ← configDirectories
  let paths := (consulted directories arguments).eraseDups
  let files := FileSystem.ofFindings
    (paths.zip (← paths.mapM find))
  match Config.resolve files directories arguments with
  | .error error =>
    writeProblem "Error" error.message
    return .failed
  | .ok config =>
    writeLog config.logLevel (runRecords files config)
    return .ofConfig files [] config

end QuartoLint

open QuartoLint in
def main (arguments : List String) : IO UInt32 := do
  let outcome ← match Arguments.parse (arguments.map String.toList) with
    | .ok arguments => runFound arguments
    | .error stop =>
      if let .problem problem := stop then
        writeProblem "error" problem.message
      pure (.ofStop stop)
  let output ← IO.getStdout
  output.putStr (String.ofList outcome.output)
  output.flush
  return outcome.status.code.toUInt32
