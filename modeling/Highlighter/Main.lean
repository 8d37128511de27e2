import Highlighter.CommandLine.Run

namespace Highlighter.CommandLine

def fileErrorOf : IO.Error → FileError
  | .noFileOrDirectory .. => .notFound
  | .alreadyExists .. => .alreadyExists
  | .inappropriateType _ code details =>
    if code = 20 then .notDirectory
    else if code = 21 then .isDirectory
    else .other s!"{details} (os error {code})"
  | .permissionDenied _ code details => .other s!"{details} (os error {code})"
  | .resourceExhausted _ code details => .other s!"{details} (os error {code})"
  | .otherError code details => .other s!"{details} (os error {code})"
  | problem => .other (toString problem)

def readFile (path : String) : IO (Except FileError ByteArray) :=
  try
    return .ok (← IO.FS.readBinFile path)
  catch problem =>
    return .error (fileErrorOf problem)

def listDirectory (path : String) : IO (Except FileError (List String)) :=
  try
    let directory ← IO.FS.realPath path
    return .ok ((← directory.readDir).toList.map fun entry => entry.fileName)
  catch problem =>
    return .error (fileErrorOf problem)

/-- What has been read; all else is taken for missing. -/
def viewOf (files : List (String × Except FileError ByteArray))
    (directories : List (String × Except FileError (List String))) : FileView where
  read path := (files.lookup path).getD (.error .notFound)
  list path := (directories.lookup path).getD (.error .notFound)

def readFiles (paths : List String) : IO (List (String × Except FileError ByteArray)) :=
  paths.mapM fun path => return (path, ← readFile path)

/-- Reads the settings, the grammars in the directories that they name, and the file. -/
def gather (arguments : Arguments) (env : Environment) : IO FileView := do
  let settingsFile ← readFiles (arguments.settings.or env.settingsFile?).toList
  let directories := (arguments.loadSettings env (viewOf settingsFile [])).directories env
  let listings ← directories.mapM fun path => return (path, ← listDirectory path)
  let grammars := directories.flatMap (Catalogue.grammarFiles (viewOf [] listings))
  return viewOf (settingsFile ++ (← readFiles (grammars ++ [arguments.path]))) listings

/-- The date by the clock of the file system, which counts seconds from the year 1970. -/
def today : IO String := do
  let (_, path) ← IO.FS.createTempFile
  let now := (← path.metadata).modified.sec
  IO.FS.removeFile path
  return dateOf (now / 86400 + 719468).toNat

/-- Makes sure that the log of the day can be written to. -/
def enterLog (env : Environment) (day : String) : IO (Except FileError (Option LogError)) := do
  match env.logDirectory? with
  | none => return .ok (some .noPlace)
  | some directory =>
    try
      IO.FS.createDirAll directory
    catch problem =>
      return .ok (some (.noDirectory directory (fileErrorOf problem)))
    try
      IO.FS.withFile (logFile directory day) .append fun _ => return .ok none
    catch problem =>
      return .error (fileErrorOf problem)

end Highlighter.CommandLine

open Highlighter CommandLine

def main (arguments : List String) : IO UInt32 := do
  -- The table of users is out of reach, so that there is no home where the variable does not name one.
  let env : Environment := { configHome := ← IO.getEnv "XDG_CONFIG_HOME", home := ← IO.getEnv "HOME" }
  let outcome ← match ← enterLog env (← today) with
    | .error problem => pure (logRefused problem)
    | .ok problem =>
      let files ← match Arguments.read arguments with
        | .ok arguments => gather arguments env
        | .error _ => pure (viewOf [] [])
      let outcome := outcome arguments env files
      pure { outcome with errors := (problem.map logNotice).getD "" ++ outcome.errors }
  IO.print outcome.output
  IO.eprint outcome.errors
  return outcome.exitCode.toUInt32
