import Highlighter.Settings

namespace Highlighter.CommandLine

/-- The file of the log for a day. -/
def logFile (directory day : String) : String := Path.join directory ("scopeline.log." ++ day)

/-- Opens the log of a day, to the end of which something is written. Where there is no directory for it a run goes on
without a log, but a file that can not be opened ends the run. -/
def openLog (env : Environment) (day : String) (logged : ByteArray) (tree : FileTree) :
    Except FileError (Option LogError × FileTree) :=
  match env.makeLogDirectory tree with
  | (.error problem, tree) => .ok (some problem, tree)
  | (.ok directory, tree) => (tree.append (logFile directory day) logged).map fun tree => (none, tree)

def padded (width n : Nat) : String := String.ofList ((toString n).toList.leftpad width '0')

/-- The date of a day, told by the number of days since the first of March in the year 0. A year is taken to begin in
March, so that a leap day is the last of its year. -/
def dateOf (days : Nat) : String :=
  let ofEra := days % 146097
  let yearOfEra := (ofEra - ofEra / 1460 + ofEra / 36524 - ofEra / 146096) / 365
  let ofYear := ofEra - (365 * yearOfEra + yearOfEra / 4 - yearOfEra / 100)
  let month := (5 * ofYear + 2) / 153
  let year := days / 146097 * 400 + yearOfEra + month / 10
  padded 4 year ++ "-" ++ padded 2 ((month + 2) % 12 + 1) ++ "-" ++ padded 2 (ofYear - (153 * month + 2) / 5 + 1)

end Highlighter.CommandLine
