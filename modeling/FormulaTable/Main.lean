import FormulaTable.CommandLine.Report
import Std.Time

/-!
# `FormulaTable.Main`: the program

Reads the clock, seeds the random numbers, reads the input that the command line names, and prints
what `CommandLine.run` answers. All decisions are taken there.
-/

set_option autoImplicit false

namespace FormulaTable.Main

/-- Why a file could not be read, as the operating system says it. -/
def reason : IO.Error → String
  | .noFileOrDirectory _ _ _ => "No such file or directory (os error 2)"
  | .permissionDenied _ code _ => s!"Permission denied (os error {code})"
  | .inappropriateType _ code _ => s!"Is a directory (os error {code})"
  | e => toString e

/-- The present moment by the clock of the system, in local time if the time zone is known; nothing
if the clock is off the calendar. -/
def present : IO (Option Moment) := do
  let now ←
    try Std.Time.PlainDateTime.now
    catch _ =>
      let instant ← Std.Time.Timestamp.now
      pure (Std.Time.PlainDateTime.ofWallTime (Std.Time.WallTime.ofTimestamp instant .zero))
  return Moment.ofParts? now.year.toInt now.month.toInt.toNat now.day.toInt.toNat
    now.hour.toInt.toNat now.minute.toInt.toNat (min now.second.toInt.toNat 59)

/-- The world outside the table as it is now. -/
def ambient : IO (Option Ambient) := do
  let seed ← IO.rand 0 0xffffffffffffffff
  return (← present).map fun now => { now, draw := .ofSeed seed }

/-- The texts of the files among some words, or why they cannot be read. -/
def readFiles (words : List String) : IO (List (String × Except String String)) :=
  words.mapM fun (word : String) => do
    try
      let text ← IO.FS.readFile word
      return (word, .ok text)
    catch e => return (word, .error (reason e))

/-- The paths that a request reads. -/
def pathsOf : CommandLine.Request → List String
  | .run (.eval path _) => [path]
  | .run (.cell path _) => [path]
  | _ => []

end FormulaTable.Main

open FormulaTable CommandLine in
/-- Runs the program on its command line. -/
def main (words : List String) : IO UInt32 := do
  let paths := Main.pathsOf (Request.ofWords words)
  let standard ← if paths.any isStandard then (← IO.getStdin).readToEnd else pure ""
  let files ← Main.readFiles (paths.filter fun path => !isStandard path)
  let file (path : String) : Except String String :=
    (files.lookup path).getD (.error "No such file or directory (os error 2)")
  match ← Main.ambient with
  | none =>
    IO.eprintln "Error: the clock names no moment of the calendar"
    return 1
  | some ambient =>
    let ending := CommandLine.run ambient { standard, file } words
    IO.print ending.output
    IO.eprint ending.report
    return ending.code.toUInt32
