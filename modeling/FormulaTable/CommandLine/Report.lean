import FormulaTable.CommandLine.Arguments
import FormulaTable.Json.Token
import FormulaTable.Table.Basic

/-!
# `FormulaTable.CommandLine.Report`: what the program prints

`Command.outcome` carries out a command: it gives the text to be printed, or the failure to be
reported. Input is asked for through a function, so that nothing here touches a file.
-/

set_option autoImplicit false

namespace FormulaTable.CommandLine

/-! ## Tables and JSON -/

/-- A grid of texts as lines of columns, with the names of the columns above and the numbers of the
rows in front. -/
def tableText (colCount : Nat) (rows : List (List String)) : String :=
  let header := String.join ((List.range colCount).map fun col =>
    "\t" ++ String.ofList (Column.letters col))
  let lines := rows.zipIdx.map fun (cells, row) =>
    toString (row + 1) ++ String.join (cells.map ("\t" ++ ·)) ++ "\n"
  header ++ "\n" ++ String.join lines

/-- A text as a JSON string. -/
def jsonText (s : String) : String :=
  Json.Token.join [.ofText s]

/-- Entries of a JSON array, each on a line of its own, indented by `indent` blanks. -/
def jsonArray (indent : Nat) (entries : List String) : String :=
  let margin := String.ofList (List.replicate indent ' ')
  if entries.isEmpty then "[]"
  else
    let lines := entries.map fun entry => margin ++ "  " ++ entry
    "[\n" ++ ",\n".intercalate lines ++ "\n" ++ margin ++ "]"

/-- Rows of texts as a JSON array of arrays. -/
def jsonRows (rows : List (List String)) : String :=
  jsonArray 0 (rows.map fun row => jsonArray 2 (row.map jsonText))

/-- The numbers of arguments that a function takes. -/
def arityText (s : Signature) : String :=
  match s.most with
  | some most =>
    if most = s.least then toString most else toString s.least ++ "-" ++ toString most
  | none => toString s.least ++ "+"

/-- One line of the list of functions. -/
def functionLine (f : Builtin) : String :=
  f.name ++ "\t" ++ arityText f.signature ++ (if f.signature.volatile then "\tvolatile" else "") ++
    "\n"

/-! ## Failures -/

/-- Why a command fails. -/
inductive Failure where
  | unreadable (input reason : String)
  | badAddress (text : String)
  | outside (e : OutOfBounds)
  deriving DecidableEq, Repr

/-- What went wrong. -/
def Failure.message : Failure → String
  | .unreadable input _ => "Failed to read '" ++ input ++ "'"
  | .badAddress text => "Invalid cell address '" ++ text ++ "'"
  | .outside e => e.message

/-- What it goes back to, if to anything. -/
def Failure.cause? : Failure → Option String
  | .unreadable _ reason => some reason
  | .badAddress text => some (AddressError.notAnAddress text).message
  | .outside _ => none

/-- The report of a failure. The lines of its cause are indented. -/
def Failure.report (f : Failure) : String :=
  let cause := match f.cause? with
    | some cause =>
      "\n\nCaused by:\n    " ++
        String.ofList (cause.toList.flatMap fun c => if c = '\n' then "\n    ".toList else [c])
    | none => ""
  "Error: " ++ f.message ++ cause ++ "\n"

/-! ## Commands -/

/-- Where the input of a command comes from. -/
structure Input where
  /-- What the standard input holds. -/
  standard : String
  /-- Reads a file, or says why it cannot be read. -/
  file : String → Except String String

/-- Whether a path names the standard input: a single dash, with nothing behind it but slashes and
dots that add nothing to a path. -/
def isStandard (path : String) : Bool :=
  match path.splitOn "/" with
  | first :: rest => first == "-" && rest.all fun part => part == "" || part == "."
  | [] => false

/-- Reads the input that a path names. -/
def Input.read (source : Input) (path : String) : Except Failure String :=
  if isStandard path then .ok source.standard
  else
    match source.file path with
    | .ok text => .ok text
    | .error reason => .error (.unreadable path reason)

/-- The table in the input that a path names. -/
def Input.table (source : Input) (path : String) : Except Failure Table := do
  return Table.ofBlob {} (← source.read path)

/-- The description of one cell. -/
def cellText (ambient : Ambient) (t : Table) (address : String) : Except Failure String :=
  match CellRef.ofString? address with
  | none => .error (.badAddress address)
  | some cell =>
    match t.raw? cell with
    | none => .error (.outside { cell, rows := t.grid.rowCount, cols := t.grid.colCount })
    | some raw =>
      .ok ("Cell: " ++ cell.toText ++ "\nRaw: " ++ raw ++ "\nValue: " ++ t.display ambient cell ++
        "\nFormula: " ++ (if isFormula raw then "true" else "false") ++ "\n")

/-- Carries out a command. -/
def Command.outcome (ambient : Ambient) (source : Input) : Command → Except Failure String
  | .eval path format => do
    let t ← source.table path
    let rows := t.displayRows ambient
    return match format with
      | .table => tableText t.grid.colCount rows
      | .json => jsonRows rows ++ "\n"
  | .cell path address => do cellText ambient (← source.table path) address
  | .new rows cols =>
    let config : GridConfig := {}
    let config : GridConfig :=
      { defaultRows := rows.getD config.defaultRows, defaultCols := cols.getD config.defaultCols }
    .ok ((Table.ofConfig config).toBlob ++ "\n")
  | .functions => .ok (String.join (Builtin.all.map functionLine))

/-! ## The program -/

/-- The name and version of the program. -/
def versionText : String :=
  "notegrid 0.1.0\n"

/-- How the program is used. -/
def helpText : String :=
  "Evaluate and inspect notegrid table blobs\n\n" ++
  "Usage: notegrid [OPTIONS] <COMMAND>\n\n" ++
  "Commands:\n" ++
  "  eval       Print the display value of every cell\n" ++
  "  cell       Show one cell's raw and display value\n" ++
  "  new        Print an empty blob\n" ++
  "  functions  List the built-in functions\n" ++
  "  help       Print this message or the help of the given subcommand(s)\n\n" ++
  "Options:\n" ++
  "  -v, --verbose  Log evaluation details to stderr\n" ++
  "  -h, --help     Print help\n" ++
  "  -V, --version  Print version\n"

/-- How the program ends: what it prints, what it reports, and its exit code. -/
structure Ending where
  output : String := ""
  report : String := ""
  code : Nat := 0
  deriving DecidableEq, Repr

/-- The exit code of a command that fails. -/
def failureCode : Nat := 1

/-- The exit code of a command line that fits no command. -/
def misuseCode : Nat := 2

/-- Runs the program on the words of a command line. -/
def run (ambient : Ambient) (source : Input) (words : List String) : Ending :=
  match Request.ofWords words with
  | .run command =>
    match command.outcome ambient source with
    | .ok output => { output }
    | .error failure => { report := failure.report, code := failureCode }
  | .help => { output := helpText }
  | .version => { output := versionText }
  | .misuse => { report := helpText, code := misuseCode }

end FormulaTable.CommandLine
