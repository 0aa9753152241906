import FormulaTable.Grid.Blob

/-!
# `FormulaTable.CommandLine.Arguments`: what the command line asks for

A command line is a list of words. The first word that is no switch names a command, and the words
after it are the command's own switches and operands, in any order.

A switch is `--name`, or `-x` for short; several short ones may share a word. The value of a switch
is the rest of its word, behind an `=` or without it, or else the next word, which must not look
like a switch. After the word `--` every word is an operand. A switch may be given once.

Words are taken from left to right, and the first that asks for help or for the version, or that
does not fit, settles the matter.
-/

set_option autoImplicit false

namespace FormulaTable.CommandLine

/-- How the values of a table are printed. -/
inductive OutputFormat where
  | table
  | json
  deriving DecidableEq, Repr

/-- What the program can do. -/
inductive Command where
  /-- Print what every cell shows. -/
  | eval (input : String) (format : OutputFormat)
  | cell (input address : String)
  /-- Print a blank blob of the given size. -/
  | new (rows cols : Option Nat)
  | functions
  deriving DecidableEq, Repr

/-- What a command line asks for. -/
inductive Request where
  | run (command : Command)
  | help
  | version
  | misuse
  deriving DecidableEq, Repr

/-! ## Switches -/

/-- The switches. -/
inductive Switch where
  | help
  | version
  | verbose
  | format
  | rows
  | cols
  deriving DecidableEq, Repr

namespace Switch

/-- The name behind two dashes. -/
def longName : Switch → String
  | .help => "help"
  | .version => "version"
  | .verbose => "verbose"
  | .format => "format"
  | .rows => "rows"
  | .cols => "cols"

/-- The letter behind one dash, if there is one. -/
def shortName? : Switch → Option Char
  | .help => some 'h'
  | .version => some 'V'
  | .verbose => some 'v'
  | .format => some 'f'
  | .rows => none
  | .cols => none

/-- Whether the switch has a value. -/
def takesValue : Switch → Bool
  | .format | .rows | .cols => true
  | .help | .version | .verbose => false

end Switch

/-- One thing that a word with a switch says. -/
inductive Setting where
  | on (switch : Switch)
  | value (switch : Switch) (text : String)
  | misfit
  deriving DecidableEq, Repr

/-- Whether a word is a switch: a dash and something after it. -/
def isSwitch (word : List Char) : Bool :=
  word.head? == some '-' && 1 < word.length

/-- The value that a switch finds in the next word. -/
def valueInNext (switch : Switch) (next : Option String) : Setting :=
  match next with
  | some word => if isSwitch word.toList then .misfit else .value switch word
  | none => .misfit

/-- What a switch by its long name says, and whether it uses up the next word. `text` is the word
without its dashes. -/
def longSetting (known : List Switch) (next : Option String) (text : List Char) :
    List Setting × Bool :=
  let name := String.ofList (text.takeWhile (· != '='))
  match known.find? (·.longName == name), text.dropWhile (· != '=') with
  | none, _ => ([.misfit], false)
  | some switch, _ :: value =>
    if switch.takesValue then ([.value switch (String.ofList value)], false) else ([.misfit], false)
  | some switch, [] =>
    if switch.takesValue then ([valueInNext switch next], true) else ([.on switch], false)

/-- What the switches that share a word say, and whether the last one uses up the next word. -/
def shortSettings (known : List Switch) (next : Option String) : List Char → List Setting × Bool
  | [] => ([], false)
  | letter :: rest =>
    match known.find? (·.shortName? == some letter) with
    | none => ([.misfit], false)
    | some switch =>
      if switch.takesValue then
        match rest with
        | [] => ([valueInNext switch next], true)
        | '=' :: value => ([.value switch (String.ofList value)], false)
        | value => ([.value switch (String.ofList value)], false)
      else
        let (others, used) := shortSettings known next rest
        (.on switch :: others, used)

/-- What a word with switches says, and whether it uses up the next word. -/
def settings (known : List Switch) (next : Option String) (word : List Char) :
    List Setting × Bool :=
  match word with
  | '-' :: '-' :: text => longSetting known next text
  | _ :: letters => shortSettings known next letters
  | [] => ([], false)

/-! ## Commands -/

/-- What has been found on the command line. -/
structure Found where
  given : List Switch := []
  format : Option OutputFormat := none
  rows : Option Nat := none
  cols : Option Nat := none
  operands : List String := []

/-- Reads the name of an output format. -/
def OutputFormat.ofString? : String → Option OutputFormat
  | "table" => some .table
  | "json" => some .json
  | _ => none

/-- Reads a size: digits, perhaps behind a plus sign, that make an index. -/
def sizeOfText? (text : String) : Option Nat :=
  let digits := match text.toList with
    | '+' :: rest => rest
    | whole => whole
  let size := decimalValue digits
  if !digits.isEmpty && digits.all Char.isDigit && size < indexLimit then some size else none

/-- Takes note of a value. -/
def Found.put? (found : Found) (switch : Switch) (text : String) : Option Found :=
  match switch with
  | .format => do return { found with format := some (← OutputFormat.ofString? text) }
  | .rows => do return { found with rows := some (← sizeOfText? text) }
  | .cols => do return { found with cols := some (← sizeOfText? text) }
  | .help | .version | .verbose => none

/-- Takes note of a setting, or gives the request that settles the matter. -/
def Found.add (found : Found) (setting : Setting) : Except Request Found :=
  match setting with
  | .on .help => .error .help
  | .on .version => .error .version
  | .on switch =>
    if switch ∈ found.given then .error .misuse
    else .ok { found with given := switch :: found.given }
  | .value switch text =>
    if switch ∈ found.given then .error .misuse
    else
      match found.put? switch text with
      | some found => .ok { found with given := switch :: found.given }
      | none => .error .misuse
  | .misfit => .error .misuse

/-- The names of the commands. -/
inductive CommandName where
  | eval
  | cell
  | new
  | functions
  deriving DecidableEq, Repr

/-- Reads the name of a command. -/
def CommandName.ofString? : String → Option CommandName
  | "eval" => some .eval
  | "cell" => some .cell
  | "new" => some .new
  | "functions" => some .functions
  | _ => none

/-- The switches that a command knows. -/
def CommandName.switches : CommandName → List Switch
  | .eval => [.help, .verbose, .format]
  | .cell => [.help, .verbose]
  | .new => [.help, .verbose, .rows, .cols]
  | .functions => [.help, .verbose]

/-- The number of operands that a command needs. -/
def CommandName.operandCount : CommandName → Nat
  | .eval => 1
  | .cell => 2
  | .new => 0
  | .functions => 0

/-- Takes note of an operand. The first one names a file and must not be empty. -/
def Found.addOperand (name : CommandName) (found : Found) (word : String) :
    Except Request Found :=
  if name.operandCount ≤ found.operands.length || (found.operands.isEmpty && word.isEmpty) then
    .error .misuse
  else .ok { found with operands := found.operands ++ [word] }

/-- Takes note of all words after the name of a command. `literally` says whether `--` has been
met. -/
def Found.addWords (name : CommandName) (literally : Bool) (found : Found) :
    List String → Except Request Found
  | [] => .ok found
  | word :: rest =>
    if literally || !isSwitch word.toList then do
      addWords name literally (← found.addOperand name word) rest
    else if word == "--" then addWords name true found rest
    else
      match settings name.switches rest.head? word.toList, rest with
      | (here, true), _ :: rest => do addWords name false (← here.foldlM Found.add found) rest
      | (here, _), rest => do addWords name false (← here.foldlM Found.add found) rest

/-- The command that has been found. -/
def Found.request (name : CommandName) (found : Found) : Request :=
  match name, found.operands with
  | .eval, [input] => .run (.eval input (found.format.getD .table))
  | .cell, [input, address] => .run (.cell input address)
  | .new, [] => .run (.new found.rows found.cols)
  | .functions, [] => .run .functions
  | _, _ => .misuse

/-- What the words after the name of a command ask for. -/
def requestOf (name : CommandName) (words : List String) : Request :=
  match Found.addWords name false {} words with
  | .ok found => found.request name
  | .error request => request

/-- What the words after `help` ask for: help on all commands or on one. -/
def helpRequest : List String → Request
  | [] => .help
  | [word] =>
    if (CommandName.ofString? word).isSome || word == "help" then .help else .misuse
  | _ => .misuse

/-- What the words of a command line ask for, when `found` has been found before them. -/
def requestAfter (found : Found) : List String → Request
  | [] => .misuse
  | word :: rest =>
    if isSwitch word.toList then
      match (settings [.help, .version, .verbose] none word.toList).1.foldlM Found.add found with
      | .ok found => requestAfter found rest
      | .error request => request
    else if word == "help" then helpRequest rest
    else
      match CommandName.ofString? word with
      | some name => requestOf name rest
      | none => .misuse

/-- What a command line asks for. -/
def Request.ofWords (words : List String) : Request :=
  requestAfter {} words

end FormulaTable.CommandLine
