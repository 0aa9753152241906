import FormulaTable.CommandLine.Report
import FormulaTable.Proofs.Table.Views
import Mathlib

/-!
# `FormulaTable.Proofs.CommandLine.Report`: the command line tells one story

The commands `eval`, `cell` and `new` are seen through what they print and how they end.

* `rowsOfPrinted?_jsonRows`: what is printed as JSON is read back. It is spread over lines, so its
  tokens are read past the line breaks and the blanks in front of them (`reads_jsonArray`), and then
  put together as those of any array.
* `run_eval` and `run_cell_cases`: the values of all cells, and the description of one. A cell is
  described only if its address can be read and it lies in the grid.
* `ofBlob_new`: what `new` prints is read back as a blank grid.

`tells_one_story` joins them. That the value of a cell is the entry of the JSON text at its place,
is `Table.displayRows_eq`: the one is made of the other.
-/

set_option autoImplicit false

namespace FormulaTable.CommandLine

open Json (Token)

/-! ## Rows as JSON -/

/-- The rows of texts that a JSON text holds: an array of arrays of strings. -/
def rowsOfPrinted? (text : String) : Option (List (List String)) := do
  (← (← Json.ofString? text).items?).mapM fun row => do (← row.items?).mapM Json.text?

/-- A mark is read as itself. -/
theorem reads_mark {token : Token} (h : token ∈ Token.marks) : Token.Reads token.chars [token] :=
  .token (Token.selfDelimiting_of_mem_marks token h)

/-- A line break is no token. -/
theorem reads_lineBreak : Token.Reads ['\n'] [] :=
  .separators (List.forall_mem_singleton.mpr rfl)

/-- The end of a line adds nothing to what is read. -/
theorem reads_line {text : String} {tokens : List Token} (h : Token.Reads text.toList tokens) :
    Token.Reads (text ++ "\n").toList tokens := by
  have hwhole := h.append reads_lineBreak
  rw [List.append_nil] at hwhole
  rw [String.toList_append]
  exact hwhole

section
variable {α : Type} {text : α → String} {tokens : α → List Token}

/-- Entries on lines of their own are read as the entries with commas between them. -/
theorem reads_lines {margin : List Char} (hmargin : ∀ c ∈ margin, Json.isSeparator c)
    {items : List α} (h : ∀ item ∈ items, Token.Reads (text item).toList (tokens item)) :
    Token.Reads ([',', '\n'].intercalate (items.map fun item => margin ++ (text item).toList))
      (Grid.separated (items.map tokens)) := by
  have hline : ∀ item ∈ items, Token.Reads (margin ++ (text item).toList) (tokens item) :=
    fun item hitem => (Token.Reads.separators hmargin).append (h item hitem)
  induction items with
  | nil => exact fun _ _ => rfl
  | cons item rest ih =>
      have hfirst := hline item List.mem_cons_self
      cases rest with
      | nil => simpa [Grid.separated] using hfirst
      | cons next rest =>
          have hrest := ih (fun other hother => h other (List.mem_cons_of_mem item hother))
            fun other hother => hline other (List.mem_cons_of_mem item hother)
          rw [List.map_cons, List.map_cons, List.intercalate_cons_cons, List.append_assoc]
          -- Behind the comma the next line begins.
          have hcomma : Token.Reads [',', '\n'] [.comma] :=
            (reads_mark (by decide : Token.comma ∈ Token.marks)).append reads_lineBreak
          exact hfirst.append (hcomma.append hrest)

/-- The characters of an array with entries: a line for each entry, between brackets. -/
theorem toList_jsonArray (indent : Nat) {entries : List String} (h : entries ≠ []) :
    (jsonArray indent entries).toList
      = ['['] ++ ['\n'] ++ [',', '\n'].intercalate (entries.map fun entry =>
          (List.replicate indent ' ' ++ [' ', ' ']) ++ entry.toList)
        ++ (['\n'] ++ List.replicate indent ' ' ++ [']']) := by
  have hentries : entries.isEmpty = false := by simpa using h
  have hline : ∀ entry : String, (String.ofList (List.replicate indent ' ') ++ "  " ++ entry).toList
      = (List.replicate indent ' ' ++ [' ', ' ']) ++ entry.toList := by
    intro entry
    rw [String.toList_append, String.toList_append, String.toList_ofList]
    rfl
  have hlines :
      ((entries.map fun entry => String.ofList (List.replicate indent ' ') ++ "  " ++ entry).map
        String.toList)
      = entries.map fun entry => (List.replicate indent ' ' ++ [' ', ' ']) ++ entry.toList := by
    rw [List.map_map]
    exact List.map_congr_left fun entry _ => hline entry
  simp only [jsonArray, hentries, Bool.false_eq_true, if_false, String.toList_append,
    String.toList_intercalate, String.toList_ofList, hlines]
  -- Both sides put the same pieces together in another order.
  simp only [List.append_assoc]
  rfl

/-- An array that is spread over lines is read as an array, however far it is indented. -/
theorem reads_jsonArray (indent : Nat) {items : List α}
    (h : ∀ item ∈ items, Token.Reads (text item).toList (tokens item)) :
    Token.Reads (jsonArray indent (items.map text)).toList
      (Grid.arrayTokens (items.map tokens)) := by
  have hopen : Token.Reads ['['] [.openBracket] :=
    reads_mark (by decide : Token.openBracket ∈ Token.marks)
  have hclose : Token.Reads [']'] [.closeBracket] :=
    reads_mark (by decide : Token.closeBracket ∈ Token.marks)
  have hblanks : ∀ n, ∀ c ∈ List.replicate n ' ', Json.isSeparator c := by
    intro n c hc
    rw [List.eq_of_mem_replicate hc]
    rfl
  cases items with
  | nil =>
      rw [show jsonArray indent (([] : List α).map text) = "[]" from rfl]
      exact hopen.append hclose
  | cons item rest =>
      -- The brackets stand on lines of their own, the entries two blanks further in.
      have hmargin : ∀ c ∈ List.replicate indent ' ' ++ [' ', ' '], Json.isSeparator c :=
        fun c hc => (List.mem_append.mp hc).elim (hblanks indent c) (hblanks 2 c)
      have hlines := reads_lines hmargin h
      have hend := (reads_lineBreak.append (Token.Reads.separators (hblanks indent))).append hclose
      rw [toList_jsonArray indent (by simp), List.map_map]
      exact ((hopen.append reads_lineBreak).append hlines).append hend

end

/-- The rows that are printed as JSON are read back, past the end of the line too. -/
theorem rowsOfPrinted?_jsonRows (rows : List (List String)) :
    rowsOfPrinted? (jsonRows rows ++ "\n") = some rows := by
  have hentry : ∀ raw : String, Token.Reads (jsonText raw).toList [.ofText raw] := by
    intro raw
    exact .join (List.forall_mem_singleton.mpr (Token.selfDelimiting_ofText raw))
  have hrow : ∀ row : List String, Token.Reads (jsonArray 2 (row.map jsonText)).toList
      (Grid.arrayTokens (row.map fun raw => [.ofText raw])) :=
    fun row => reads_jsonArray 2 fun raw _ => hentry raw
  have hreads : Token.Reads (jsonRows rows ++ "\n").toList
      (Grid.arrayTokens (rows.map fun row =>
        Grid.arrayTokens (row.map fun raw => [.ofText raw]))) :=
    reads_line (reads_jsonArray 0 fun row _ => hrow row)
  -- What is printed is read as tokens, and these spell rows of texts.
  have hspells := Json.Spells.array
    (fun row : List String => Json.Spells.array (fun raw => Json.Spells.text raw) row) rows
  rw [rowsOfPrinted?, hspells.ofString? hreads]
  show (rows.map fun row => Json.array (row.map Json.ofText)).mapM
    (fun row => do (← row.items?).mapM Json.text?) = some rows
  refine mapM_map_eq_some fun row _ => ?_
  show (row.map Json.ofText).mapM Json.text? = some row
  exact mapM_map_eq_some fun raw _ => Json.text?_ofText raw

/-! ## What is asked for -/

/-- A dash stands for the standard input. -/
theorem isStandard_dash : isStandard "-" = true := by
  cbv

/-- Whatever is no switch is an operand. -/
theorem addWords_operand {word : String} (h : isSwitch word.toList = false) (name : CommandName)
    (found : Found) (rest : List String) :
    Found.addWords name false found (word :: rest)
      = (found.addOperand name word).bind fun found => Found.addWords name false found rest := by
  rw [Found.addWords.eq_def]
  simp only [h, Bool.not_false, Bool.or_true, if_true]
  rfl

/-- Whatever does not begin with a dash may stand where an address is asked for. -/
theorem ofWords_cell {address : String} (h : address.toList.head? ≠ some '-') :
    Request.ofWords ["cell", "-", address] = .run (.cell "-" address) := by
  have hswitch : isSwitch address.toList = false := by simp [isSwitch, h]
  have hwords : Found.addWords .cell false {} ["-", address]
      = .ok { operands := ["-", address] } := by
    show Found.addWords .cell false { operands := ["-"] } [address] = _
    rw [addWords_operand hswitch]
    rfl
  show requestOf .cell ["-", address] = _
  rw [requestOf, hwords]
  rfl

/-- Digits are read as a size up to the last index. -/
theorem sizeOfText?_of_digits {text : String} (hne : text.toList ≠ [])
    (hdigit : ∀ c ∈ text.toList, c.isDigit) (h : decimalValue text.toList < indexLimit) :
    sizeOfText? text = some (decimalValue text.toList) := by
  unfold sizeOfText?
  extract_lets digits size
  -- No plus sign is taken off the front.
  have hsame : digits = text.toList := by
    simp only [digits]
    split
    · next rest heq =>
        have hplus := hdigit '+' (by simp [heq])
        cases hplus
    · rfl
  have hsize : size = decimalValue text.toList := congrArg decimalValue hsame
  rw [hsame, hsize, if_pos]
  simpa [hne, h] using hdigit

/-- A number is written with digits, so it is no switch, and it is read as a size up to the last
index. -/
theorem size_toString {n : Nat} (h : n < indexLimit) :
    isSwitch (toString n).toList = false ∧ sizeOfText? (toString n) = some n := by
  have hdigits : (toString n).toList = Nat.toDigits 10 n := String.toList_ofList
  have hdigit : ∀ c ∈ Nat.toDigits 10 n, c.isDigit :=
    fun c hc => Nat.isDigit_of_mem_toDigits (by decide) (by decide) hc
  have hne : Nat.toDigits 10 n ≠ [] := Nat.toDigits_ne_nil
  have hvalue : decimalValue (Nat.toDigits 10 n) = n := by
    rw [decimalValue_eq, Nat.ofDigitChars_ten_toDigits]
  rw [← hdigits] at hdigit hne hvalue
  constructor
  · obtain ⟨c, rest, hchars⟩ := List.exists_cons_of_ne_nil hne
    -- The number begins with a digit, so it is no switch.
    have hdash : c ≠ '-' := by
      rintro rfl
      have hdash := hdigit '-' (by rw [hchars]; exact List.mem_cons_self)
      cases hdash
    rw [isSwitch, hchars]
    simp [hdash]
  · rw [sizeOfText?_of_digits hne hdigit (hvalue.symm ▸ h), hvalue]

/-- The words that give a size, if there is one. -/
def sizeWords (word : String) : Option Nat → List String
  | none => []
  | some n => [word, toString n]

/-- The words that ask for a new blob. -/
def newWords (rows cols : Option Nat) : List String :=
  "new" :: (sizeWords "--rows" rows ++ sizeWords "--cols" cols)

/-- A value that is given in the next word is taken note of. -/
theorem addWords_value {name : CommandName} {found found' : Found} {switch : Switch}
    {word value : String} (hword : isSwitch word.toList ∧ word ≠ "--")
    (hsettings : settings name.switches (some value) word.toList
      = ([valueInNext switch (some value)], true))
    (hvalue : isSwitch value.toList = false) (hgiven : switch ∉ found.given)
    (hput : found.put? switch value = some found') (rest : List String) :
    Found.addWords name false found (word :: value :: rest)
      = Found.addWords name false { found' with given := switch :: found'.given } rest := by
  have hnext : valueInNext switch (some value) = .value switch value := by
    simp [valueInNext, hvalue]
  have hadd : found.add (.value switch value)
      = .ok { found' with given := switch :: found'.given } := by
    simp [Found.add, hgiven, hput]
  rw [Found.addWords.eq_def]
  have hdashes : (word == "--") = false := by simpa using hword.2
  simp only [hword.1, hdashes, List.head?_cons, hsettings, hnext]
  -- The two words say one thing, which is taken note of before the others are read.
  simp only [Bool.not_true, Bool.or_self, Bool.false_eq_true, if_false, List.foldlM_cons,
    List.foldlM_nil, hadd]
  rfl

/-- Sizes may be given or left out. -/
theorem ofWords_newWords {rows cols : Option Nat} (hrows : ∀ n ∈ rows, n < indexLimit)
    (hcols : ∀ n ∈ cols, n < indexLimit) :
    Request.ofWords (newWords rows cols) = .run (.new rows cols) := by
  have hgiveRows : ∀ n ∈ rows, ∀ rest, Found.addWords .new false {} ("--rows" :: toString n :: rest)
      = Found.addWords .new false { given := [.rows], rows := some n } rest := by
    intro n hn rest
    obtain ⟨hnumber, hsize⟩ := size_toString (hrows n hn)
    have hput : ({} : Found).put? .rows (toString n) = some { rows := some n } := by
      rw [Found.put?, hsize]
      rfl
    exact addWords_value (by decide) rfl hnumber (by simp) hput rest
  have hgiveCols : ∀ n ∈ cols, ∀ found : Found, .cols ∉ found.given →
      Found.addWords .new false found ["--cols", toString n]
        = .ok { found with given := .cols :: found.given, cols := some n } := by
    intro n hn found hgiven
    obtain ⟨hnumber, hsize⟩ := size_toString (hcols n hn)
    have hput : found.put? .cols (toString n) = some { found with cols := some n } := by
      rw [Found.put?, hsize]
      rfl
    exact addWords_value (by decide) rfl hnumber hgiven hput []
  -- A switch uses up the word behind it, so the cases are which of the two switches are there.
  cases rows with
  | none =>
      cases cols with
      | none => rfl
      | some m =>
          show requestOf .new ["--cols", toString m] = _
          rw [requestOf, hgiveCols m rfl {} (by simp)]
          rfl
  | some n =>
      cases cols with
      | none =>
          show requestOf .new ["--rows", toString n] = _
          rw [requestOf, hgiveRows n rfl]
          rfl
      | some m =>
          show requestOf .new ["--rows", toString n, "--cols", toString m] = _
          rw [requestOf, hgiveRows n rfl, hgiveCols m rfl _ (by simp)]
          rfl

/-! ## What is printed -/

section
variable (ambient : Ambient) (source : Input)

/-- A command with an output prints it and succeeds. -/
theorem run_of_ok {words : List String} {command : Command} {output : String}
    (hwords : Request.ofWords words = .run command)
    (houtcome : command.outcome ambient source = .ok output) :
    run ambient source words = { output } := by
  rw [run, hwords]
  simp only [houtcome]

/-- A command that fails prints nothing, reports its failure and has the code of one. -/
theorem run_of_error {words : List String} {command : Command} {failure : Failure}
    (hwords : Request.ofWords words = .run command)
    (houtcome : command.outcome ambient source = .error failure) :
    run ambient source words = { report := failure.report, code := failureCode } := by
  rw [run, hwords]
  simp only [houtcome]

/-- The table on the standard input. -/
theorem Input.table_dash : source.table "-" = .ok (Table.ofBlob {} source.standard) := by
  rw [Input.table, Input.read, if_pos isStandard_dash]
  rfl

/-- A table is evaluated to the texts that its cells show. -/
theorem run_eval : run ambient source ["eval", "-", "--format", "json"]
    = { output := jsonRows ((Table.ofBlob {} source.standard).displayRows ambient) ++ "\n" } := by
  have houtcome : (Command.eval "-" .json).outcome ambient source
      = .ok (jsonRows ((Table.ofBlob {} source.standard).displayRows ambient) ++ "\n") := by
    rw [Command.outcome, source.table_dash]
    rfl
  exact run_of_ok ambient source rfl houtcome

/-- A cell is described if its address can be read and it lies in the grid. -/
theorem cellText_of_text {t : Table} {address raw : String} {cell : CellRef}
    (haddress : CellRef.ofString? address = some cell) (hraw : t.raw? cell = some raw) :
    cellText ambient t address = .ok ("Cell: " ++ cell.toText ++ "\nRaw: " ++ raw ++ "\nValue: " ++
      t.display ambient cell ++ "\nFormula: " ++
      (if t.holdsFormula cell then "true" else "false") ++ "\n") := by
  have hformula : t.holdsFormula cell = isFormula raw := by
    rw [Table.holdsFormula, Grid.holdsFormula, show t.grid.text? cell = some raw from hraw]
    rfl
  rw [hformula]
  simp only [cellText, haddress, hraw]

/-- Otherwise a failure is reported. -/
theorem exists_failure_of_cellText {t : Table} {address : String}
    (h : ∀ cell, CellRef.ofString? address = some cell → t.raw? cell = none) :
    ∃ failure, cellText ambient t address = .error failure := by
  cases haddress : CellRef.ofString? address with
  | none => exact ⟨.badAddress address, by simp only [cellText, haddress]⟩
  | some cell =>
      refine ⟨.outside { cell, rows := t.grid.rowCount, cols := t.grid.colCount }, ?_⟩
      simp only [cellText, haddress, h cell haddress]

/-- The program ends in one of two ways when it is asked for a cell. -/
theorem run_cell_cases {address : String} (h : address.toList.head? ≠ some '-') :
    let t := Table.ofBlob {} source.standard
    let shown := run ambient source ["cell", "-", address]
    (∃ cell raw, CellRef.ofString? address = some cell ∧ t.raw? cell = some raw ∧ shown.code = 0 ∧
      shown.output = "Cell: " ++ cell.toText ++ "\nRaw: " ++ raw ++ "\nValue: " ++
        t.display ambient cell ++ "\nFormula: " ++
        (if t.holdsFormula cell then "true" else "false") ++ "\n") ∨
    ((∀ cell, CellRef.ofString? address = some cell → t.raw? cell = none) ∧ shown.code = 1) := by
  intro t shown
  have hwords := ofWords_cell h
  have houtcome : (Command.cell "-" address).outcome ambient source
      = cellText ambient t address := by
    rw [Command.outcome, source.table_dash]
    rfl
  -- Either there is a text to describe, or the command fails.
  by_cases hfound : ∃ cell raw, CellRef.ofString? address = some cell ∧ t.raw? cell = some raw
  · obtain ⟨cell, raw, hread, hraw⟩ := hfound
    have hshown : shown = { output := _ } :=
      run_of_ok ambient source hwords (houtcome.trans (cellText_of_text ambient hread hraw))
    exact Or.inl ⟨cell, raw, hread, hraw, by rw [hshown], by rw [hshown]⟩
  · have hnone : ∀ cell, CellRef.ofString? address = some cell → t.raw? cell = none :=
      fun cell hread => Option.eq_none_iff_forall_ne_some.mpr fun raw hraw =>
        hfound ⟨cell, raw, hread, hraw⟩
    obtain ⟨failure, hfailure⟩ := exists_failure_of_cellText ambient hnone
    have hshown : shown = { report := failure.report, code := failureCode } :=
      run_of_error ambient source hwords (houtcome.trans hfailure)
    exact Or.inr ⟨hnone, by rw [hshown]; rfl⟩

end

/-! ## A new blob -/

/-- What `new` prints is read back as a blank grid, past the end of the line too. -/
theorem ofBlob_new (config : GridConfig) (g : Grid) : Grid.ofBlob config (g.toBlob ++ "\n") = g :=
  Grid.ofBlob_of_ofString? config (g.spells_blobTokens.ofString? (reads_line g.reads_toBlob))

/-- The command line tells one story about the table on the standard input. The values of all cells
are printed as JSON, from which they are read back as the table shows them. A cell is described
exactly if its address can be read and it lies in the grid; otherwise the program fails. The
description has the address of the cell, its raw text, the entry of the JSON text at its place, and
whether it is a formula. What is printed for a new table is read back as a blank grid, of the sizes
that are asked for, but of one row and one column at least; all sizes may be asked for. -/
theorem tells_one_story (ambient : Ambient) (source : Input) :
    let t := Table.ofBlob {} source.standard
    let printed := run ambient source ["eval", "-", "--format", "json"]
    (printed.code = 0 ∧ rowsOfPrinted? printed.output = some (t.displayRows ambient)) ∧
    (∀ address : String, address.toList.head? ≠ some '-' →
      let shown := run ambient source ["cell", "-", address]
      (shown.code = 0 ↔ ∃ cell, CellRef.ofString? address = some cell ∧ t.grid.contains cell) ∧
      (shown.code = 0 ∨ shown.code = 1) ∧
      ∀ cell, CellRef.ofString? address = some cell → t.grid.contains cell →
        ∃ raw value, t.raw? cell = some raw ∧
          (rowsOfPrinted? printed.output).bind (entryAt? · cell) = some value ∧
          shown.output = "Cell: " ++ cell.toText ++ "\nRaw: " ++ raw ++ "\nValue: " ++ value ++
            "\nFormula: " ++ (if t.holdsFormula cell then "true" else "false") ++ "\n") ∧
    (∀ words rows cols, Request.ofWords words = .run (.new rows cols) →
      let made := run ambient source words
      made.code = 0 ∧ ∀ config, (Grid.ofBlob config made.output).rows
        = List.replicate (max (rows.getD 3) 1) (List.replicate (max (cols.getD 3) 1) "")) ∧
    ∀ rows cols : Option Nat, (∀ n ∈ rows, n < indexLimit) → (∀ n ∈ cols, n < indexLimit) →
      Request.ofWords (newWords rows cols) = .run (.new rows cols) := by
  intro t printed
  have hprinted : printed = { output := jsonRows (t.displayRows ambient) ++ "\n" } :=
    run_eval ambient source
  have hdecoded : rowsOfPrinted? printed.output = some (t.displayRows ambient) := by
    rw [hprinted]
    exact rowsOfPrinted?_jsonRows _
  have hcontains : ∀ {cell raw}, t.raw? cell = some raw → t.grid.contains cell := by
    intro cell raw hraw
    rw [← Grid.isSome_text?]
    exact Option.isSome_of_eq_some hraw
  refine ⟨⟨by rw [hprinted], hdecoded⟩, ?_, ?_, fun _ _ => ofWords_newWords⟩
  · intro address haddress shown
    rcases run_cell_cases ambient source haddress with
      ⟨cell, raw, hread, hraw, hcode, houtput⟩ | ⟨hnone, hcode⟩
    · have hcell : t.grid.contains cell := hcontains hraw
      refine ⟨iff_of_true hcode ⟨cell, hread, hcell⟩, Or.inl hcode, ?_⟩
      intro other hother _
      obtain rfl : cell = other := Option.some.inj (hread.symm.trans hother)
      refine ⟨raw, t.display ambient cell, hraw, ?_, houtput⟩
      -- The printed rows are made of what each cell shows by itself.
      rw [hdecoded, Option.bind_some, t.displayRows_eq, Grid.entryAt?_tabulate_counts, if_pos hcell]
    · -- There is a raw text everywhere in the grid, so the cell lies outside.
      have hout : ∀ cell, CellRef.ofString? address = some cell → ¬ t.grid.contains cell := by
        intro cell hread
        rw [← Grid.isSome_text?, show t.grid.text? cell = none from hnone cell hread]
        simp
      have hfailed : ¬ shown.code = 0 := by
        rw [show shown.code = 1 from hcode]
        decide
      refine ⟨iff_of_false hfailed ?_, Or.inr hcode, fun cell hread hcell =>
        absurd hcell (hout cell hread)⟩
      rintro ⟨cell, hread, hcell⟩
      exact hout cell hread hcell
  · intro words rows cols hwords made
    have hmade : made = { output := (Table.ofConfig ⟨rows.getD 3, cols.getD 3⟩).toBlob ++ "\n" } :=
      run_of_ok ambient source hwords rfl
    refine ⟨by rw [hmade], fun config => ?_⟩
    rw [hmade, Table.toBlob, ofBlob_new]
    rfl

/-- A table with a formula in its second column. A cell is found by an address in small letters with
a blank in front, a cell in the next row is not, and of a new table without columns there is one
column. -/
theorem tells_one_story_of_formula :
    let g := Grid.ofRows [["2", "=A1*3"]]
    let source : Input := { standard := g.toBlob, file := fun path => .error path }
    let printed := run .morning source ["eval", "-", "--format", "json"]
    let shown := run .morning source ["cell", "-", " b1"]
    (shown.code = 0 ∧ ∃ value,
      (rowsOfPrinted? printed.output).bind (entryAt? · ⟨0, 1⟩) = some value ∧
      shown.output = "Cell: " ++ "B1" ++ "\nRaw: " ++ "=A1*3" ++ "\nValue: " ++ value ++
        "\nFormula: " ++ "true" ++ "\n") ∧
    (run .morning source ["cell", "-", "B2"]).code = 1 ∧
    (Grid.ofBlob {} (run .morning source (newWords none (some 0))).output).rows
      = [[""], [""], [""]] := by
  intro g source printed shown
  obtain ⟨-, hcell, hnew, hwords⟩ := tells_one_story .morning source
  have hgrid : (Table.ofBlob {} source.standard).grid = g := g.ofBlob_toBlob {}
  refine ⟨?_, ?_, ?_⟩
  · obtain ⟨hcode, -, hshown⟩ := hcell " b1" (by decide)
    have hread : CellRef.ofString? " b1" = some ⟨0, 1⟩ := by decide
    have hin : (Table.ofBlob {} source.standard).grid.contains ⟨0, 1⟩ := by
      rw [hgrid]
      decide
    obtain ⟨raw, value, hraw, hvalue, houtput⟩ := hshown ⟨0, 1⟩ hread hin
    refine ⟨hcode.mpr ⟨_, hread, hin⟩, value, hvalue, ?_⟩
    -- The cell is `B1`, whatever letters and blanks were used to name it.
    have hraw' : (Table.ofBlob {} source.standard).raw? ⟨0, 1⟩ = some "=A1*3" := by
      rw [Table.raw?, hgrid]
      decide
    obtain rfl := Option.some.inj (hraw.symm.trans hraw')
    have hformula : g.holdsFormula ⟨0, 1⟩ = true := by decide
    have htext : (⟨0, 1⟩ : CellRef).toText = "B1" := by decide +kernel
    rw [houtput, Table.holdsFormula, hgrid, hformula, htext, if_pos rfl]
  · obtain ⟨hcode, hcodes, -⟩ := hcell "B2" (by decide)
    refine hcodes.resolve_left fun hzero => ?_
    obtain ⟨cell, hread, hin⟩ := hcode.mp hzero
    have hread' : CellRef.ofString? "B2" = some ⟨1, 1⟩ := by decide
    obtain rfl := Option.some.inj (hread'.symm.trans hread)
    rw [hgrid] at hin
    exact absurd hin (by decide)
  · exact (hnew _ none (some 0) (hwords none (some 0) (by simp) (by decide))).2 {}

end FormulaTable.CommandLine
