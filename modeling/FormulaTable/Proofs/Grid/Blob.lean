import FormulaTable.Grid.Blob
import FormulaTable.Proofs.Json.RoundTrip
import Mathlib.Data.List.Forall2

/-!
# `FormulaTable.Proofs.Grid.Blob`: a blob holds the whole grid

`Grid.ofBlob_toBlob` says that a grid is read back from its blob, under every configuration. The
tokens of the blob are read back from its text (`Json.Token.Reads.join`). They are put together to
the value `Grid.toJson`, which holds the rows of the grid. The rows are equally wide, so nothing is
padded, and there is a cell among them, so the configured size is never needed. Only the value
matters for this, so every other text that spells it gives the same grid
(`Grid.ofBlob_of_ofString?`); `Grid.blob_loses_nothing` joins the two.

Putting tokens together keeps a stack of open containers, so the induction over the entries of an
array has to be about every stack and all that follows: `Json.Spells` is what it carries.
-/

set_option autoImplicit false

namespace FormulaTable

open Json (Token)

/-! ## Tokens of values -/

/-- What stands between commas begins with its first entry. -/
theorem Grid.exists_separated_cons (item : List Token) (items : List (List Token)) :
    ∃ others, separated (item :: items) = item ++ others := by
  cases items with
  | nil => exact ⟨[], (List.append_nil item).symm⟩
  | cons next items => exact ⟨.comma :: separated (next :: items), rfl⟩

namespace Json

/-- An array that does not end at once has entries. -/
theorem assemble_openBracket {token : Token} (h : token ≠ .closeBracket) (frames : List Frame)
    (rest : List Token) :
    assemble frames none (.openBracket :: token :: rest)
      = assemble (.array [] :: frames) none (token :: rest) := by
  rw [assemble]
  intro rest' heq
  exact h (List.cons.inj heq).1

/-- The tokens are put together to the value, wherever they stand. -/
def Spells (tokens : List Token) (value : Json) : Prop :=
  ∀ frames rest, assemble frames none (tokens ++ rest) = assemble frames (some value) rest

/-- The value of a string that holds a text. -/
def ofText (text : String) : Json :=
  .string (text.toList.map .char)

/-- The value of a record with one field. -/
def record (name : String) (value : Json) : Json :=
  .object [(name.toList.map .char, value)]

namespace Spells

variable {tokens : List Token} {value : Json}

/-- Tokens that spell a value are read as it. -/
theorem ofTokens? (h : Spells tokens value) : Json.ofTokens? tokens = some value := by
  have hwhole := h [] []
  rw [List.append_nil] at hwhole
  rw [Json.ofTokens?, hwhole]
  rfl

/-- A text spells the value that its tokens are put together to. -/
theorem ofString? {text : String} (h : Spells tokens value)
    (hread : Token.Reads text.toList tokens) :
    Json.ofString? text = some value := by
  rw [Json.ofString?, hread.ofChars?]
  exact h.ofTokens?

/-- A value has a first token, which is not the end of an array. -/
theorem exists_head (h : Spells tokens value) :
    ∃ token more, tokens = token :: more ∧ token ≠ .closeBracket := by
  have hwhole := h.ofTokens?
  cases tokens with
  | nil => cases hwhole
  | cons token more =>
      refine ⟨token, more, rfl, ?_⟩
      rintro rfl
      cases hwhole

/-- A text is spelled by one token. -/
theorem text (raw : String) : Spells [.ofText raw] (.ofText raw) :=
  fun _ _ => rfl

/-- The tokens of a record go around those of its field. -/
theorem record (name : String) (h : Spells tokens value) :
    Spells ([.openBrace, .ofText name, .colon] ++ tokens ++ [.closeBrace])
      (.record name value) := by
  intro frames rest
  show assemble (.object [] _ :: frames) none (tokens ++ [.closeBrace] ++ rest) = _
  rw [List.append_assoc, h]
  rfl

section
variable {α : Type} {tokensOf : α → List Token} {valueOf : α → Json}
  (h : ∀ item, Spells (tokensOf item) (valueOf item))
include h

/-- Inside an array, the entries that are left are put together up to its end. -/
theorem entries (item : α) (items : List α) (done : List Json) (outer : List Frame)
    (rest : List Token) :
    assemble (.array done :: outer) none
        (Grid.separated ((item :: items).map tokensOf) ++ .closeBracket :: rest)
      = assemble outer (some (.array (done.reverse ++ (item :: items).map valueOf))) rest := by
  induction items generalizing item done with
  | nil =>
      -- The end of the array follows its last entry.
      show assemble (.array done :: outer) none (tokensOf item ++ .closeBracket :: rest) = _
      rw [h item, assemble, List.reverse_cons]
      rfl
  | cons next items ih =>
      show assemble (.array done :: outer) none ((tokensOf item ++ .comma ::
        Grid.separated ((next :: items).map tokensOf)) ++ .closeBracket :: rest) = _
      rw [List.append_assoc, h item]
      -- After the comma the array is open again, with one more entry in it.
      show assemble (.array (valueOf item :: done) :: outer) none
        (Grid.separated ((next :: items).map tokensOf) ++ .closeBracket :: rest) = _
      rw [ih next (valueOf item :: done), List.reverse_cons, List.append_assoc]
      rfl

/-- The tokens of an array go around those of its entries. -/
theorem array (items : List α) :
    Spells (Grid.arrayTokens (items.map tokensOf)) (.array (items.map valueOf)) := by
  intro frames rest
  rw [Grid.arrayTokens, List.cons_append, List.append_assoc, List.singleton_append]
  cases items with
  | nil => rfl
  | cons item items =>
      have hentries := entries h item items [] frames rest
      -- The array does not end at once, because its first entry does not begin with the end of one.
      obtain ⟨token, more, htokens, htoken⟩ := (h item).exists_head
      obtain ⟨others, hothers⟩ := Grid.exists_separated_cons (tokensOf item) (items.map tokensOf)
      rw [List.map_cons, hothers, htokens, List.cons_append, List.cons_append] at hentries ⊢
      rw [assemble_openBracket htoken, hentries]
      rfl

end

end Spells
end Json

/-! ## The blob of a grid -/

namespace Grid

/-- The value that the blob of a grid spells. -/
def toJson (g : Grid) : Json :=
  .record "data" (.array (g.rows.map fun row => .array (row.map fun raw =>
    .record "value" (.ofText raw))))

/-- The tokens of a grid spell its value. -/
theorem spells_blobTokens (g : Grid) : Json.Spells g.blobTokens g.toJson := by
  refine .record "data" (.array (fun row => .array (fun raw => ?_) row) g.rows)
  exact .record "value" (.text raw)

/-! ### The text -/

/-- What holds of the tokens of all entries, of brackets and of commas, holds of those of the
array. -/
theorem forall_mem_arrayTokens {P : Token → Prop} {items : List (List Token)}
    (hmarks : ∀ token ∈ Token.marks, P token) (h : ∀ item ∈ items, ∀ token ∈ item, P token) :
    ∀ token ∈ arrayTokens items, P token := by
  -- Between the brackets stand the items and commas, along the recursion that puts the commas.
  have hseparated : ∀ token ∈ separated items, P token := by
    fun_induction separated items with
    | case1 => simp
    | case2 item => exact h item List.mem_cons_self
    | case3 item rest hrest ih =>
        intro token htoken
        rcases List.mem_append.mp htoken with hitem | hmore
        · exact h item List.mem_cons_self token hitem
        · rcases List.mem_cons.mp hmore with rfl | hrest
          · exact hmarks .comma (by decide)
          · exact ih (fun other hother => h other (List.mem_cons_of_mem item hother)) token hrest
  intro token htoken
  rw [arrayTokens, List.mem_cons, List.mem_append, List.mem_singleton] at htoken
  rcases htoken with rfl | htoken | rfl
  · exact hmarks .openBracket (by decide)
  · exact hseparated token htoken
  · exact hmarks .closeBracket (by decide)

/-- What holds of the tokens of a field and of its name, of braces and of the colon, holds of those
of the record. -/
theorem forall_mem_recordTokens {P : Token → Prop} {name : String} {tokens : List Token}
    (hmarks : ∀ token ∈ Token.marks, P token) (hname : P (.ofText name))
    (h : ∀ token ∈ tokens, P token) :
    ∀ token ∈ [.openBrace, .ofText name, .colon] ++ tokens ++ [.closeBrace], P token := by
  have hopen : P .openBrace := hmarks .openBrace (by decide)
  have hcolon : P .colon := hmarks .colon (by decide)
  have hclose : P .closeBrace := hmarks .closeBrace (by decide)
  simp only [List.forall_mem_append, List.forall_mem_cons]
  exact ⟨⟨⟨hopen, hname, hcolon, by simp⟩, h⟩, hclose, by simp⟩

/-- The tokens of a blob are marks and strings, so they are read back. -/
theorem selfDelimiting_of_mem_blobTokens (g : Grid) :
    ∀ token ∈ g.blobTokens, token.SelfDelimiting := by
  have hmarks := Token.selfDelimiting_of_mem_marks
  have htext := Token.selfDelimiting_ofText
  refine forall_mem_recordTokens hmarks (htext "data") (forall_mem_arrayTokens hmarks ?_)
  intro rowTokens hrow
  obtain ⟨row, -, rfl⟩ := List.mem_map.mp hrow
  refine forall_mem_arrayTokens hmarks ?_
  intro tokens hcell
  obtain ⟨raw, -, rfl⟩ := List.mem_map.mp hcell
  exact forall_mem_recordTokens hmarks (htext "value") (List.forall_mem_singleton.mpr (htext raw))

/-- The blob of a grid is read as its tokens. -/
theorem reads_toBlob (g : Grid) : Token.Reads g.toBlob.toList g.blobTokens :=
  .join g.selfDelimiting_of_mem_blobTokens

/-- The blob of a grid spells the value of the grid. -/
theorem ofString?_toBlob (g : Grid) : Json.ofString? g.toBlob = some g.toJson :=
  g.spells_blobTokens.ofString? g.reads_toBlob

end Grid

/-! ### The rows -/

/-- A record with one field is read as that field. -/
theorem Json.fields?_record (name : String) (value : Json) :
    (Json.record name value).fields? [name] = some [some value] := by
  have hname : textOf? (name.toList.map .char) = some name.toList := textOf?_map_char _
  have hmembers : membersNamed name [(name.toList.map .char, value)] = [value] := by
    simp [membersNamed, hname]
  have hfield : field? [(name.toList.map .char, value)] name = some (some value) := by
    rw [field?, hmembers]
  simp [fields?, record, hname, hfield]

/-- A text put into JSON is the text of that. -/
theorem Json.text?_ofText (text : String) : (Json.ofText text).text? = some text := by
  show (textOf? (text.toList.map .char)).map String.ofList = some text
  rw [textOf?_map_char]
  exact congrArg some String.ofList_toList

/-- All entries are read if each of them is. -/
theorem mapM_eq_some_iff {α β : Type} {read : α → Option β} {items : List α} {results : List β} :
    items.mapM read = some results ↔
      List.Forall₂ (fun item result => read item = some result) items results := by
  induction items generalizing results with
  | nil => simp [eq_comm]
  | cons item items ih =>
      rw [List.mapM_cons, List.forall₂_cons_left_iff]
      cases hitem : read item with
      | none => simp
      | some first =>
          cases hrest : items.mapM read with
          | none => simp [← ih, hrest]
          | some others => simp [← ih, hrest, eq_comm]

/-- Reading all entries gives them back if reading each one does. -/
theorem mapM_map_eq_some {α β : Type} {read : β → Option α} {write : α → β} {items : List α}
    (h : ∀ item ∈ items, read (write item) = some item) :
    (items.map write).mapM read = some items := by
  rw [mapM_eq_some_iff, List.forall₂_map_left_iff, List.forall₂_same]
  exact h

namespace Grid

/-- The rows of a grid are read from its value. -/
theorem rowsOfJson?_toJson (g : Grid) : rowsOfJson? g.toJson = some g.rows := by
  have hcell : ∀ raw, rawOfJson? (.record "value" (.ofText raw)) = some raw := by
    intro raw
    rw [rawOfJson?, Json.fields?_record]
    exact Json.text?_ofText raw
  rw [rowsOfJson?, toJson, Json.fields?_record]
  show ((g.rows.map fun row => Json.array (row.map fun raw => .record "value" (.ofText raw))).mapM
    fun row => do (← row.items?).mapM rawOfJson?) = some g.rows
  refine mapM_map_eq_some fun row _ => ?_
  show (row.map fun raw => Json.record "value" (.ofText raw)).mapM rawOfJson? = some row
  exact mapM_map_eq_some fun raw _ => hcell raw

/-- Rows that are equally wide are as wide as the widest. -/
theorem widest_eq {rows : List (List String)} {width : Nat} (hne : rows ≠ [])
    (h : ∀ row ∈ rows, row.length = width) : widest rows = width := by
  induction rows with
  | nil => exact absurd rfl hne
  | cons row rows ih =>
      have hrow : row.length = width := h row List.mem_cons_self
      show max row.length (widest rows) = width
      cases rows with
      | nil =>
          show max row.length 0 = width
          omega
      | cons next rows =>
          have hrest := ih (by simp) fun other hother => h other (List.mem_cons_of_mem row hother)
          omega

/-- A grid is made of its rows. -/
theorem ofRows?_rows (g : Grid) : ofRows? g.rows = some g := by
  have hwidest : widest g.rows = g.colCount := widest_eq g.rows_ne_nil g.length_of_mem
  have hpos : 0 < widest g.rows := hwidest ▸ g.colCount_pos
  rw [ofRows?, dif_pos hpos]
  refine congrArg some (eq_of_rows_eq ?_)
  show g.rows.map (padRow (widest g.rows)) = g.rows
  -- No row is short, so nothing is added to it.
  refine (List.map_congr_left fun row hrow => ?_).trans (List.map_id g.rows)
  rw [padRow, hwidest, g.length_of_mem row hrow, Nat.sub_self]
  exact List.append_nil row

/-- A grid is read from every text that spells its value, whatever the configuration is. -/
theorem ofBlob_of_ofString? (config : GridConfig) {g : Grid} {text : String}
    (h : Json.ofString? text = some g.toJson) : ofBlob config text = g := by
  have hrows : rowsOfBlob? text = some g.rows := by
    rw [rowsOfBlob?, h]
    exact g.rowsOfJson?_toJson
  rw [ofBlob, hrows]
  show (ofRows? g.rows).getD (ofConfig config) = g
  rw [ofRows?_rows]
  rfl

/-- A grid is read back from its blob, whatever the configuration is. -/
theorem ofBlob_toBlob (config : GridConfig) (g : Grid) : ofBlob config g.toBlob = g :=
  ofBlob_of_ofString? config g.ofString?_toBlob

/-- A blob loses nothing of a grid. It is a JSON text, and its value has the rows of the grid, with
every cell as it is. From the blob, and from every other text with this value, the grid is read back
under every configuration. So a text that has been read as a grid, whatever it was, gives the same
grid when it is stored and read again. -/
theorem blob_loses_nothing (config : GridConfig) :
    (∀ g : Grid, Json.ofString? g.toBlob = some g.toJson ∧ ofBlob config g.toBlob = g) ∧
    (∀ (g : Grid) (text : String), Json.ofString? text = some g.toJson → ofBlob config text = g) ∧
    ∀ (earlier : GridConfig) (text : String),
      ofBlob config (ofBlob earlier text).toBlob = ofBlob earlier text := by
  refine ⟨fun g => ⟨g.ofString?_toBlob, g.ofBlob_toBlob config⟩, ?_, ?_⟩
  · intro g text h
    exact ofBlob_of_ofString? config h
  · intro earlier text
    exact (ofBlob earlier text).ofBlob_toBlob config

/-- A quotation mark, a backslash, a control character and a line separator come back. So they do
from a text with blanks, and with a letter escaped that is never written so. -/
theorem blob_loses_nothing_of_escapes :
    let g := ofRows [["A\x22\\\x07\u2028"]]
    let text := "\x7b \"data\":\n[[ \x7b\"value\":\"\\u0041\\\"\\\\\\u0007\u2028\"\x7d ]] \x7d"
    text ≠ g.toBlob ∧ Json.ofString? text = some g.toJson ∧ ofBlob {} g.toBlob = g ∧
      ofBlob {} text = g := by
  intro g text
  obtain ⟨hblob, htext, -⟩ := blob_loses_nothing {}
  have htokens : Token.ofChars? text.toList = some g.blobTokens := by decide +kernel
  have hspelled : Json.ofString? text = some g.toJson := by
    rw [Json.ofString?, htokens]
    exact g.spells_blobTokens.ofTokens?
  exact ⟨by decide +kernel, hspelled, (hblob g).2, htext g text hspelled⟩

end Grid
end FormulaTable
