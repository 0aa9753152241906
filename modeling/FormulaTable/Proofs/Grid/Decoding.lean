import FormulaTable.Proofs.Grid.Blob
import FormulaTable.Proofs.Grid.BoundedMap

/-!
# `FormulaTable.Proofs.Grid.Decoding`: a grid is read from every text

`Grid.ofBlob` gives a grid for every text, so what has to be said is which one. `BlobHolds` relates
a text to the rows of raw texts that it holds as a blob. It is put together from one relation for
each level: the record around the rows (`Json.RecordOf`), a row, and a cell (`CellHolds`), whose raw
text may be left out. Nothing in it is a matter of how a blob is read. `rowsOfBlob?_eq_some_iff`
says that reading finds the rows of a blob, and of nothing else.

From there on the text does not matter any more. Rows with a cell among them are made into the map
with as many columns as the longest of them (`Grid.view_ofRows?`), and
`Grid.ofBlob_reads_every_text` says what the grid has in each of its cells. Without a cell, for
whatever reason, it is the blank grid of the configured size.
-/

set_option autoImplicit false

namespace FormulaTable

/-! ## What a blob holds -/

namespace Json

/-- A member of an object that has another name, which is a text. -/
def IsOtherMember (name : String) (member : List Piece × Json) : Prop :=
  ∃ key, textOf? member.1 = some key ∧ key ≠ name.toList

/-- A value is a record that may have one field, of the given name; `value?` is what the field
holds, if the record has it. A record is an object in which every name is a text and the name of the
field comes once at most, or an array of the value of the field. -/
inductive RecordOf (name : String) : Json → Option Json → Prop where
  | without {members : List (List Piece × Json)}
    (hothers : ∀ member ∈ members, IsOtherMember name member) :
    RecordOf name (.object members) none
  | member {before after : List (List Piece × Json)} {key : List Piece} {value : Json}
    (hkey : textOf? key = some name.toList) (hbefore : ∀ member ∈ before, IsOtherMember name member)
    (hafter : ∀ member ∈ after, IsOtherMember name member) :
    RecordOf name (.object (before ++ (key, value) :: after)) (some value)
  | emptyArray : RecordOf name (.array []) none
  | entry (value : Json) : RecordOf name (.array [value]) (some value)

end Json

/-- A cell of a blob holds a raw text: the one in its field, or a blank one if it has no such
field. -/
inductive CellHolds (cell : Json) : String → Prop where
  | text {value : Json} {raw : String} (hrecord : cell.RecordOf "value" (some value))
    (htext : value.text? = some raw) : CellHolds cell raw
  | blank (hrecord : cell.RecordOf "value" none) : CellHolds cell ""

/-- A row of a blob holds raw texts: it is an array of cells, which hold one each. -/
def RowHolds (row : Json) (texts : List String) : Prop :=
  ∃ cells, row = .array cells ∧ List.Forall₂ CellHolds cells texts

/-- A text is a blob that holds rows of raw texts: it spells a record with an array of rows. -/
def BlobHolds (text : String) (data : List (List String)) : Prop :=
  ∃ blob rows, Json.ofString? text = some blob ∧ blob.RecordOf "data" (some (.array rows)) ∧
    List.Forall₂ RowHolds rows data

/-! ## What is read -/

namespace Json

variable {name : String} {members : List (List Piece × Json)}

/-- Where every name is a text, the members without the name of the field are others. -/
theorem isOtherMember_of_ne {member : List Piece × Json}
    (htext : (textOf? member.1).isSome = true) (hne : textOf? member.1 ≠ some name.toList) :
    IsOtherMember name member := by
  obtain ⟨key, hkey⟩ := Option.isSome_iff_exists.mp htext
  refine ⟨key, hkey, ?_⟩
  rintro rfl
  exact hne hkey

/-- Other members do not count for the field. -/
theorem membersNamed_of_others (hothers : ∀ member ∈ members, IsOtherMember name member) :
    membersNamed name members = [] := by
  rw [membersNamed, List.filterMap_eq_nil_iff]
  intro member hmember
  obtain ⟨key, hkey, hne⟩ := hothers member hmember
  simp [hkey, hne]

/-- Where every name is a text, an object is read as a record with one field. -/
theorem field?_eq_some_iff {value? : Option Json}
    (htexts : ∀ member ∈ members, (textOf? member.1).isSome = true) :
    field? members name = some value? ↔ (Json.object members).RecordOf name value? := by
  constructor
  · intro h
    cases hnamed : membersNamed name members with
    | nil =>
        obtain rfl : none = value? := by simpa [field?, hnamed] using h
        rw [membersNamed, List.filterMap_eq_nil_iff] at hnamed
        refine .without fun member hmember => isOtherMember_of_ne (htexts member hmember) ?_
        simpa using hnamed member hmember
    | cons value more =>
        cases more with
        | cons _ _ => simp [field?, hnamed] at h
        | nil =>
            obtain rfl : some value = value? := by simpa [field?, hnamed] using h
            -- In front of the member with the name, and behind it, there are others only.
            obtain ⟨before, ⟨key, found⟩, after, rfl, hbefore, hfound, hafter⟩ :=
              List.filterMap_eq_cons_iff.mp hnamed
            have hkey : textOf? key = some name.toList ∧ found = value := by
              simpa using hfound
            obtain ⟨hkey, rfl⟩ := hkey
            rw [List.filterMap_eq_nil_iff] at hafter
            refine .member hkey (fun member hmember => ?_) fun member hmember => ?_
            · exact isOtherMember_of_ne (htexts member (by simp [hmember]))
                (by simpa using hbefore member hmember)
            · exact isOtherMember_of_ne (htexts member (by simp [hmember]))
                (by simpa using hafter member hmember)
  · rintro (⟨hothers⟩ | ⟨hkey, hbefore, hafter⟩)
    · rw [field?, membersNamed_of_others hothers]
    · have hnone := membersNamed_of_others hbefore
      have hnone' := membersNamed_of_others hafter
      rw [membersNamed] at hnone hnone'
      simp only [field?, membersNamed, List.filterMap_append, List.filterMap_cons, hnone, hnone',
        hkey, if_true, List.nil_append]

/-- In a record every name is a text. -/
theorem RecordOf.isSome_textOf? {value? : Option Json}
    (h : (Json.object members).RecordOf name value?) :
    ∀ member ∈ members, (textOf? member.1).isSome = true := by
  have hother : ∀ member, IsOtherMember name member → (textOf? member.1).isSome = true := by
    rintro member ⟨key, hkey, -⟩
    rw [hkey]
    rfl
  -- The member of the name itself is read, and so is every member that does not matter.
  rcases h with ⟨hothers⟩ | ⟨hkey, hbefore, hafter⟩
  · exact fun member hmember => hother member (hothers member hmember)
  · intro member hmember
    rcases List.mem_append.mp hmember with hmember | hmember
    · exact hother member (hbefore member hmember)
    · rcases List.mem_cons.mp hmember with rfl | hmember
      · rw [hkey]
        rfl
      · exact hother member (hafter member hmember)

/-- What is read with one field is a record, and the field is read as what the record holds in
it. -/
theorem exists_of_fields? {json : Json} {fields : List (Option Json)}
    (h : json.fields? [name] = some fields) :
    ∃ value?, fields = [value?] ∧ json.RecordOf name value? := by
  cases json with
  | array items =>
      match items with
      | [] => exact ⟨none, (Option.some.inj h).symm, .emptyArray⟩
      | [value] => exact ⟨some value, (Option.some.inj h).symm, .entry value⟩
      | _ :: _ :: _ => simp [fields?] at h
  | object members =>
      simp only [fields?, List.mapM_cons, List.mapM_nil] at h
      split at h
      · next htexts =>
          cases hfield : field? members name with
          | none => simp [hfield] at h
          | some value? =>
              -- Every name is a text here, so a member that is not the field is another one.
              refine ⟨value?, by simpa [hfield, eq_comm] using h, ?_⟩
              exact (field?_eq_some_iff (List.all_eq_true.mp htexts)).mp hfield
      · cases h
  | _ => cases h

/-- A record is read as what it holds in its field. -/
theorem RecordOf.fields?_eq {json : Json} {value? : Option Json} (h : json.RecordOf name value?) :
    json.fields? [name] = some [value?] := by
  cases json with
  | array items => cases h <;> rfl
  | object members =>
      have htexts := h.isSome_textOf?
      simp only [fields?]
      rw [if_pos (List.all_eq_true.mpr htexts), List.mapM_cons, List.mapM_nil,
        (field?_eq_some_iff htexts).mpr h]
      rfl
  | _ => cases h

end Json

/-- A cell of a blob is read as the raw text that it holds. -/
theorem rawOfJson?_eq_some_iff {cell : Json} {raw : String} :
    rawOfJson? cell = some raw ↔ CellHolds cell raw := by
  constructor
  · intro h
    obtain ⟨fields, hfields, hraw⟩ := Option.bind_eq_some_iff.mp h
    obtain ⟨value?, rfl, hrecord⟩ := Json.exists_of_fields? hfields
    cases value? with
    -- A member of that name has to be a text; without one the cell is blank.
    | some value => exact .text hrecord hraw
    | none =>
        obtain rfl : "" = raw := Option.some.inj hraw
        exact .blank hrecord
  · rintro (⟨hrecord, htext⟩ | ⟨hrecord⟩)
    · rw [rawOfJson?, hrecord.fields?_eq]
      exact htext
    · rw [rawOfJson?, hrecord.fields?_eq]
      rfl

/-- A row of a blob is read as the raw texts that it holds. -/
theorem mapM_items?_eq_some_iff {row : Json} {texts : List String} :
    (row.items? >>= fun cells => cells.mapM rawOfJson?) = some texts ↔ RowHolds row texts := by
  have hcells : ∀ cells : List Json,
      cells.mapM rawOfJson? = some texts ↔ List.Forall₂ CellHolds cells texts := by
    intro cells
    rw [mapM_eq_some_iff]
    simp only [rawOfJson?_eq_some_iff]
  constructor
  · intro h
    obtain ⟨cells, hitems, htexts⟩ := Option.bind_eq_some_iff.mp h
    cases row with
    | array items =>
        obtain rfl : items = cells := Option.some.inj hitems
        exact ⟨items, rfl, (hcells items).mp htexts⟩
    | _ => cases hitems
  · rintro ⟨cells, rfl, htexts⟩
    exact (hcells cells).mpr htexts

/-- The rows of a blob are read, and they are the ones that it holds. -/
theorem rowsOfBlob?_eq_some_iff {text : String} {data : List (List String)} :
    rowsOfBlob? text = some data ↔ BlobHolds text data := by
  have hrows : ∀ rows : List Json,
      (rows.mapM fun row => row.items? >>= fun cells => cells.mapM rawOfJson?) = some data ↔
        List.Forall₂ RowHolds rows data := by
    intro rows
    rw [mapM_eq_some_iff]
    simp only [mapM_items?_eq_some_iff]
  constructor
  · intro h
    obtain ⟨blob, hblob, hread⟩ := Option.bind_eq_some_iff.mp h
    obtain ⟨fields, hfields, hdata⟩ := Option.bind_eq_some_iff.mp hread
    obtain ⟨value?, rfl, hrecord⟩ := Json.exists_of_fields? hfields
    -- Without a member for the rows there is no grid to read.
    cases value? with
    | none => cases hdata
    | some value =>
        obtain ⟨rows, hitems, hmapped⟩ := Option.bind_eq_some_iff.mp hdata
        cases value with
        | array items =>
            obtain rfl : items = rows := Option.some.inj hitems
            exact ⟨blob, items, hblob, hrecord, (hrows items).mp hmapped⟩
        | _ => cases hitems
  · rintro ⟨blob, rows, hblob, hrecord, hdata⟩
    rw [rowsOfBlob?, hblob]
    show rowsOfJson? blob = some data
    rw [rowsOfJson?, hrecord.fields?_eq]
    exact (hrows rows).mpr hdata

/-! ## What the grid has -/

namespace Grid

/-- What is read from a blob that holds rows with a cell among them. -/
theorem view_ofBlob_of_holds {config : GridConfig} {text : String} {data : List (List String)}
    (hholds : BlobHolds text data) (hcell : ∃ row ∈ data, row ≠ []) :
    BoundedMap.ofRows? data = some (ofBlob config text).view := by
  have hgrid : (ofRows? data).isSome := by
    rw [ofRows?, dif_pos (widest_pos_iff.mpr hcell)]
    rfl
  obtain ⟨g, hg⟩ := Option.isSome_iff_exists.mp hgrid
  have hread : ofBlob config text = g := by
    rw [ofBlob, rowsOfBlob?_eq_some_iff.mpr hholds]
    show (ofRows? data).getD (ofConfig config) = g
    rw [hg]
    rfl
  rw [← view_ofRows?, hg, hread]
  rfl

/-- Without a cell, the grid has the configured size. -/
theorem ofBlob_of_not_holds {config : GridConfig} {text : String}
    (h : ∀ data, BlobHolds text data → ∀ row ∈ data, row = []) :
    ofBlob config text = ofConfig config := by
  rw [ofBlob]
  cases hrows : rowsOfBlob? text with
  | none => rfl
  | some data =>
      -- Rows that can be read are all empty here, and a grid is not made of empty rows.
      have hempty := h data (rowsOfBlob?_eq_some_iff.mp hrows)
      have hnone : ofRows? data = none := by
        rw [ofRows?, dif_neg]
        rw [widest_pos_iff]
        rintro ⟨row, hrow, hne⟩
        exact hne (hempty row hrow)
      show (ofRows? data).getD (ofConfig config) = ofConfig config
      rw [hnone]
      rfl

/-- The size and the texts of a map of rows. -/
theorem parts_of_mapOfRows? {rows : List (List String)} {m : BoundedMap}
    (h : BoundedMap.ofRows? rows = some m) :
    m.rowCount = rows.length ∧ (rows.map List.length).max? = some m.colCount ∧
      ∀ c, m.text c = (rows[c.row]?.bind (·[c.col]?)).getD "" := by
  rw [BoundedMap.ofRows?] at h
  split at h
  · next hcell =>
      obtain rfl := Option.some.inj h
      refine ⟨rfl, ?_, fun c => rfl⟩
      -- There is a row, so one of them is the longest.
      show (rows.map List.length).max? = some ((rows.map List.length).max?.getD 0)
      obtain ⟨row, hrow, -⟩ := hcell
      cases hmax : (rows.map List.length).max? with
      | none =>
          rw [List.max?_eq_none_iff, List.map_eq_nil_iff] at hmax
          subst hmax
          cases hrow
      | some longest => rfl
  · cases h

/-- A grid is read from every text, with one cell at least and rows that are equally wide. If the
text is a blob with a cell in it, the grid has all its rows, and as many columns as the longest of
them: each cell of the blob is where it was, and what a shorter row lacks is blank. From every other
text it is the grid of the configured size, with one row and one column at least and nothing in
it. -/
theorem ofBlob_reads_every_text (config : GridConfig) (text : String) :
    let g := ofBlob config text
    (0 < g.rowCount ∧ 0 < g.colCount ∧ ∀ row ∈ g.rows, row.length = g.colCount) ∧
    (∀ data, BlobHolds text data → (∃ row ∈ data, row ≠ []) →
      g.rowCount = data.length ∧ (data.map List.length).max? = some g.colCount ∧
      (∀ row col raw, data[row]?.bind (·[col]?) = some raw → g.text? ⟨row, col⟩ = some raw) ∧
      ∀ row col, row < g.rowCount → col < g.colCount → data[row]?.bind (·[col]?) = none →
        g.text? ⟨row, col⟩ = some "") ∧
    ((∀ data, BlobHolds text data → ∀ row ∈ data, row = []) →
      g = ofConfig config ∧
      (g.rowCount = max config.defaultRows 1 ∧ g.colCount = max config.defaultCols 1) ∧
      ∀ row ∈ g.rows, ∀ raw ∈ row, raw = "") := by
  intro g
  refine ⟨⟨g.rowCount_pos, g.colCount_pos, g.length_of_mem⟩, ?_, ?_⟩
  · intro data hholds hcell
    obtain ⟨hrows, hcols, htext⟩ := parts_of_mapOfRows? (view_ofBlob_of_holds hholds hcell)
    refine ⟨hrows, hcols, ?_, ?_⟩
    · intro row col raw hraw
      obtain ⟨texts, hrow, hcol⟩ := Option.bind_eq_some_iff.mp hraw
      obtain ⟨hrow', rfl⟩ := List.getElem?_eq_some_iff.mp hrow
      obtain ⟨hcol', -⟩ := List.getElem?_eq_some_iff.mp hcol
      -- No row is longer than the longest, so the cell lies in the grid.
      have hle : data[row].length ≤ g.colCount :=
        (List.max?_eq_some_iff.mp hcols).2 _ (List.mem_map_of_mem (List.getElem_mem hrow'))
      have hmem : (⟨row, col⟩ : CellRef) ∈ g.view :=
        ⟨Nat.lt_of_lt_of_eq hrow' hrows.symm, Nat.lt_of_lt_of_le hcol' hle⟩
      rw [text?_eq_view, if_pos hmem, htext, hraw]
      rfl
    · intro row col hrow hcol hnone
      have hmem : (⟨row, col⟩ : CellRef) ∈ g.view := ⟨hrow, hcol⟩
      rw [text?_eq_view, if_pos hmem, htext, hnone]
      rfl
  · intro hnone
    have hconfig : g = ofConfig config := ofBlob_of_not_holds hnone
    refine ⟨hconfig, ⟨?_, ?_⟩, ?_⟩
    · rw [hconfig]
      exact List.length_replicate
    · rw [hconfig]
      rfl
    · intro row hrow raw hraw
      rw [hconfig] at hrow
      obtain rfl := List.eq_of_mem_replicate hrow
      exact List.eq_of_mem_replicate hraw

/-- An empty row in front, a row that is short, a cell without a text and cells written as arrays. A
blob with empty rows only, and a size of no rows. -/
theorem ofBlob_reads_every_text_ragged :
    let text := "\x7b\"data\": [[], [\x7b\"value\": \"1\"\x7d, \x7b\"style\": 2\x7d], " ++
      "[[\"=A1\"], [], \x7b\"value\": \"x\"\x7d]], \"version\": 1\x7d"
    let data := [[], ["1", ""], ["=A1", "", "x"]]
    let g := ofBlob {} text
    (BlobHolds text data ∧ g.rowCount = 3 ∧ (data.map List.length).max? = some g.colCount ∧
      g.text? ⟨1, 0⟩ = some "1" ∧ g.text? ⟨2, 2⟩ = some "x" ∧ g.text? ⟨1, 1⟩ = some "") ∧
    let empty := ofBlob { defaultRows := 0, defaultCols := 4 } "\x7b\"data\": [[], []]\x7d"
    empty.rowCount = 1 ∧ empty.colCount = 4 := by
  intro text data g
  have hholds : BlobHolds text data := rowsOfBlob?_eq_some_iff.mp (by decide +kernel)
  obtain ⟨-, hread, -⟩ := ofBlob_reads_every_text {} text
  obtain ⟨hrows, hcols, htext, -⟩ := hread data hholds (by decide)
  refine ⟨⟨hholds, hrows, hcols, htext 1 0 "1" rfl, htext 2 2 "x" rfl, htext 1 1 "" rfl⟩, ?_⟩
  obtain ⟨-, -, hempty⟩ := ofBlob_reads_every_text { defaultRows := 0, defaultCols := 4 }
    "\x7b\"data\": [[], []]\x7d"
  refine (hempty fun other hother => ?_).2.1
  have hrows : rowsOfBlob? "\x7b\"data\": [[], []]\x7d" = some [[], []] := by decide +kernel
  -- The blob holds these rows and no others, for it is read in one way only.
  obtain rfl : [[], []] = other :=
    Option.some.inj (hrows.symm.trans (rowsOfBlob?_eq_some_iff.mpr hother))
  simp

end Grid
end FormulaTable
