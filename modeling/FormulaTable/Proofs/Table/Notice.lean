import FormulaTable.Proofs.Grid.Blob
import FormulaTable.Proofs.Grid.Shape
import FormulaTable.Table.Basic

/-!
# `FormulaTable.Proofs.Table.Notice`: every change is told once, and nothing else is

A listener is sent the blob of a table, which its host stores. `Table.told_of_every_change` says
that an operation sends one notice when the grid is another one afterwards, and none when it is the
same. The notice holds the blob of the table as it is then, and the grid is read back from it under
every configuration. So a host that has listened to all changes has a copy that is never out of
date.

What an operation can do is said once, in `Table.apply_cases`. `Table.Idle` lists the operations
that have nothing to do; they send nothing. Every other operation goes through `Table.change`, and
the grid it puts in place is never the one before. The statement about the last copy is an induction
over the operations: a notice brings the copy up to date, and without a notice the grid has stayed
the same.
-/

set_option autoImplicit false

namespace FormulaTable

/-! ## Grids that differ -/

namespace Grid

variable {g : Grid}

/-- Writing another text changes the grid. -/
theorem put_ne {cell : CellRef} {raw : String} (hcell : g.contains cell)
    (hraw : g.text? cell ≠ some raw) : g.put cell raw ≠ g := by
  intro heq
  have htext : (g.put cell raw).text? cell = some raw := by
    rw [text?_put hcell, if_pos rfl]
  rw [heq] at htext
  exact hraw htext

/-- A new row changes the grid. -/
theorem addRow_ne : g.addRow ≠ g := by
  intro heq
  have hcount := g.rowCount_addRow
  rw [heq] at hcount
  omega

/-- A new column changes the grid. -/
theorem addColumn_ne : g.addColumn ≠ g := by
  intro heq
  have hcount : g.addColumn.colCount = g.colCount + 1 := rfl
  rw [heq] at hcount
  omega

/-- A grid without its last row has fewer rows. -/
theorem removeRow?_ne {smaller : Grid} (h : g.removeRow? = some smaller) : smaller ≠ g := by
  rcases g.removeRow?_cases with ⟨-, hnone⟩ | ⟨hmany, _, hsome, hrows, -⟩
  · rw [hnone] at h
    cases h
  · obtain rfl := Option.some.inj (hsome.symm.trans h)
    intro heq
    have hcount := congrArg List.length hrows
    rw [List.length_dropLast, heq] at hcount
    rw [rowCount] at hmany
    omega

/-- A grid without its last column has fewer columns. -/
theorem removeColumn?_ne {smaller : Grid} (h : g.removeColumn? = some smaller) : smaller ≠ g := by
  rcases g.removeColumn?_cases with ⟨-, hnone⟩ | ⟨hmany, _, hsome, -, hcols⟩
  · rw [hnone] at h
    cases h
  · obtain rfl := Option.some.inj (hsome.symm.trans h)
    intro heq
    rw [heq] at hcols
    omega

/-- Only the last row that is left is not removed. -/
theorem removeRow?_eq_none : g.removeRow? = none ↔ g.rowCount = 1 := by
  rcases g.removeRow?_cases with ⟨hone, hnone⟩ | ⟨hmany, _, hsome, -⟩
  · simp [hone, hnone]
  · simp only [hsome, reduceCtorEq, false_iff]
    omega

/-- Only the last column that is left is not removed. -/
theorem removeColumn?_eq_none : g.removeColumn? = none ↔ g.colCount = 1 := by
  rcases g.removeColumn?_cases with ⟨hone, hnone⟩ | ⟨hmany, _, hsome, -⟩
  · simp [hone, hnone]
  · simp only [hsome, reduceCtorEq, false_iff]
    omega

end Grid

/-! ## What an operation can do -/

namespace Table

/-- The operation has nothing to do with the grid, or nothing to do to it. -/
def Idle (t : Table) : Operation → Prop
  | .set cell raw => ¬ t.grid.contains cell ∨ t.raw? cell = some raw
  | .addRow => False
  | .removeRow => t.grid.rowCount = 1
  | .addColumn => False
  | .removeColumn => t.grid.colCount = 1
  | .focus _ => True
  | .blur => True
  | .listen _ => True
  | .reload => True

/-- The outcome of an operation that leaves the grid as it was. -/
structure Unchanged (t : Table) (outcome : Outcome) : Prop where
  grid_eq : outcome.table.grid = t.grid
  notices_eq : outcome.notices = []

/-- The outcome of an operation that puts another grid in the place of the one before. -/
structure Changed (t : Table) (outcome : Outcome) : Prop where
  grid_ne : outcome.table.grid ≠ t.grid
  listener_eq : outcome.table.listener = t.listener
  notices_eq : outcome.notices = outcome.table.notices
  carriedOut : outcome.answer = .done ∨ outcome.answer = .removed true

variable {t : Table}

/-- A table with another grid has changed. -/
theorem changed_change {g : Grid} {answer : Answer} (hgrid : g ≠ t.grid)
    (hanswer : answer = .done ∨ answer = .removed true) : t.Changed (t.change g answer) where
  grid_ne := hgrid
  listener_eq := rfl
  notices_eq := rfl
  carriedOut := hanswer

/-- A cell is written unless it lies outside the grid or holds the text already. -/
theorem set_cases (t : Table) (cell : CellRef) (raw : String) :
    (t.Idle (.set cell raw) ∧ t.Unchanged (t.set cell raw)) ∨
      (¬ t.Idle (.set cell raw) ∧ t.Changed (t.set cell raw)) := by
  rw [set]
  by_cases hraw : t.raw? cell = some raw
  · rw [if_pos hraw]
    exact Or.inl ⟨Or.inr hraw, rfl, rfl⟩
  rw [if_neg hraw, Grid.set]
  by_cases hcell : t.grid.contains cell
  · -- The cell lies in the grid and holds another text.
    rw [if_pos hcell]
    refine Or.inr ⟨?_, changed_change (Grid.put_ne hcell hraw) (Or.inl rfl)⟩
    rintro (hout | hsame)
    · exact hout hcell
    · exact hraw hsame
  · rw [if_neg hcell]
    exact Or.inl ⟨Or.inl hcell, rfl, rfl⟩

/-- The grid is made smaller unless that would leave nothing of it. -/
theorem shrink_cases (t : Table) {smaller : Option Grid}
    (h : ∀ g, smaller = some g → g ≠ t.grid) :
    (smaller = none ∧ t.Unchanged (t.shrink smaller)) ∨
      (smaller ≠ none ∧ t.Changed (t.shrink smaller)) := by
  cases smaller with
  | none => exact Or.inl ⟨rfl, rfl, rfl⟩
  | some g => exact Or.inr ⟨by simp, changed_change (h g rfl) (Or.inr rfl)⟩

/-- An operation either has nothing to do, and then it sends nothing, or it changes the grid and
sends a notice to the listener. -/
theorem apply_cases (t : Table) (operation : Operation) :
    (t.Idle operation ∧ t.Unchanged (t.apply operation)) ∨
      (¬ t.Idle operation ∧ t.Changed (t.apply operation)) := by
  cases operation with
  | set cell raw => exact t.set_cases cell raw
  | focus cell => exact Or.inl ⟨trivial, rfl, rfl⟩
  | blur => exact Or.inl ⟨trivial, rfl, rfl⟩
  | listen listener => exact Or.inl ⟨trivial, rfl, rfl⟩
  -- The blob that is written is read as the same grid.
  | reload => exact Or.inl ⟨trivial, t.grid.ofBlob_toBlob t.config, rfl⟩
  | addRow => exact Or.inr ⟨not_false, changed_change Grid.addRow_ne (Or.inl rfl)⟩
  | addColumn => exact Or.inr ⟨not_false, changed_change Grid.addColumn_ne (Or.inl rfl)⟩
  -- A removal is refused exactly if one row or column is left.
  | removeRow =>
      have hcases := t.shrink_cases fun _ => Grid.removeRow?_ne
      rwa [ne_eq, Grid.removeRow?_eq_none] at hcases
  | removeColumn =>
      have hcases := t.shrink_cases fun _ => Grid.removeColumn?_ne
      rwa [ne_eq, Grid.removeColumn?_eq_none] at hcases

/-- The listener, if there is one, is sent one notice, with the blob of the table as it is then. -/
theorem Changed.notices_eq_map {outcome : Outcome} (h : t.Changed outcome) : outcome.notices
    = t.listener.toList.map fun listener => { listener, blob := outcome.table.toBlob } := by
  rw [h.notices_eq, notices, h.listener_eq]
  cases t.listener <;> rfl

/-! ## Several operations -/

/-- The table after several operations. -/
def after (t : Table) : List Operation → Table
  | [] => t
  | operation :: rest => (t.apply operation).table.after rest

/-- The notices that several operations send. -/
def sent (t : Table) : List Operation → List Notice
  | [] => []
  | operation :: rest => (t.apply operation).notices ++ (t.apply operation).table.sent rest

/-- Somebody listens whenever an operation changes the grid. -/
def Heard (t : Table) : List Operation → Prop
  | [] => True
  | operation :: rest =>
    ((t.apply operation).table.grid = t.grid ∨ t.listener.isSome) ∧
      (t.apply operation).table.Heard rest

/-- The copy that a host has in the end, if it puts the blob of every notice in the place of the
copy before. -/
def lastCopy (copy : String) (notices : List Notice) : String :=
  notices.foldl (fun _ notice => notice.blob) copy

/-- The last copy behind two lists of notices is that behind the second, from that behind the
first. -/
theorem lastCopy_append (copy : String) (first second : List Notice) :
    lastCopy copy (first ++ second) = lastCopy (lastCopy copy first) second :=
  List.foldl_append

/-- Writing a cell touches nothing but the grid. -/
theorem exists_grid_set (t : Table) (cell : CellRef) (raw : String) :
    ∃ grid, (t.set cell raw).table = { t with grid } := by
  rw [set]
  split
  · exact ⟨t.grid, rfl⟩
  · split
    · next grid _ => exact ⟨grid, rfl⟩
    · exact ⟨t.grid, rfl⟩

/-- Making the grid smaller touches nothing else. -/
theorem exists_grid_shrink (t : Table) (smaller : Option Grid) :
    ∃ grid, (t.shrink smaller).table = { t with grid } := by
  cases smaller with
  | none => exact ⟨t.grid, rfl⟩
  | some grid => exact ⟨grid, rfl⟩

/-- Only reading the table back leaves it without a listener. -/
theorem isSome_listener_apply (h : t.listener.isSome) {operation : Operation}
    (hop : operation ≠ .reload) : (t.apply operation).table.listener.isSome := by
  have hshrink : ∀ smaller, (t.shrink smaller).table.listener.isSome := by
    intro smaller
    obtain ⟨grid, hgrid⟩ := t.exists_grid_shrink smaller
    rwa [hgrid]
  -- An edit keeps the listener; only a reload forgets it.
  cases operation with
  | set cell raw =>
      obtain ⟨grid, hgrid⟩ := t.exists_grid_set cell raw
      show (t.set cell raw).table.listener.isSome
      rwa [hgrid]
  | removeRow => exact hshrink _
  | removeColumn => exact hshrink _
  | focus cell => exact h
  | blur => exact h
  | addRow => exact h
  | addColumn => exact h
  | listen listener => rfl
  | reload => exact absurd rfl hop

/-- With a listener in the beginning all changes are heard, as long as the table is not read
back. -/
theorem heard_of_listener (h : t.listener.isSome) {operations : List Operation}
    (hops : .reload ∉ operations) : t.Heard operations := by
  induction operations generalizing t with
  | nil => trivial
  | cons operation rest ih =>
      rw [List.mem_cons, not_or] at hops
      exact ⟨Or.inr h, ih (isSome_listener_apply h (Ne.symm hops.1)) hops.2⟩

section
variable {P : String → Grid → Prop} (hblob : ∀ g : Grid, P g.toBlob g)
include hblob

/-- One operation keeps the copy up to date: it sends the new blob or leaves the grid as it was. -/
theorem lastCopy_apply {operation : Operation}
    (hheard : (t.apply operation).table.grid = t.grid ∨ t.listener.isSome) {copy : String}
    (hcopy : P copy t.grid) :
    P (lastCopy copy (t.apply operation).notices) (t.apply operation).table.grid := by
  rcases t.apply_cases operation with ⟨-, hsame⟩ | ⟨-, hchanged⟩
  · -- Neither the copy nor the grid has changed.
    rw [hsame.notices_eq, hsame.grid_eq]
    exact hcopy
  · obtain ⟨listener, hlistener⟩ : ∃ listener, t.listener = some listener :=
      Option.isSome_iff_exists.mp (hheard.resolve_left hchanged.grid_ne)
    -- The one notice replaces the copy, whatever that was.
    rw [hchanged.notices_eq_map, hlistener]
    exact hblob (t.apply operation).table.grid

/-- Several operations keep the copy up to date if all changes are heard. -/
theorem lastCopy_sent {operations : List Operation} (hheard : t.Heard operations) {copy : String}
    (hcopy : P copy t.grid) :
    P (lastCopy copy (t.sent operations)) (t.after operations).grid := by
  induction operations generalizing t copy with
  | nil => exact hcopy
  | cons operation rest ih =>
      show P (lastCopy copy ((t.apply operation).notices ++ (t.apply operation).table.sent rest)) _
      rw [lastCopy_append]
      exact ih hheard.2 (lastCopy_apply hblob hheard.1 hcopy)

end

/-- Every change is told exactly once, and nothing else is, however the table was made and whatever
has been done to it. An operation sends one notice to the listener, if there is one, when the grid
is another one afterwards, and none when it is the same; it is the same if and only if the operation
has nothing to do, as when it is refused. The notice holds the blob of the table as it is then, from
which the grid is read back under every configuration. So the copy of a host is never out of date
while all changes are heard, and they are heard from a listener on until the table is read back. -/
theorem told_of_every_change (t : Table) (operations : List Operation) :
    let now := t.after operations
    (∀ operation, let outcome := now.apply operation
      (outcome.table.grid ≠ now.grid → outcome.notices
        = now.listener.toList.map fun listener => { listener, blob := outcome.table.toBlob }) ∧
      (outcome.table.grid = now.grid → outcome.notices = []) ∧
      (outcome.table.grid = now.grid ↔ now.Idle operation) ∧
      (∀ e, outcome.answer = .refused e → outcome.table.grid = now.grid) ∧
      (outcome.answer = .removed false → outcome.table.grid = now.grid) ∧
      ∀ config, Grid.ofBlob config outcome.table.toBlob = outcome.table.grid) ∧
    (t.Heard operations → lastCopy t.toBlob (t.sent operations) = now.toBlob ∧
      ∀ config copy, Grid.ofBlob config copy = t.grid →
        Grid.ofBlob config (lastCopy copy (t.sent operations)) = now.grid) ∧
    (t.listener.isSome → .reload ∉ operations → t.Heard operations) := by
  intro now
  refine ⟨?_, ?_, fun hlistener hops => heard_of_listener hlistener hops⟩
  · intro operation outcome
    have hblob : ∀ config, Grid.ofBlob config outcome.table.toBlob = outcome.table.grid :=
      fun config => outcome.table.grid.ofBlob_toBlob config
    rcases now.apply_cases operation with ⟨hidle, hsame⟩ | ⟨hbusy, hchanged⟩
    · have hgrid : outcome.table.grid = now.grid := hsame.grid_eq
      exact ⟨fun hne => absurd hgrid hne, fun _ => hsame.notices_eq,
        ⟨fun _ => hidle, fun _ => hgrid⟩, fun _ _ => hgrid, fun _ => hgrid, hblob⟩
    · -- A change is carried out and not refused, so nothing is to be said of refusals.
      have hgrid : outcome.table.grid ≠ now.grid := hchanged.grid_ne
      refine ⟨fun _ => hchanged.notices_eq_map, fun heq => absurd heq hgrid,
        ⟨fun heq => absurd heq hgrid, fun hidle => absurd hidle hbusy⟩, ?_, ?_, hblob⟩
      · intro e he
        rcases hchanged.carriedOut with hanswer | hanswer <;> cases he.symm.trans hanswer
      · intro hrefused
        rcases hchanged.carriedOut with hanswer | hanswer <;> cases hrefused.symm.trans hanswer
  · intro hheard
    constructor
    · -- The copy is the blob of the grid, to the letter.
      have hcopy : lastCopy t.toBlob (t.sent operations) = now.grid.toBlob :=
        lastCopy_sent (P := fun copy g => copy = g.toBlob) (fun _ => rfl) hheard rfl
      exact hcopy
    · intro config copy hcopy
      exact lastCopy_sent (P := fun copy g => Grid.ofBlob config copy = g)
        (fun g => g.ofBlob_toBlob config) hheard hcopy

/-- Of these operations only the first one is told. The host has the table as it is in the end, and
is told of the row that is added then, but not of the row that cannot be removed. -/
theorem told_of_write_and_row :
    let t := ((Table.ofConfig { defaultRows := 1, defaultCols := 2 }).apply (.listen 7)).table
    let operations := [.set ⟨0, 0⟩ "5", .set ⟨0, 0⟩ "5", .set ⟨4, 4⟩ "x", .removeRow, .focus ⟨0, 1⟩]
    let now := t.after operations
    (now.apply .addRow).notices = [{ listener := 7, blob := (now.apply .addRow).table.toBlob }] ∧
      (now.apply .removeRow).notices = [] ∧
      lastCopy t.toBlob (t.sent operations) = now.toBlob ∧
      Grid.ofBlob {} (lastCopy t.toBlob (t.sent operations)) = now.grid := by
  intro t operations now
  obtain ⟨htold, hcopies, hheard⟩ := t.told_of_every_change operations
  obtain ⟨hlast, hread⟩ := hcopies (hheard rfl (by decide))
  have hadd : (now.apply .addRow).table.grid ≠ now.grid := by decide +kernel
  have hremove : (now.apply .removeRow).table.grid = now.grid := by decide +kernel
  have hlistener : now.listener = some 7 := by decide +kernel
  have hnotices := (htold .addRow).1 hadd
  rw [hlistener] at hnotices
  -- The copy of the host is the blob of the table, so reading it gives the grid that is shown.
  exact ⟨hnotices, (htold .removeRow).2.1 hremove, hlast,
    hread {} t.toBlob (t.grid.ofBlob_toBlob {})⟩

end Table
end FormulaTable
