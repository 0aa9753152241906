import FormulaTable.Proofs.Builtin.Alike
import FormulaTable.Proofs.Evaluation.Enter

/-!
# `FormulaTable.Proofs.Evaluation.Congruence`: evaluation depends on what a formula reads

`Expr.places` lists the places that the text of a formula names: the addresses and the ranges in it,
at any depth, whether an evaluation gets to them or not. `Expr.eval_congr` compares two
surroundings, which may belong to different grids: if they read alike at every place that the
formula names, then the formula has the same outcome in both.

What it is to read alike is left open as far as the texts of a range go, and so is how the draws of
both sides compare. There is a relation for each, and every function that the formula calls has to
respect these (`Builtin.Respects`). With equality for the relations, every function does
(`Builtin.respects_eq`). A coarser relation between lists of texts is of use when the ranges of a
formula come to different lists of cells, and a coarser one between draws when other numbers may be
drawn on the other side.

`Context.enter_congr` is the step in comparing the cells of two grids: it takes a cell back to what
its formula reads from inside it.
-/

set_option autoImplicit false

namespace FormulaTable

/-! ## The places that a formula names -/

/-- An address or a range in the text of a formula. -/
inductive Place where
  | cell (c : CellRef)
  | range (r : CellRange)
  deriving DecidableEq, Repr

/-- The cells that a place stands for: of a range, those that lie in the grid. -/
def Place.cells (g : Grid) : Place → List CellRef
  | .cell c => [c]
  | .range r => g.cellsOf r

/-- The place that an operand names. -/
def Operand.places : Operand → List Place
  | .cell c => [.cell c]
  | .number _ => []

mutual

/-- The places that a formula names. -/
def Expr.places : Expr → List Place
  | .call _ arguments => Arg.allPlaces arguments
  | .cell c => [.cell c]
  | .arithmetic left _ right => left.places ++ right.places
  | .number _ => []
  | .formless => []

/-- The places that an argument names. -/
def Arg.places : Arg → List Place
  | .plain _ => []
  | .call _ arguments => Arg.allPlaces arguments
  | .range r => [.range r]
  | .cell c => [.cell c]
  | .number _ _ => []
  | .other e _ => e.places

/-- The places that several arguments name. -/
def Arg.allPlaces : List Arg → List Place
  | [] => []
  | a :: rest => a.places ++ Arg.allPlaces rest

end

variable {W : Draws → Draws → Prop} {R : List String → List String → Prop}

/-! ## Surroundings that read alike -/

/-- The surroundings at a place with the given draws. -/
def Surroundings.withDraws (env : Surroundings) (draws : Draws) : Surroundings :=
  { env with ambient := { env.ambient with draw := draws } }

/-- Two surroundings read alike, from where they stand. A single cell has the same value, the same
numbers and the same texts; the cells of a range have the same numbers, and texts that are
related. -/
def Place.ReadsAlikeHere (R : List String → List String → Prop) (env env' : Surroundings) :
    Place → Prop
  | .cell c =>
    env.enter c = env'.enter c ∧ env.cellNumbers c = env'.cellNumbers c ∧
      env.cellTexts c = env'.cellTexts c
  | .range r =>
    gather env.cellNumbers (env.cellsOf r) = gather env'.cellNumbers (env'.cellsOf r) ∧
      SameOutcome R (gather env.cellTexts (env.cellsOf r)) (gather env'.cellTexts (env'.cellsOf r))

/-- Two surroundings read alike, from wherever the draws are related. -/
def Place.ReadsAlike (W : Draws → Draws → Prop) (R : List String → List String → Prop)
    (env env' : Surroundings) (p : Place) : Prop :=
  ∀ draws draws', W draws draws' →
    p.ReadsAlikeHere R (env.withDraws draws) (env'.withDraws draws')

/-- Draws that are related are so behind every turn. -/
def Draws.KeptByTurns (W : Draws → Draws → Prop) : Prop :=
  ∀ draws draws' turn, W draws draws' → W (draws.toward turn) (draws'.toward turn)

/-- The same draws are the same behind every turn. -/
theorem Draws.keptByTurns_eq : Draws.KeptByTurns (· = ·) :=
  fun _ _ turn h => congrArg (Draws.toward · turn) h

section
variable {env env' : Surroundings}

/-- Surroundings that read alike from everywhere do so from where they stand. -/
theorem Place.ReadsAlike.here {p : Place} (h : p.ReadsAlike W R env env')
    (hambient : env.ambient.Related W env'.ambient) : p.ReadsAlikeHere R env env' :=
  h env.ambient.draw env'.ambient.draw hambient.draw

/-- Behind a turn, surroundings see worlds outside that are related as those in front of it are. -/
theorem Surroundings.toward_related (hW : Draws.KeptByTurns W)
    (hambient : env.ambient.Related W env'.ambient) (turn : Turn) :
    (env.toward turn).ambient.Related W (env'.toward turn).ambient where
  now := hambient.now
  draw := hW env.ambient.draw env'.ambient.draw turn hambient.draw

/-- The number of an operand depends on the value of the cell. -/
theorem Surroundings.cellNumber_congr {c : CellRef} (h : env.enter c = env'.enter c) :
    env.cellNumber c = env'.cellNumber c := by
  rw [Surroundings.cellNumber, Surroundings.cellNumber, h]

/-- The numbers of a cell depend on its text and its value. -/
theorem Surroundings.cellNumbers_congr {c : CellRef} (htext : env.grid.text? c = env'.grid.text? c)
    (h : env.enter c = env'.enter c) : env.cellNumbers c = env'.cellNumbers c := by
  rw [Surroundings.cellNumbers, Surroundings.cellNumbers, Surroundings.cellValue?,
    Surroundings.cellValue?, htext, h]

/-- The texts of a cell depend on its text and its value. -/
theorem Surroundings.cellTexts_congr {c : CellRef} (htext : env.grid.text? c = env'.grid.text? c)
    (h : env.enter c = env'.enter c) : env.cellTexts c = env'.cellTexts c := by
  rw [Surroundings.cellTexts, Surroundings.cellTexts, Surroundings.cellText,
    Surroundings.cellText, htext, h]

/-- Surroundings read alike at a place that stands for the same cells in both, if each of these
cells has the same text and the same value in both. -/
theorem Place.readsAlike_of_cells (hR : ∀ texts, R texts texts) {p : Place}
    (hcells : p.cells env.grid = p.cells env'.grid)
    (h : ∀ c ∈ p.cells env.grid, env.grid.text? c = env'.grid.text? c ∧
      ∀ draws draws', W draws draws' → env.enterAt draws c = env'.enterAt draws' c) :
    p.ReadsAlike W R env env' := by
  intro draws draws' hdraws
  cases p with
  | cell c =>
      obtain ⟨htext, henter⟩ := h c List.mem_cons_self
      have hvalue : (env.withDraws draws).enter c = (env'.withDraws draws').enter c :=
        henter draws draws' hdraws
      exact ⟨hvalue, Surroundings.cellNumbers_congr htext hvalue,
        Surroundings.cellTexts_congr htext hvalue⟩
  | range r =>
      -- The same cells are read in the same order, and each gives the same.
      have hsame : (env.withDraws draws).cellsOf r = (env'.withDraws draws').cellsOf r :=
        hcells
      have htext : ∀ c ∈ (env.withDraws draws).cellsOf r,
          env.grid.text? c = env'.grid.text? c := fun c hc => (h c hc).1
      have hvalue : ∀ c ∈ (env.withDraws draws).cellsOf r,
          (env.withDraws draws).enter c = (env'.withDraws draws').enter c :=
        fun c hc => (h c hc).2 draws draws' hdraws
      constructor
      · rw [← hsame]
        exact gather_congr fun c hc =>
          Surroundings.cellNumbers_congr (htext c hc) (hvalue c hc)
      · rw [← hsame]
        exact .of_eq hR (gather_congr fun c hc =>
          Surroundings.cellTexts_congr (htext c hc) (hvalue c hc))

/-- An operand has the same number in two surroundings that read alike at its place. -/
theorem Surroundings.operand_congr (hambient : env.ambient.Related W env'.ambient) {o : Operand}
    (h : ∀ p ∈ o.places, p.ReadsAlike W R env env') : env.operand o = env'.operand o := by
  cases o with
  | cell c =>
      have hcell : (Place.cell c).ReadsAlike W R env env' := h _ List.mem_cons_self
      exact cellNumber_congr (hcell.here hambient).1
  | number n => rfl

end

mutual

/-- A formula has the same outcome in two surroundings that read alike at the places it names. -/
theorem Expr.eval_congr {env env' : Surroundings} (hW : Draws.KeptByTurns W)
    (hambient : env.ambient.Related W env'.ambient) (hR : ∀ texts, R texts texts) :
    (e : Expr) → (∀ p ∈ e.places, p.ReadsAlike W R env env') →
    (∀ f, e.calls f → f.Respects W R) → e.eval env = e.eval env'
  | .call f arguments, hplaces, hcalls => by
      rw [Expr.places] at hplaces
      rw [Expr.eval, Expr.eval]
      refine Builtin.callNamed_congr (W := W) (R := R) (fun h hh => hcalls h ?_) hambient ?_
      · simp [Expr.calls, hh]
      · exact Arg.readings_congr hW hambient hR arguments hplaces fun h hh =>
          hcalls h (by simp [Expr.calls, hh])
  | .cell c, hplaces, _ => by
      rw [Expr.places] at hplaces
      have hcell : (Place.cell c).ReadsAlike W R env env' := hplaces _ List.mem_cons_self
      rw [Expr.eval, Expr.eval, Surroundings.cellNumber_congr (hcell.here hambient).1]
  | .arithmetic left operator right, hplaces, _ => by
      rw [Expr.places] at hplaces
      -- How surroundings read does not depend on where they stand.
      have hleft : (env.toward .left).operand left = (env'.toward .left).operand left :=
        Surroundings.operand_congr (Surroundings.toward_related hW hambient .left)
          fun p hp => hplaces p (List.mem_append_left _ hp)
      have hright : (env.toward .right).operand right = (env'.toward .right).operand right :=
        Surroundings.operand_congr (Surroundings.toward_related hW hambient .right)
          fun p hp => hplaces p (List.mem_append_right _ hp)
      rw [Expr.eval, Expr.eval, hleft, hright]
  | .number _, _, _ => by rw [Expr.eval, Expr.eval]
  | .formless, _, _ => by rw [Expr.eval, Expr.eval]

/-- An argument gives the same numbers, and related texts. -/
theorem Arg.reading_congr {env env' : Surroundings} (hW : Draws.KeptByTurns W)
    (hambient : env.ambient.Related W env'.ambient) (hR : ∀ texts, R texts texts) :
    (a : Arg) → (∀ p ∈ a.places, p.ReadsAlike W R env env') →
    (∀ f, a.calls f → f.Respects W R) →
    a.numbers env = a.numbers env' ∧ SameOutcome R (a.texts env) (a.texts env')
  | .plain text, _, _ => by
      simp only [Arg.numbers, Arg.texts]
      exact ⟨trivial, hR [text]⟩
  | .call f arguments, hplaces, hcalls => by
      rw [Arg.places] at hplaces
      -- Its arguments need only be alike, as the function does not tell them apart.
      have hcall : Builtin.callNamed env.ambient f (Arg.readings env arguments)
          = Builtin.callNamed env'.ambient f (Arg.readings env' arguments) := by
        refine Builtin.callNamed_congr (W := W) (R := R) (fun h hh => hcalls h ?_) hambient ?_
        · simp [Arg.calls, hh]
        · exact Arg.readings_congr hW hambient hR arguments hplaces fun h hh =>
            hcalls h (by simp [Arg.calls, hh])
      simp only [Arg.numbers, Arg.texts, hcall]
      exact ⟨trivial, .of_eq hR rfl⟩
  | .range r, hplaces, _ => by
      rw [Arg.places] at hplaces
      have hrange : (Place.range r).ReadsAlike W R env env' := hplaces _ List.mem_cons_self
      simp only [Arg.numbers, Arg.texts]
      exact hrange.here hambient
  | .cell c, hplaces, _ => by
      rw [Arg.places] at hplaces
      have hcell : (Place.cell c).ReadsAlike W R env env' := hplaces _ List.mem_cons_self
      obtain ⟨-, hnumbers, htexts⟩ := hcell.here hambient
      simp only [Arg.numbers, Arg.texts]
      exact ⟨hnumbers, .of_eq hR htexts⟩
  | .number _ source, _, _ => by
      simp only [Arg.numbers, Arg.texts]
      exact ⟨trivial, hR [source]⟩
  | .other e source, hplaces, hcalls => by
      rw [Arg.places] at hplaces
      have heval : e.eval env = e.eval env' :=
        Expr.eval_congr hW hambient hR e hplaces fun f hf => hcalls f (by rwa [Arg.calls])
      simp only [Arg.numbers, Arg.texts, heval]
      exact ⟨trivial, hR [source]⟩

/-- Arguments are alike, one by one. -/
theorem Arg.readings_congr {env env' : Surroundings} (hW : Draws.KeptByTurns W)
    (hambient : env.ambient.Related W env'.ambient) (hR : ∀ texts, R texts texts) :
    (arguments : List Arg) →
    (∀ p ∈ Arg.allPlaces arguments, p.ReadsAlike W R env env') →
    (∀ f, Arg.anyCalls f arguments → f.Respects W R) →
    List.Forall₂ (Reading.Alike R) (Arg.readings env arguments) (Arg.readings env' arguments)
  | [], _, _ => by
      rw [Arg.readings, Arg.readings]
      exact .nil
  | a :: rest, hplaces, hcalls => by
      rw [Arg.allPlaces] at hplaces
      -- Each of the two readings is at a place of its own.
      have hfirst : ∀ turn, a.numbers (env.toward turn) = a.numbers (env'.toward turn) ∧
          SameOutcome R (a.texts (env.toward turn)) (a.texts (env'.toward turn)) := fun turn =>
        Arg.reading_congr hW (Surroundings.toward_related hW hambient turn) hR a
          (fun p hp => hplaces p (List.mem_append_left _ hp))
          fun f hf => hcalls f (by simp [Arg.anyCalls, hf])
      have hrest := Arg.readings_congr hW (Surroundings.toward_related hW hambient .next) hR
        rest
        (fun p hp => hplaces p (List.mem_append_right _ hp))
        fun f hf => hcalls f (by simp [Arg.anyCalls, hf])
      rw [Arg.readings, Arg.readings]
      exact .cons ⟨(hfirst .numbers).1, (hfirst .texts).2⟩ hrest

end

/-! ## Cells in another grid -/

namespace Context

/-- The context with another grid in place of its own. -/
def withGrid (ctx : Context) (g : Grid) : Context :=
  { ctx with grid := g }

/-- A cell that has the same text in another grid has the same outcome there, from a place with
draws that are related, if the places that its formula names read alike from inside the cell. -/
theorem enter_congr {ctx : Context} {g : Grid} {draws : Draws} {c : CellRef}
    (hW : Draws.KeptByTurns W) (hdraws : W draws ctx.ambient.draw)
    (hR : ∀ texts, R texts texts) (htext : (g.text? c).getD "" = (ctx.grid.text? c).getD "")
    (hplaces : c ∉ ctx.path → ctx.grid.holdsFormula c → ∀ p ∈ (ctx.grid.formulaAt c).places,
      p.ReadsAlike W R ((ctx.inside c).withGrid g).surroundings (ctx.inside c).surroundings)
    (hcalls : ctx.grid.holdsFormula c → ∀ f, (ctx.grid.formulaAt c).calls f → f.Respects W R) :
    (ctx.withGrid g).enterAt draws c = ctx.enter c := by
  have hholds : g.holdsFormula c = ctx.grid.holdsFormula c := by
    rw [Grid.holdsFormula_eq, Grid.holdsFormula_eq, htext]
  by_cases hpath : c ∈ ctx.path
  · have hpath' : c ∈ (ctx.withGrid g).path := hpath
    rw [enter_of_mem hpath, enterAt_of_mem draws hpath']
  have hpath' : c ∉ (ctx.withGrid g).path := hpath
  by_cases hformula : ctx.grid.holdsFormula c
  · have hformula' : (ctx.withGrid g).grid.holdsFormula c := hholds.trans hformula
    have hsame : (ctx.withGrid g).grid.formulaAt c = ctx.grid.formulaAt c :=
      congrArg Expr.ofFormula htext
    rw [enter_formula hpath hformula, enterAt_formula draws hpath' hformula', hsame]
    -- Inside the cell the draws are still related.
    have hinside : (((ctx.withGrid g).withDraws draws).inside c).surroundings.ambient.Related W
        (ctx.inside c).surroundings.ambient := ⟨rfl, hW _ _ (.inside c) hdraws⟩
    exact Expr.eval_congr hW hinside hR _ (hplaces hpath hformula) (hcalls hformula)
  · have hformula' : ¬ (ctx.withGrid g).grid.holdsFormula c := by
      rw [← hholds] at hformula
      exact hformula
    have htext' : ((ctx.withGrid g).grid.text? c).getD "" = (ctx.grid.text? c).getD "" := htext
    rw [enter_literal hpath hformula, enterAt_literal draws hpath' hformula', htext']

/-- With the same draws on both sides, a cell has the same outcome in another grid if its text is
the same and the places that its formula names read alike from inside the cell. -/
theorem enter_withGrid {ctx : Context} {g : Grid} {c : CellRef} (hR : ∀ texts, R texts texts)
    (htext : (g.text? c).getD "" = (ctx.grid.text? c).getD "")
    (hplaces : c ∉ ctx.path → ctx.grid.holdsFormula c → ∀ p ∈ (ctx.grid.formulaAt c).places,
      p.ReadsAlike (· = ·) R ((ctx.inside c).withGrid g).surroundings (ctx.inside c).surroundings)
    (hcalls : ctx.grid.holdsFormula c →
      ∀ f, (ctx.grid.formulaAt c).calls f → f.Respects (· = ·) R) :
    (ctx.withGrid g).enter c = ctx.enter c :=
  enter_congr Draws.keptByTurns_eq rfl hR htext hplaces hcalls

end Context
end FormulaTable
