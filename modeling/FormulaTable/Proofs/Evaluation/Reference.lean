import FormulaTable.Proofs.Evaluation.Entered

/-!
# `FormulaTable.Proofs.Evaluation.Reference`: the cells that a formula refers to

`Expr.references` reads off a formula, without evaluating it, the cells whose values it may ask for:
a bare address, the operands of arithmetic, and the addresses and clipped ranges among the arguments
of a call, at any depth. Only the readings that a function gives its arguments count, so a quoted
address, or arithmetic where a text is wanted, refers to nothing, and neither does a call that fails
before it reads: one of an unknown name or with a wrong number of arguments.

* `Expr.plan_entersOnly`: a formula enters only cells it refers to. It never refuses, and its value
  is never the mark of a circular reference.
* `Expr.plan_mustEnter`: a formula without a call of `IF` enters every formula cell it refers to,
  whatever the values of the others are.
-/

set_option autoImplicit false

namespace FormulaTable

/-! ## References -/

/-- The cells that a call refers to, if its arguments refer to the given cells. -/
def Builtin.references (f : Option Builtin) (arguments : List (ReadingKind → List CellRef)) :
    List CellRef :=
  match f with
  | none => []
  | some f =>
    match f.brokenBound? arguments.length with
    | some _ => []
    | none => arguments.zipIdx.flatMap fun (cells, index) => (f.readings index).flatMap cells

/-- The cell that an operand refers to. -/
def Operand.references : Operand → List CellRef
  | .cell c => [c]
  | .number _ => []

mutual

/-- The cells that a formula refers to. -/
def Expr.references (g : Grid) : Expr → List CellRef
  | .call f arguments => Builtin.references f (Arg.listReferences g arguments)
  | .cell c => [c]
  | .arithmetic left _ right => left.references ++ right.references
  | .number _ => []
  | .formless => []

/-- The cells that an argument refers to when it is read as numbers or as texts. -/
def Arg.references (g : Grid) (kind : ReadingKind) : Arg → List CellRef
  | .plain _ => []
  | .call f arguments => Builtin.references f (Arg.listReferences g arguments)
  | .range r => g.cellsOf r
  | .cell c => [c]
  | .number _ _ => []
  | .other e _ =>
    match kind with
    | .numbers => e.references g
    | .texts => []

/-- The cells that each of several arguments refers to, by the way it is read. -/
def Arg.listReferences (g : Grid) : List Arg → List (ReadingKind → List CellRef)
  | [] => []
  | a :: rest => (fun kind => a.references g kind) :: Arg.listReferences g rest

end

mutual

/-- Whether a function is called in a formula, at any depth. -/
def Expr.calls (f : Builtin) : Expr → Bool
  | .call h arguments => h == some f || Arg.anyCalls f arguments
  | .cell _ => false
  | .arithmetic _ _ _ => false
  | .number _ => false
  | .formless => false

/-- Whether a function is called in an argument, at any depth. -/
def Arg.calls (f : Builtin) : Arg → Bool
  | .plain _ => false
  | .call h arguments => h == some f || Arg.anyCalls f arguments
  | .range _ => false
  | .cell _ => false
  | .number _ _ => false
  | .other e _ => e.calls f

/-- Whether a function is called in one of several arguments. -/
def Arg.anyCalls (f : Builtin) : List Arg → Bool
  | [] => false
  | a :: rest => a.calls f || Arg.anyCalls f rest

end

variable (g : Grid)

/-- References are listed argument by argument. -/
theorem Arg.listReferences_eq_map (arguments : List Arg) :
    Arg.listReferences g arguments = arguments.map fun a kind => a.references g kind := by
  induction arguments with
  | nil => rfl
  | cons a rest ih => rw [Arg.listReferences, List.map_cons, ih]

/-- What a call refers to, place by place. -/
theorem Arg.mem_references_call {f : Option Builtin} {arguments : List Arg} {c : CellRef} :
    c ∈ Builtin.references f (Arg.listReferences g arguments) ↔ ∃ h, f = some h ∧
      h.brokenBound? arguments.length = none ∧ ∃ index a kind, arguments[index]? = some a ∧
        kind ∈ h.readings index ∧ c ∈ a.references g kind := by
  rw [Arg.listReferences_eq_map]
  cases f with
  | none => simp [Builtin.references]
  | some f =>
      cases hbound : f.brokenBound? arguments.length with
      | some bound => simp [Builtin.references, hbound]
      | none =>
          -- A reference of the call is one of some argument, read in a way in which the function
          -- reads an argument at that place.
          simp only [Builtin.references, List.length_map, hbound, List.mem_flatMap, Prod.exists,
            List.mk_mem_zipIdx_iff_getElem?, List.getElem?_map, Option.map_eq_some_iff,
            Option.some.injEq]
          constructor
          · rintro ⟨_, index, ⟨a, ha, rfl⟩, kind, hkind, hc⟩
            exact ⟨f, rfl, hbound, index, a, kind, ha, hkind, hc⟩
          · rintro ⟨_, rfl, -, index, a, kind, ha, hkind, hc⟩
            exact ⟨_, index, ⟨a, ha, rfl⟩, kind, hkind, hc⟩

/-- An argument as a function meets it, with the world outside as it is seen past the arguments in
front of it. -/
def Arg.readingPlan (ambient : Ambient) (a : Arg) : ReadingPlan :=
  { numbers := a.numbersPlan g (ambient.toward .numbers)
    texts := a.textsPlan g (ambient.toward .texts) }

/-- There are as many plans as arguments. -/
theorem Arg.length_plans (ambient : Ambient) (arguments : List Arg) :
    (Arg.plans g ambient arguments).length = arguments.length := by
  induction arguments generalizing ambient with
  | nil => rfl
  | cons a rest ih => rw [Arg.plans, List.length_cons, List.length_cons, ih]

/-- The plan at a place is that of the argument there, somewhere. -/
theorem Arg.getElem?_plans (ambient : Ambient) (arguments : List Arg) (index : Nat) :
    ∃ here, (Arg.plans g ambient arguments)[index]?
      = arguments[index]?.map (Arg.readingPlan g here) := by
  induction arguments generalizing ambient index with
  | nil => exact ⟨ambient, rfl⟩
  | cons a rest ih =>
      rw [Arg.plans]
      cases index with
      | zero => exact ⟨ambient, rfl⟩
      | succ index => exact ih (ambient.toward .next) index

/-- Every plan is that of one of the arguments, somewhere. -/
theorem Arg.exists_of_mem_plans {ambient : Ambient} {arguments : List Arg} {r : ReadingPlan}
    (h : r ∈ Arg.plans g ambient arguments) :
    ∃ here, ∃ a ∈ arguments, a.readingPlan g here = r := by
  obtain ⟨index, hindex⟩ := List.getElem?_of_mem h
  obtain ⟨here, hplans⟩ := Arg.getElem?_plans g ambient arguments index
  rw [hplans, Option.map_eq_some_iff] at hindex
  obtain ⟨a, ha, hr⟩ := hindex
  exact ⟨here, a, List.mem_of_getElem? ha, hr⟩

/-! ## A formula enters only cells it refers to -/

section
variable {g : Grid} {ambient : Ambient} {draws : Draws}

/-- A cell that is read for its numbers is entered, if any is. -/
theorem Grid.numbersPlan_entersOnly (c : CellRef) {entered : CellRef → Prop} (hc : entered c) :
    (g.numbersPlan draws c).EntersOnly entered (fun _ => False) fun _ => True := by
  have hvalue : (g.valuePlan draws c).EntersOnly entered (fun _ => False) fun _ => True := by
    rw [Grid.valuePlan]
    split
    · trivial
    · split
      · exact ⟨hc, fun _ => trivial⟩
      · trivial
  exact hvalue.bind fun _ _ => trivial

/-- A cell that is read for its texts is entered, if any is. -/
theorem Grid.textsPlan_entersOnly (c : CellRef) {entered : CellRef → Prop} (hc : entered c) :
    (g.textsPlan draws c).EntersOnly entered (fun _ => False) fun _ => True := by
  rw [Grid.textsPlan]
  split
  · trivial
  · exact ⟨hc, fun _ => trivial⟩

/-- An operand enters only the cell that it is. -/
theorem Grid.operandPlan_entersOnly (o : Operand) {entered : CellRef → Prop}
    (h : ∀ c ∈ o.references, entered c) :
    (Grid.operandPlan draws o).EntersOnly entered (fun _ => False) fun _ => True := by
  cases o with
  | cell c => exact ⟨h c List.mem_cons_self, fun _ => trivial⟩
  | number n => trivial

/-- Arithmetic never gives the mark of a circular reference. -/
theorem Operator.apply_ne_circular (operator : Operator) (left right : Float) :
    operator.apply left right ≠ .sentinel .circular := by
  have hfinite : ∀ n, finiteValue n ≠ .sentinel .circular := by
    intro n
    rw [finiteValue]
    split <;> simp
  cases operator with
  | add => exact hfinite _
  | sub => exact hfinite _
  | mul => exact hfinite _
  | div =>
      rw [Operator.apply]
      split
      · simp
      · exact hfinite _

/-- A call enters only what it refers to, if its arguments do. -/
theorem Builtin.planNamed_entersOnly (f : Option Builtin) {arguments : List Arg}
    (h : ∀ here, ∀ a ∈ arguments, ∀ kind,
      (a.readingPlan g here).EntersOnly (· ∈ a.references g kind) kind) :
    (planNamed ambient f (Arg.plans g ambient arguments)).EntersOnly
      (· ∈ references f (Arg.listReferences g arguments)) (fun _ => False)
      (· ≠ .sentinel .circular) := by
  cases f with
  | none =>
      show Value.sentinel .unknownName ≠ .sentinel .circular
      simp
  | some f =>
      -- Before it is contained, a call refuses only its arguments or their number.
      have hplan : (f.plan ambient (Arg.plans g ambient arguments)).EntersOnly
          (· ∈ references (some f) (Arg.listReferences g arguments))
          (fun why => ∀ cell, why ≠ .circular cell) fun value => ∀ s, value ≠ .sentinel s := by
        rw [Builtin.plan, Arg.length_plans]
        cases hbound : f.brokenBound? arguments.length with
        | some bound =>
            intro cell
            simp
        | none =>
            refine (Query.plan_entersOnly (query_asksOnly ambient arguments.length f) ?_).mono
              (fun _ => id) ?_ fun _ => id
            · intro kind i r hkind hr
              obtain ⟨here, hplans⟩ := Arg.getElem?_plans g ambient arguments i
              rw [hplans, Option.map_eq_some_iff] at hr
              obtain ⟨a, ha, rfl⟩ := hr
              refine (h here a (List.mem_of_getElem? ha) kind).mono fun c hc => ?_
              exact (Arg.mem_references_call g).mpr ⟨f, rfl, hbound, i, a, kind, ha, hkind, hc⟩
            · rintro why ⟨fault, rfl⟩ cell
              simp
      refine (hplan.contain fun cell h => h cell rfl).mono (fun _ => id) (fun _ => id) ?_
      rintro value (hvalue | rfl)
      · exact hvalue .circular
      · simp

variable (g)

mutual

/-- Whatever the values of other cells are, a formula enters only cells it refers to, never refuses,
and never has the mark of a circular reference as its value. -/
theorem Expr.plan_entersOnly : (ambient : Ambient) → (e : Expr) →
    (e.plan g ambient).EntersOnly (· ∈ e.references g) (fun _ => False) (· ≠ .sentinel .circular)
  | ambient, .call f arguments => by
      rw [Expr.plan, Expr.references]
      exact Builtin.planNamed_entersOnly f fun here => Arg.readingPlans_entersOnly here arguments
  | ambient, .cell c => by
      rw [Expr.plan, Expr.references]
      -- A cell read as a number gives 0 for a sentinel, so none is passed on.
      refine ⟨List.mem_cons_self, fun value => ?_⟩
      show Value.number (value.number?.getD 0) ≠ .sentinel .circular
      simp
  | ambient, .arithmetic left operator right => by
      rw [Expr.plan, Expr.references]
      -- The left side is read before the right side, and the result of the operator is never the
      -- circular sentinel.
      refine Plan.EntersOnly.bind (Grid.operandPlan_entersOnly left fun c hc => ?_) fun l _ => ?_
      · exact List.mem_append_left _ hc
      refine Plan.EntersOnly.bind (Grid.operandPlan_entersOnly right fun c hc => ?_) fun r _ => ?_
      · exact List.mem_append_right _ hc
      exact operator.apply_ne_circular l r
  | _, .number n => by
      rw [Expr.plan]
      show Value.number n ≠ .sentinel .circular
      simp
  | _, .formless => by
      rw [Expr.plan]
      show Value.sentinel .noValue ≠ .sentinel .circular
      simp

/-- A reading of an argument enters only cells that the argument refers to when it is so read. -/
theorem Arg.readingPlan_entersOnly : (ambient : Ambient) → (a : Arg) → (kind : ReadingKind) →
    (a.readingPlan g ambient).EntersOnly (· ∈ a.references g kind) kind
  | _, .plain _, .numbers => trivial
  | _, .plain _, .texts => trivial
  | ambient, .call f arguments, .numbers => by
      show (Arg.numbersPlan g (ambient.toward .numbers) (.call f arguments)).EntersOnly _ _ _
      rw [Arg.numbersPlan, Arg.references]
      exact (Builtin.planNamed_entersOnly f fun here =>
        Arg.readingPlans_entersOnly here arguments).bind fun _ _ => trivial
  | ambient, .call f arguments, .texts => by
      show (Arg.textsPlan g (ambient.toward .texts) (.call f arguments)).EntersOnly _ _ _
      rw [Arg.textsPlan, Arg.references]
      exact (Builtin.planNamed_entersOnly f fun here =>
        Arg.readingPlans_entersOnly here arguments).bind fun _ _ => trivial
  | _, .range r, .numbers => Plan.EntersOnly.gather fun c hc => Grid.numbersPlan_entersOnly c hc
  | _, .range r, .texts => Plan.EntersOnly.gather fun c hc => Grid.textsPlan_entersOnly c hc
  | _, .cell c, .numbers => Grid.numbersPlan_entersOnly c List.mem_cons_self
  | _, .cell c, .texts => Grid.textsPlan_entersOnly c List.mem_cons_self
  | _, .number _ _, .numbers => trivial
  | _, .number _ _, .texts => trivial
  | ambient, .other e source, .numbers => by
      show (Arg.numbersPlan g (ambient.toward .numbers) (.other e source)).EntersOnly _ _ _
      rw [Arg.numbersPlan, Arg.references]
      exact (Expr.plan_entersOnly _ e).bind fun _ _ => trivial
  | _, .other _ _, .texts => trivial

/-- The same holds of every one of several arguments. -/
theorem Arg.readingPlans_entersOnly : (ambient : Ambient) → (arguments : List Arg) →
    ∀ a ∈ arguments, ∀ kind,
      (a.readingPlan g ambient).EntersOnly (· ∈ a.references g kind) kind
  | _, [], _, h => by simp at h
  | ambient, first :: rest, a, h => by
      rcases List.mem_cons.mp h with h | h
      · rw [h]
        exact Arg.readingPlan_entersOnly ambient first
      · exact Arg.readingPlans_entersOnly ambient rest a h

end

end

/-! ## A formula without `IF` enters every formula cell it refers to -/

section
variable {g : Grid} {ambient : Ambient} {draws : Draws} {c : CellRef}

/-- A formula cell that is read for its numbers is entered. -/
theorem Grid.numbersPlan_mustEnter (hc : g.holdsFormula c) :
    (g.numbersPlan draws c).MustEnter c := by
  refine Plan.MustEnter.bind ?_ _
  rw [Grid.valuePlan]
  rw [Grid.holdsFormula] at hc
  cases hraw : g.text? c with
  | none => simp [hraw] at hc
  | some raw =>
      have hformula : isFormula raw = true := by simpa [hraw] using hc
      simp only [hformula, if_true]
      exact Or.inl rfl

/-- A formula cell that is read for its texts is entered. -/
theorem Grid.textsPlan_mustEnter (hc : g.holdsFormula c) :
    (g.textsPlan draws c).MustEnter c := by
  rw [Grid.textsPlan]
  rw [Grid.holdsFormula] at hc
  cases hraw : g.text? c with
  | none => simp [hraw] at hc
  | some raw => exact Or.inl rfl

/-- An operand that is a cell is entered. -/
theorem Grid.operandPlan_mustEnter {o : Operand} (hc : c ∈ o.references) :
    (Grid.operandPlan draws o).MustEnter c := by
  cases o with
  | cell d =>
      obtain rfl : c = d := List.mem_singleton.mp hc
      exact Or.inl rfl
  | number n => simp [Operand.references] at hc

/-- A call of any function but `IF` must enter what it refers to, if its arguments must. -/
theorem Builtin.planNamed_mustEnter {f : Option Builtin} (hf : f ≠ some .ifElse)
    {arguments : List Arg}
    (h : ∀ here, ∀ a ∈ arguments, ∀ kind, c ∈ a.references g kind →
      (a.readingPlan g here).MustEnter c kind)
    (hc : c ∈ references f (Arg.listReferences g arguments)) :
    (planNamed ambient f (Arg.plans g ambient arguments)).MustEnter c := by
  obtain ⟨f, rfl, hbound, index, a, kind, ha, hkind, hc⟩ := (Arg.mem_references_call g).mp hc
  refine Plan.MustEnter.contain ?_
  rw [Builtin.plan, Arg.length_plans, hbound]
  have hindex : index < arguments.length := (List.getElem?_eq_some_iff.mp ha).1
  have hasked : (f.query ambient arguments.length).MustAsk kind index :=
    query_mustAsk ambient (fun heq => hf (congrArg some heq)) hbound hindex hkind
  obtain ⟨here, hplan⟩ := Arg.getElem?_plans g ambient arguments index
  rw [ha, Option.map_some] at hplan
  have hmust := h here a (List.mem_of_getElem? ha) kind hc
  refine Query.plan_mustEnter hasked hplan hmust fun r hr => ?_
  -- No argument refuses to be read: inside the arguments, calls are contained.
  obtain ⟨i, hi⟩ := List.mem_iff_getElem?.mp hr
  obtain ⟨there, hthere⟩ := Arg.getElem?_plans g ambient arguments i
  rw [hthere, Option.map_eq_some_iff] at hi
  obtain ⟨b, hb, rfl⟩ := hi
  have hmem := List.mem_of_getElem? hb
  have hnumbers := Arg.readingPlans_entersOnly g there arguments b hmem .numbers
  have htexts := Arg.readingPlans_entersOnly g there arguments b hmem .texts
  exact ⟨Plan.EntersOnly.neverRefuses hnumbers, Plan.EntersOnly.neverRefuses htexts⟩

variable (g)

mutual

/-- Whatever the values of other cells are, a formula without a call of `IF` does not end before it
has entered every formula cell it refers to. -/
theorem Expr.plan_mustEnter (hc : g.holdsFormula c) : (ambient : Ambient) → (e : Expr) →
    e.calls .ifElse = false → c ∈ e.references g → (e.plan g ambient).MustEnter c
  | ambient, .call f arguments, hcalls, h => by
      rw [Expr.calls, Bool.or_eq_false_iff] at hcalls
      rw [Expr.references] at h
      rw [Expr.plan]
      exact Builtin.planNamed_mustEnter (beq_eq_false_iff_ne.mp hcalls.1)
        (fun here => Arg.readingPlans_mustEnter hc here arguments hcalls.2) h
  | ambient, .cell d, _, h => by
      rw [Expr.references] at h
      obtain rfl : c = d := List.mem_singleton.mp h
      rw [Expr.plan]
      exact Or.inl rfl
  | ambient, .arithmetic left operator right, _, h => by
      rw [Expr.references] at h
      rw [Expr.plan]
      rcases List.mem_append.mp h with h | h
      · exact (Grid.operandPlan_mustEnter h).bind _
      · -- The right operand is read whatever the left one is.
        refine Plan.mustEnter_bind (Grid.operandPlan_entersOnly left fun _ _ => trivial) fun l => ?_
        exact (Grid.operandPlan_mustEnter h).bind _
  | _, .number _, _, h => by simp [Expr.references] at h
  | _, .formless, _, h => by simp [Expr.references] at h

/-- A reading of an argument without a call of `IF` enters every formula cell that the argument
refers to when it is so read. -/
theorem Arg.readingPlan_mustEnter (hc : g.holdsFormula c) : (ambient : Ambient) → (a : Arg) →
    (kind : ReadingKind) → a.calls .ifElse = false → c ∈ a.references g kind →
    (a.readingPlan g ambient).MustEnter c kind
  | _, .plain _, _, _, h => by simp [Arg.references] at h
  | ambient, .call f arguments, kind, hcalls, h => by
      rw [Arg.calls, Bool.or_eq_false_iff] at hcalls
      rw [Arg.references] at h
      -- A nested call is made for its numbers and for its texts alike.
      have hcall : ∀ here,
          (Builtin.planNamed here f (Arg.plans g here arguments)).MustEnter c := fun here =>
        Builtin.planNamed_mustEnter (beq_eq_false_iff_ne.mp hcalls.1)
          (fun there => Arg.readingPlans_mustEnter hc there arguments hcalls.2) h
      cases kind with
      | numbers =>
          show (Arg.numbersPlan g (ambient.toward .numbers) (.call f arguments)).MustEnter c
          rw [Arg.numbersPlan]
          exact (hcall _).bind _
      | texts =>
          show (Arg.textsPlan g (ambient.toward .texts) (.call f arguments)).MustEnter c
          rw [Arg.textsPlan]
          exact (hcall _).bind _
  | _, .range r, .numbers, _, h => by
      rw [Arg.references] at h
      exact Plan.mustEnter_gather h (Grid.numbersPlan_mustEnter hc)
        fun d _ => Grid.numbersPlan_entersOnly d trivial
  | _, .range r, .texts, _, h => by
      rw [Arg.references] at h
      exact Plan.mustEnter_gather h (Grid.textsPlan_mustEnter hc)
        fun d _ => Grid.textsPlan_entersOnly d trivial
  | _, .cell d, kind, _, h => by
      rw [Arg.references] at h
      obtain rfl : c = d := List.mem_singleton.mp h
      cases kind with
      | numbers => exact Grid.numbersPlan_mustEnter hc
      | texts => exact Grid.textsPlan_mustEnter hc
  | _, .number _ _, _, _, h => by simp [Arg.references] at h
  | ambient, .other e source, .numbers, hcalls, h => by
      rw [Arg.calls] at hcalls
      rw [Arg.references] at h
      show (Arg.numbersPlan g (ambient.toward .numbers) (.other e source)).MustEnter c
      rw [Arg.numbersPlan]
      exact (Expr.plan_mustEnter hc _ e hcalls h).bind _
  | _, .other _ _, .texts, _, h => by simp [Arg.references] at h

/-- The same holds of every one of several arguments. -/
theorem Arg.readingPlans_mustEnter (hc : g.holdsFormula c) : (ambient : Ambient) →
    (arguments : List Arg) → Arg.anyCalls .ifElse arguments = false → ∀ a ∈ arguments, ∀ kind,
    c ∈ a.references g kind → (a.readingPlan g ambient).MustEnter c kind
  | _, [], _, _, h => by simp at h
  | ambient, first :: rest, hcalls, a, h => by
      rw [Arg.anyCalls, Bool.or_eq_false_iff] at hcalls
      rcases List.mem_cons.mp h with h | h
      · rw [h]
        exact fun kind => Arg.readingPlan_mustEnter hc ambient first kind hcalls.1
      · exact Arg.readingPlans_mustEnter hc ambient rest hcalls.2 a h

end

end

end FormulaTable
