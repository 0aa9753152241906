import FormulaTable.Proofs.Formula.Closed
import FormulaTable.Proofs.Formula.Form
import FormulaTable.Proofs.Text.Trim

/-!
# `FormulaTable.Proofs.Formula.Calls`: calls are read back as they were written

A call is written as a name and, in parentheses, its arguments with commas between them (`callText`,
`Listed`). Blanks may stand around each argument. What a single argument may be is said by
`IsArgument`: there is something in it, no blanks are around it, everything in it that is opened is
closed, and its commas stand inside quotes or parentheses.

* `splitCall?_callText` and `arguments_of_listed`: the name, the text between the parentheses and
  the arguments are found again.
* `isArgument_callText`: a call is itself an argument, so calls may be nested.
* `CallTree.ReadsByLevel.read_written`: a reader that takes calls apart level by level reads the
  text of a tree of calls as what the tree says, whatever that is to the reader. This is the one
  induction over such trees.

`calls_read_back` joins them, for the reader that gives back the tree itself.
-/

set_option autoImplicit false

namespace FormulaTable

/-! ## Names and arguments -/

/-- A name that a call may have: a letter with letters and digits after it. -/
structure IsCallName (name : List Char) : Prop where
  head_isAlpha : name.head?.any Char.isAlpha
  isAlphanum : ∀ c ∈ name, c.isAlphanum

instance (name : List Char) : Decidable (IsCallName name) :=
  decidable_of_iff (name.head?.any Char.isAlpha = true ∧ name.all Char.isAlphanum = true)
    ⟨fun h => ⟨h.1, List.all_eq_true.mp h.2⟩,
      fun h => ⟨h.head_isAlpha, List.all_eq_true.mpr h.isAlphanum⟩⟩

/-- A text that may stand as an argument between commas. -/
structure IsArgument (text : List Char) : Prop where
  ne_nil : text ≠ []
  trim_eq : Text.trim text = text
  closed : Closed false text

instance (text : List Char) : Decidable (IsArgument text) :=
  decidable_of_iff (text ≠ [] ∧ Text.trim text = text ∧ Closed false text)
    ⟨fun h => ⟨h.1, h.2.1, h.2.2⟩, fun h => ⟨h.ne_nil, h.trim_eq, h.closed⟩⟩

/-- The arguments with commas between them, and blanks around each of them or none. Without
arguments there may be blanks only. -/
inductive Listed : List (List Char) → List Char → Prop where
  | none {blanks : List Char} (hblanks : Text.AllBlank blanks) : Listed [] blanks
  | last {before argument after : List Char} (hbefore : Text.AllBlank before)
    (hafter : Text.AllBlank after) : Listed [argument] (before ++ argument ++ after)
  | more {before argument after next inner : List Char} {others : List (List Char)}
    (hbefore : Text.AllBlank before) (hafter : Text.AllBlank after)
    (hothers : Listed (next :: others) inner) :
    Listed (argument :: next :: others) (before ++ argument ++ after ++ ',' :: inner)

section
variable {before argument next inner : List Char} {others : List (List Char)}

/-- One argument may have blanks in front only. -/
theorem Listed.single (hbefore : Text.AllBlank before) :
    Listed [argument] (before ++ argument) := by
  have hlast : Listed [argument] (before ++ argument ++ []) := .last hbefore Text.allBlank_nil
  rw [List.append_nil] at hlast
  exact hlast

/-- A comma may stand right behind an argument. -/
theorem Listed.cons (hbefore : Text.AllBlank before) (hothers : Listed (next :: others) inner) :
    Listed (argument :: next :: others) (before ++ argument ++ ',' :: inner) := by
  have hmore : Listed (argument :: next :: others) (before ++ argument ++ [] ++ ',' :: inner) :=
    .more hbefore Text.allBlank_nil hothers
  rw [List.append_nil] at hmore
  exact hmore

end

/-- A call, with the text between its parentheses. -/
def callText (name inner : List Char) : List Char :=
  name ++ '(' :: (inner ++ [')'])

/-! ### Closed texts -/

/-- Blanks are closed. -/
theorem closed_of_allBlank {commas : Bool} {text : List Char} (h : Text.AllBlank text) :
    Closed commas text :=
  .of_class (by decide) h

/-- Letters and digits are closed. -/
theorem closed_of_isAlphanum {commas : Bool} {text : List Char} (h : ∀ c ∈ text, c.isAlphanum) :
    Closed commas text :=
  .of_class (by decide) h

/-- An argument with blanks around it is closed. -/
theorem IsArgument.closed_padded {before argument after : List Char} (h : IsArgument argument)
    (hbefore : Text.AllBlank before) (hafter : Text.AllBlank after) :
    Closed false (before ++ argument ++ after) :=
  ((closed_of_allBlank hbefore).append h.closed).append (closed_of_allBlank hafter)

/-- Listed arguments close what they open; the commas between them are the only ones outside. -/
theorem Listed.closed {args : List (List Char)} {inner : List Char} (h : Listed args inner)
    (hargs : ∀ argument ∈ args, IsArgument argument) : Closed true inner := by
  -- A comma outside quotations and parentheses is allowed here, and each argument is closed by
  -- itself.
  induction h with
  | none hblanks => exact closed_of_allBlank hblanks
  | last hbefore hafter =>
      exact ((hargs _ List.mem_cons_self).closed_padded hbefore hafter).weaken
  | more hbefore hafter _ ih =>
      have hfirst := ((hargs _ List.mem_cons_self).closed_padded hbefore hafter).weaken
      have hothers := ih fun other hother => hargs other (List.mem_cons_of_mem _ hother)
      exact hfirst.append (.plain rfl (by decide) (by decide) (fun _ => rfl) hothers)

/-! ## One call -/

section
variable {name inner : List Char}

/-- A text is a call if it is written as one, with anything balanced between the parentheses. -/
theorem splitCall?_eq_some_iff_balanced {body : List Char} :
    splitCall? body = some (name, inner) ↔
      IsCallName name ∧ body = callText name inner ∧ balanced inner = true := by
  constructor
  · intro h
    obtain ⟨⟨hletter, halphanum⟩, hbody, hbalanced⟩ := parts_of_splitCall? h
    exact ⟨⟨hletter, halphanum⟩, hbody, hbalanced⟩
  · rintro ⟨hname, rfl, hbalanced⟩
    -- The name is found again, because a parenthesis is no letter and no digit.
    have hparenthesis : ('(' : Char).isAlphanum = false := rfl
    obtain ⟨htake, hdrop⟩ := Text.cut_append hname.isAlphanum hparenthesis (inner ++ [')'])
    simp [splitCall?, callText, htake, hdrop, hname.head_isAlpha, hbalanced]

/-- The name and the text between the parentheses are found again. -/
theorem splitCall?_callText (hname : IsCallName name) (hinner : Closed true inner) :
    splitCall? (callText name inner) = some (name, inner) :=
  splitCall?_eq_some_iff_balanced.mpr ⟨hname, rfl, hinner.balanced⟩

/-- A call may stand as an argument itself. -/
theorem isArgument_callText (hname : IsCallName name) (hinner : Closed true inner) :
    IsArgument (callText name inner) where
  ne_nil := by simp [callText]
  trim_eq := (trim_of_splitCall? (splitCall?_callText hname hinner)).1
  closed := (closed_of_isAlphanum hname.isAlphanum).append (.parentheses hinner .nil)

end

/-! ### The arguments -/

section
variable {piece : List Char} (h : Closed false piece)
include h

/-- A closed text is one piece. -/
theorem arguments_of_closed :
    arguments piece = [Text.trim piece].filter fun argument => !argument.isEmpty := by
  have hcut := h.cutAtCommas_append []
  rw [List.append_nil] at hcut
  rw [arguments, hcut]
  simp [cutAtCommas]

/-- A closed text is one piece up to the comma after it. -/
theorem arguments_append_comma (rest : List Char) :
    arguments (piece ++ ',' :: rest)
      = ([Text.trim piece].filter fun argument => !argument.isEmpty) ++ arguments rest := by
  have hcomma : cutAtCommas {} (',' :: rest) = [] :: cutAtCommas {} rest := rfl
  rw [arguments, h.cutAtCommas_append, hcomma, arguments, ← List.filter_append]
  simp

end

/-- An argument is what is left of it and the blanks around it. -/
theorem IsArgument.filter_trim_padded {before argument after : List Char} (h : IsArgument argument)
    (hbefore : Text.AllBlank before) (hafter : Text.AllBlank after) :
    [Text.trim (before ++ argument ++ after)].filter (fun argument => !argument.isEmpty)
      = [argument] := by
  rw [Text.trim_padded hbefore hafter, h.trim_eq]
  simp [h.ne_nil]

/-- The arguments that are listed are found again, in their order. -/
theorem arguments_of_listed {args : List (List Char)} {inner : List Char} (h : Listed args inner)
    (hargs : ∀ argument ∈ args, IsArgument argument) : arguments inner = args := by
  induction h with
  | none hblanks =>
      -- What is blank altogether is no argument.
      rw [arguments_of_closed (closed_of_allBlank hblanks), Text.trim_of_allBlank hblanks]
      rfl
  | last hbefore hafter =>
      have hlast := hargs _ List.mem_cons_self
      rw [arguments_of_closed (hlast.closed_padded hbefore hafter),
        hlast.filter_trim_padded hbefore hafter]
  | more hbefore hafter _ ih =>
      have hfirst := hargs _ List.mem_cons_self
      rw [arguments_append_comma (hfirst.closed_padded hbefore hafter),
        hfirst.filter_trim_padded hbefore hafter,
        ih fun other hother => hargs other (List.mem_cons_of_mem _ hother)]
      rfl

/-- As a formula, a call is the call of its name with the arguments that are listed. -/
theorem Expr.ofFormula_callText {name inner : List Char} {args : List (List Char)}
    (hname : IsCallName name) (hargs : ∀ argument ∈ args, IsArgument argument)
    (hinner : Listed args inner) :
    Expr.ofFormula (String.ofList ('=' :: callText name inner))
      = .call (Builtin.ofName? name) (args.map Arg.ofChars) := by
  have hsplit := splitCall?_callText hname (hinner.closed hargs)
  have hform := Expr.hasForm_ofBody (callText name inner)
  rw [(trim_of_splitCall? hsplit).1] at hform
  rw [Expr.ofFormula, String.toList_ofList, bodyOf, hform.unique (.call hsplit),
    arguments_of_listed hinner hargs]

/-! ## Calls inside calls -/

/-- Calls inside each other, down to arguments of another kind. -/
inductive CallTree (Leaf : Type) where
  | leaf (l : Leaf)
  | call (name : List Char) (arguments : List (CallTree Leaf))

namespace CallTree

variable {Leaf : Type}

mutual

/-- The texts that a tree may be written as, if `names` and `leaves` relate the names and the leaves
in it to the texts that they may be written as. -/
inductive Written (names : List Char → List Char → Prop) (leaves : Leaf → List Char → Prop) :
    CallTree Leaf → List Char → Prop where
  | leaf {l : Leaf} {text : List Char} (hleaf : leaves l text) : Written names leaves (.leaf l) text
  | call {name written inner : List Char} {trees : List (CallTree Leaf)} {texts : List (List Char)}
    (hwritten : IsCallName written) (hname : names name written)
    (htrees : AllWritten names leaves trees texts) (hinner : Listed texts inner) :
    Written names leaves (.call name trees) (callText written inner)

/-- The same for several trees, one text for each. -/
inductive AllWritten (names : List Char → List Char → Prop) (leaves : Leaf → List Char → Prop) :
    List (CallTree Leaf) → List (List Char) → Prop where
  | nil : AllWritten names leaves [] []
  | cons {tree : CallTree Leaf} {text : List Char} {trees : List (CallTree Leaf)}
    {texts : List (List Char)} (htree : Written names leaves tree text)
    (htrees : AllWritten names leaves trees texts) :
    AllWritten names leaves (tree :: trees) (text :: texts)

end

mutual

/-- The value of a tree, from the values of its leaves upwards. -/
def fold {α : Type} (leaf : Leaf → α) (call : List Char → List α → α) : CallTree Leaf → α
  | .leaf l => leaf l
  | .call name trees => call name (foldAll leaf call trees)

/-- The values of several trees. -/
def foldAll {α : Type} (leaf : Leaf → α) (call : List Char → List α → α) :
    List (CallTree Leaf) → List α
  | [] => []
  | tree :: trees => tree.fold leaf call :: foldAll leaf call trees

end

/-- A reader takes calls apart level by level: of a call it makes something of the name and of what
it reads of the arguments, and does not mind in which way the name is written. -/
structure ReadsByLevel {α : Type} (names : List Char → List Char → Prop)
    (leaves : Leaf → List Char → Prop) (read : List Char → α) (leaf : Leaf → α)
    (call : List Char → List α → α) : Prop where
  read_leaf : ∀ {l text}, leaves l text → IsArgument text ∧ read text = leaf l
  read_call : ∀ {text name inner}, splitCall? text = some (name, inner) →
    read text = call name ((arguments inner).map read)
  call_name : ∀ {name written} args, IsCallName written → names name written →
    call written args = call name args

section
variable {α : Type} {names : List Char → List Char → Prop} {leaves : Leaf → List Char → Prop}
  {read : List Char → α} {leaf : Leaf → α} {call : List Char → List α → α}

mutual

/-- Every text of a tree may stand as an argument, and is read as the value of the tree. -/
theorem ReadsByLevel.read_written (h : ReadsByLevel names leaves read leaf call)
    {tree : CallTree Leaf} {text : List Char} :
    Written names leaves tree text → IsArgument text ∧ read text = tree.fold leaf call
  | .leaf hleaf => h.read_leaf hleaf
  | .call hwritten hname htrees hinner => by
      obtain ⟨hargs, hread⟩ := h.read_allWritten htrees
      have hclosed := hinner.closed hargs
      refine ⟨isArgument_callText hwritten hclosed, ?_⟩
      -- One level is taken off, and the arguments are read as the trees below it.
      rw [h.read_call (splitCall?_callText hwritten hclosed), arguments_of_listed hinner hargs,
        hread, h.call_name _ hwritten hname, fold]

/-- Trees side by side are written as arguments, and read as they are folded. -/
theorem ReadsByLevel.read_allWritten (h : ReadsByLevel names leaves read leaf call)
    {trees : List (CallTree Leaf)} {texts : List (List Char)} :
    AllWritten names leaves trees texts →
      (∀ text ∈ texts, IsArgument text) ∧ texts.map read = foldAll leaf call trees
  | .nil => ⟨by simp, rfl⟩
  | .cons htree htrees => by
      obtain ⟨hfirst, hread⟩ := h.read_written htree
      obtain ⟨hothers, hreads⟩ := h.read_allWritten htrees
      refine ⟨List.forall_mem_cons.mpr ⟨hfirst, hothers⟩, ?_⟩
      rw [List.map_cons, hread, hreads, foldAll]

end
end

/-! ### The tree is found again -/

/-- Reads a text level by level: a call is split into its name and its arguments, and they are read
in turn. What is no call is a leaf. -/
def ofChars (text : List Char) : CallTree (List Char) :=
  match _h : splitCall? text with
  | some (name, inner) => .call name ((arguments inner).attach.map fun piece => ofChars piece.val)
  | none => .leaf text
termination_by text.length
decreasing_by
  have := length_lt_of_splitCall? _h
  have := length_le_of_mem_arguments piece.property
  omega

/-- A text that is a call is read as one, and its arguments are read the same way. -/
theorem ofChars_of_splitCall? {text name inner : List Char}
    (h : splitCall? text = some (name, inner)) :
    ofChars text = .call name ((arguments inner).map ofChars) := by
  rw [ofChars]
  split
  · next name' inner' hcall =>
      rw [h] at hcall
      cases hcall
      rw [List.attach_map_val]
  · next hcall => simp [h] at hcall

/-- A text that is no call is a leaf. -/
theorem ofChars_of_none {text : List Char} (h : splitCall? text = none) :
    ofChars text = .leaf text := by
  rw [ofChars]
  split
  · next hcall => simp [h] at hcall
  · rfl

/-- An argument that is no call stands for itself. -/
def IsPlain (argument text : List Char) : Prop :=
  text = argument ∧ IsArgument text ∧ splitCall? text = none

instance (argument text : List Char) : Decidable (IsPlain argument text) :=
  inferInstanceAs (Decidable (_ ∧ _))

/-- Plain texts are read level by level as they are. -/
theorem readsByLevel_ofChars : ReadsByLevel Eq IsPlain ofChars .leaf .call where
  read_leaf := by
    rintro argument text ⟨rfl, hargument, hnone⟩
    exact ⟨hargument, ofChars_of_none hnone⟩
  read_call := ofChars_of_splitCall?
  call_name := by
    rintro name _ args - rfl
    rfl

mutual

/-- A tree folded with its own constructors is the tree. -/
theorem fold_leaf_call : (tree : CallTree Leaf) → tree.fold .leaf .call = tree
  | .leaf _ => rfl
  | .call name trees => by rw [fold, foldAll_leaf_call trees]

/-- So are trees side by side. -/
theorem foldAll_leaf_call : (trees : List (CallTree Leaf)) → foldAll .leaf .call trees = trees
  | [] => rfl
  | tree :: trees => by rw [foldAll, fold_leaf_call tree, foldAll_leaf_call trees]

end

end CallTree

/-- Calls are read back as they were written. A name with arguments that close what they open, with
commas between them and any blanks around each, is split into that name and the text between the
parentheses, and that text into these arguments. The call may stand as an argument of another one.
So calls inside each other are found again level by level, down to arguments that are no calls. -/
theorem calls_read_back :
    (∀ (name inner : List Char) (args : List (List Char)), IsCallName name →
      (∀ argument ∈ args, IsArgument argument) → Listed args inner →
      splitCall? (callText name inner) = some (name, inner) ∧ arguments inner = args ∧
        IsArgument (callText name inner)) ∧
    ∀ (tree : CallTree (List Char)) (text : List Char),
      tree.Written Eq CallTree.IsPlain text → CallTree.ofChars text = tree := by
  constructor
  · intro name inner args hname hargs hinner
    have hclosed := hinner.closed hargs
    exact ⟨splitCall?_callText hname hclosed, arguments_of_listed hinner hargs,
      isArgument_callText hname hclosed⟩
  · intro tree text htext
    rw [(CallTree.readsByLevel_ofChars.read_written htext).2, CallTree.fold_leaf_call]

/-- Blanks, a line break, the other quotation mark, and parentheses and commas inside quotes do not
matter, neither in the call nor in the one inside it. -/
theorem calls_read_back_nested :
    let range := "A1:A3".toList
    let cell := "B1".toList
    let single := "'x\")'".toList
    let double := "\"a,(b\"".toList
    let product := callText "PRODUCT".toList (" B1,".toList ++ single ++ " ".toList)
    let inner := " A1:A3 ,".toList ++ product ++ "\n,\t".toList ++ double
    splitCall? (callText "SUM".toList inner) = some ("SUM".toList, inner) ∧
      arguments inner = [range, product, double] ∧
      CallTree.ofChars (callText "SUM".toList inner) = .call "SUM".toList
        [.leaf range, .call "PRODUCT".toList [.leaf cell, .leaf single], .leaf double] := by
  intro range cell single double product inner
  obtain ⟨hcalls, htrees⟩ := calls_read_back
  have hproduct : Listed [cell, single] (" B1,".toList ++ single ++ " ".toList) :=
    @Listed.more " ".toList cell [] single _ [] (by decide) (by decide)
      (@Listed.last [] single " ".toList (by decide) (by decide))
  have hinner : Listed [range, product, double] inner :=
    @Listed.more " ".toList range " ".toList product _ [double] (by decide) (by decide)
      (@Listed.more [] product "\n".toList double _ [] (by decide) (by decide)
        (@Listed.last "\t".toList double [] (by decide) (by decide)))
  have hleaf : ∀ leaf ∈ [range, cell, single, double], CallTree.IsPlain leaf leaf := by decide
  -- The tree is written from the inside out.
  have hnested := CallTree.Written.call (by decide : IsCallName "PRODUCT".toList) rfl
    (.cons (.leaf (hleaf cell (by decide))) (.cons (.leaf (hleaf single (by decide))) .nil))
      hproduct
  have hwhole := CallTree.Written.call (by decide : IsCallName "SUM".toList) rfl
    (.cons (.leaf (hleaf range (by decide))) (.cons hnested
      (.cons (.leaf (hleaf double (by decide))) .nil))) hinner
  obtain ⟨hsplit, harguments, -⟩ :=
    hcalls "SUM".toList inner [range, product, double] (by decide) (by decide) hinner
  exact ⟨hsplit, harguments, htrees _ _ hwhole⟩

end FormulaTable
