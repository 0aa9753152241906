import FormulaTable.Proofs.Formula.Partner

/-!
# `FormulaTable.Proofs.Formula.Pieces`: arguments put together again

`arguments` cuts any text, balanced or not. What it cuts out may leave a quotation or a parenthesis
open, or close one that was never opened, so the grammar of closed texts does not describe it. The
theorems here follow the scan instead. `Nesting.past` says where a scan stands behind a text,
`Nesting.Throughout` what holds at every character on the way.

* `cut_induction`: a text has no comma to be cut at, or it is a piece, the first such comma and a
  shorter text.
* `strung_arguments`: each argument has its commas inside, and behind each but the last the scan
  stands outside.
* `arguments_intercalate`: arguments of this kind are found again when commas are put between them.
* `balanced_of_mem_arguments`: the arguments in a balanced text are balanced.

`arguments_rejoined` joins them.
-/

set_option autoImplicit false

namespace FormulaTable

/-! ## A scan and what it passes -/

namespace Nesting

/-- Goes past a text. -/
def past (s : Nesting) (text : List Char) : Nesting :=
  text.foldl step s

/-- At every character of the text, `p` holds of the character and of where the scan stands in front
of it. -/
def Throughout (p : Nesting → Char → Prop) (s : Nesting) (text : List Char) : Prop :=
  ∀ before c behind, text = before ++ c :: behind → p (s.past before) c

section
variable {p : Nesting → Char → Prop} {s : Nesting}

/-- Behind two texts the scan stands where it stands behind the second, from behind the first. -/
theorem past_append (s : Nesting) (text more : List Char) :
    s.past (text ++ more) = (s.past text).past more :=
  List.foldl_append

/-- On the way past an empty text there is nothing to see. -/
theorem throughout_nil : Throughout p s [] := by
  intro before c behind h
  simp at h

/-- What holds on the way past a text holds at its first character and on the way past the rest. -/
theorem throughout_cons {c : Char} {text : List Char} :
    Throughout p s (c :: text) ↔ p s c ∧ Throughout p (s.step c) text := by
  constructor
  · intro h
    exact ⟨h [] c text rfl, fun before d behind heq => h (c :: before) d behind (by rw [heq]; rfl)⟩
  · rintro ⟨hfirst, hrest⟩ before d behind heq
    cases before with
    | nil =>
        obtain ⟨rfl, rfl⟩ : c = d ∧ text = behind := by simpa using heq
        exact hfirst
    | cons e before =>
        obtain ⟨rfl, rfl⟩ : c = e ∧ text = before ++ d :: behind := by simpa using heq
        exact hrest before d behind rfl

/-- What holds on the way past two texts holds on the way past each. -/
theorem throughout_append {text more : List Char} :
    Throughout p s (text ++ more) ↔ Throughout p s text ∧ Throughout p (s.past text) more := by
  induction text generalizing s with
  | nil => exact ⟨fun h => ⟨throughout_nil, h⟩, And.right⟩
  | cons c text ih => rw [List.cons_append, throughout_cons, throughout_cons, ih, and_assoc]; rfl

/-- Only where the scan began does it stand outside. -/
theorem eq_start_of_isOutside (h : s.isOutside) : s = {} := by
  obtain ⟨quote, depth⟩ := s
  simp only [isOutside, Bool.and_eq_true, Option.isNone_iff_eq_none, beq_iff_eq] at h
  rw [h.1, h.2]

/-! ### Blanks -/

/-- The scan is in a quotation only if that began with a quotation mark. -/
def IsProper (s : Nesting) : Prop :=
  ∀ mark ∈ s.quote, isQuote mark

/-- A proper scan is proper behind a character. -/
theorem IsProper.step (h : s.IsProper) (c : Char) : (s.step c).IsProper := by
  intro mark hmark
  have hmark' : s.step c = { quote := some mark, depth := (s.step c).depth } := by
    rw [← Option.mem_def.mp hmark]
  rcases eq_or_isQuote_of_step hmark' with ⟨hs, -⟩ | ⟨-, -, hquote⟩
  · exact h mark (by rw [hs]; rfl)
  · exact hquote

/-- A proper scan is proper behind a text. -/
theorem IsProper.past (h : s.IsProper) (text : List Char) : (s.past text).IsProper := by
  induction text generalizing s with
  | nil => exact h
  | cons c text ih => exact ih (h.step c)

/-- The scan starts properly. -/
theorem isProper_start : IsProper {} := by
  intro mark hmark
  cases hmark

/-- Blanks are neither marks of a quotation nor parentheses. -/
theorem IsProper.step_of_isBlank (h : s.IsProper) {c : Char} (hc : Text.isBlank c) :
    s.step c = s := by
  -- A blank is none of the marks, so the scan passes it outside and inside a quotation.
  have hother : ∀ d : Char, Text.isBlank d = false → c ≠ d := by
    rintro d hd rfl
    rw [hc] at hd
    cases hd
  have hquote : isQuote c = false := by
    simp [isQuote, hother '\x22' (by decide), hother '\x27' (by decide)]
  obtain ⟨quote, depth⟩ := s
  cases quote with
  | none => exact step_of_plain hquote (hother '(' (by decide)) (hother ')' (by decide)) depth
  | some mark =>
      refine step_of_ne_mark ?_ depth
      rintro rfl
      -- Here a proper state is needed: the open mark is a quotation mark, and the blank is not.
      rw [h c rfl] at hquote
      cases hquote

/-- Blanks do not move a proper scan. -/
theorem IsProper.past_of_allBlank (h : s.IsProper) {blanks : List Char}
    (hblanks : Text.AllBlank blanks) :
    s.past blanks = s := by
  induction blanks with
  | nil => rfl
  | cons c blanks ih =>
      have hstep := h.step_of_isBlank (hblanks c List.mem_cons_self)
      show (s.step c).past blanks = s
      rw [hstep]
      exact ih fun d hd => hblanks d (List.mem_cons_of_mem c hd)

/-- Behind a text and behind what is left of it when it is trimmed, the scan stands alike. -/
theorem past_trim (text : List Char) : past {} (Text.trim text) = past {} text := by
  obtain ⟨before, behind, hbefore, hbehind, heq⟩ := Text.exists_padding text
  have hstart := isProper_start.past_of_allBlank hbefore
  conv_rhs => rw [heq]
  rw [past_append, past_append, hstart, (isProper_start.past _).past_of_allBlank hbehind]

/-- What holds throughout a text still does when the text is trimmed. -/
theorem Throughout.trim {text : List Char} (h : Throughout p {} text) :
    Throughout p {} (Text.trim text) := by
  obtain ⟨before, behind, hbefore, -, heq⟩ := Text.exists_padding text
  rw [heq, throughout_append, throughout_append, isProper_start.past_of_allBlank hbefore] at h
  exact h.1.2

end

end Nesting

open Nesting (Throughout)

/-! ## Where a text is cut -/

/-- Every comma of the text stands inside quotes or parentheses, so the text is not cut. -/
def InnerCommas (s : Nesting) (text : List Char) : Prop :=
  Throughout (fun s c => (s.isOutside && c == ',') = false) s text

/-- All commas are inner ones if the scan is never outside in front of one. -/
theorem innerCommas_iff {s : Nesting} {text : List Char} :
    InnerCommas s text ↔
      ∀ before behind, text = before ++ ',' :: behind → (s.past before).isOutside = false := by
  constructor
  · intro h before behind heq
    simpa using h before ',' behind heq
  · intro h before c behind heq
    by_cases hc : c = ','
    · subst hc
      simp [h before behind heq]
    · simp [hc]

/-- A text is not cut anywhere, or there is a first comma to cut it at. -/
theorem innerCommas_or_exists (s : Nesting) (text : List Char) :
    InnerCommas s text ∨
      ∃ piece rest, text = piece ++ ',' :: rest ∧ InnerCommas s piece ∧
      (s.past piece).isOutside := by
  induction text generalizing s with
  | nil => exact Or.inl Nesting.throughout_nil
  | cons c text ih =>
      -- The first comma outside ends the piece.
      by_cases hcut : (s.isOutside && c == ',') = true
      · obtain ⟨hout, rfl⟩ : s.isOutside = true ∧ c = ',' := by simpa using hcut
        exact Or.inr ⟨[], text, rfl, Nesting.throughout_nil, hout⟩
      · rw [Bool.not_eq_true] at hcut
        rcases ih (s.step c) with hinner | ⟨piece, rest, rfl, hinner, hout⟩
        · exact Or.inl (Nesting.throughout_cons.mpr ⟨hcut, hinner⟩)
        · exact Or.inr ⟨c :: piece, rest, rfl, Nesting.throughout_cons.mpr ⟨hcut, hinner⟩, hout⟩

/-- What holds of the texts that are not cut, and of a text if it holds of what comes behind its
first piece, holds of every text. -/
theorem cut_induction {motive : List Char → Prop}
    (last : ∀ text, InnerCommas {} text → motive text)
    (more : ∀ piece rest, InnerCommas {} piece → (Nesting.past {} piece).isOutside → motive rest →
      motive (piece ++ ',' :: rest))
    (text : List Char) : motive text := by
  induction hlength : text.length using Nat.strongRecOn generalizing text with
  | ind length ih =>
      rcases innerCommas_or_exists {} text with hinner | ⟨piece, rest, rfl, hinner, hout⟩
      · exact last text hinner
      · have hlt : rest.length < length := by
          rw [← hlength, List.length_append, List.length_cons]
          omega
        exact more piece rest hinner hout (ih rest.length hlt rest rfl)

/-- A piece without a comma that cuts is put in front of the first piece of the rest. -/
theorem cutAtCommas_append {s : Nesting} {piece : List Char} (h : InnerCommas s piece)
    (rest : List Char) :
    cutAtCommas s (piece ++ rest) = (cutAtCommas (s.past piece) rest).modifyHead (piece ++ ·) := by
  induction piece generalizing s with
  | nil =>
      show cutAtCommas s rest = (cutAtCommas s rest).modifyHead id
      rw [List.modifyHead_id]
      rfl
  | cons c piece ih =>
      obtain ⟨hfirst, hrest⟩ := Nesting.throughout_cons.mp h
      rw [List.cons_append, cutAtCommas_cons hfirst, ih hrest, List.modifyHead_modifyHead]
      rfl

/-! ### The arguments -/

section
variable {piece : List Char} (h : InnerCommas {} piece)
include h

/-- A text that is not cut is one argument, or none if it is blank. -/
theorem arguments_of_innerCommas :
    arguments piece = [Text.trim piece].filter fun argument => !argument.isEmpty := by
  have hcut := cutAtCommas_append h []
  rw [List.append_nil] at hcut
  rw [arguments, hcut]
  simp [cutAtCommas]

/-- The first piece of a text gives its first argument, and the others come from behind the
comma. -/
theorem arguments_cut (hout : (Nesting.past {} piece).isOutside) (rest : List Char) :
    arguments (piece ++ ',' :: rest)
      = ([Text.trim piece].filter fun argument => !argument.isEmpty) ++ arguments rest := by
  have hcomma : cutAtCommas {} (',' :: rest) = [] :: cutAtCommas {} rest := rfl
  rw [arguments, cutAtCommas_append h, Nesting.eq_start_of_isOutside hout, hcomma, arguments,
    ← List.filter_append]
  simp

end

/-! ## Putting arguments together -/

/-- A text that is cut out as it is: there is something in it, no blanks are around it, and its
commas stand inside. It need not close what it opens. -/
structure IsCutOut (argument : List Char) : Prop where
  ne_nil : argument ≠ []
  trim_eq : Text.trim argument = argument
  innerCommas : InnerCommas {} argument

/-- Texts that can be told apart with a comma behind each but the last: where the comma stands, the
scan is outside. -/
inductive Strung : List (List Char) → Prop where
  | nil : Strung []
  | last {argument : List Char} (hargument : IsCutOut argument) : Strung [argument]
  | more {argument : List Char} {others : List (List Char)} (hargument : IsCutOut argument)
    (hout : (Nesting.past {} argument).isOutside) (hothers : Strung others) :
    Strung (argument :: others)

/-- Texts that are strung together are pieces that have been cut out. -/
theorem Strung.isCutOut {args : List (List Char)} (h : Strung args) :
    ∀ argument ∈ args, IsCutOut argument := by
  induction h with
  | nil => simp
  | last hargument => simpa using hargument
  | more hargument _ _ ih => exact List.forall_mem_cons.mpr ⟨hargument, ih⟩

/-- A piece without a comma that cuts is cut out without the blanks around it, unless nothing is
left. -/
theorem InnerCommas.isCutOut_trim {piece : List Char} (h : InnerCommas {} piece)
    (hne : Text.trim piece ≠ []) : IsCutOut (Text.trim piece) :=
  ⟨hne, Text.trim_trim piece, h.trim⟩

/-- The arguments of any text can be told apart. -/
theorem strung_arguments (text : List Char) : Strung (arguments text) := by
  -- At each cut the piece is dropped if it is blank and put in front otherwise.
  induction text using cut_induction with
  | last text hinner =>
      rw [arguments_of_innerCommas hinner]
      by_cases hblank : Text.trim text = []
      · rw [hblank]
        exact .nil
      · rw [List.filter_cons_of_pos (by simpa using hblank)]
        exact .last (hinner.isCutOut_trim hblank)
  | more piece rest hinner hout ih =>
      rw [arguments_cut hinner hout]
      by_cases hblank : Text.trim piece = []
      · rw [hblank]
        exact ih
      · rw [List.filter_cons_of_pos (by simpa using hblank)]
        refine .more (hinner.isCutOut_trim hblank) ?_ ih
        rw [Nesting.past_trim]
        exact hout

/-- Blanks in front of a text do not matter. -/
theorem arguments_blanks_append {blanks : List Char} (hblanks : Text.AllBlank blanks)
    (text : List Char) :
    arguments (blanks ++ text) = arguments text := by
  have hinner : InnerCommas {} blanks := by
    rw [innerCommas_iff]
    rintro before behind rfl
    exact absurd (hblanks ',' (by simp)) (by decide)
  have hpast := Nesting.isProper_start.past_of_allBlank hblanks
  obtain ⟨piece, pieces, hpieces⟩ := List.exists_cons_of_ne_nil (cutAtCommas_ne_nil {} text)
  have htrim := Text.trim_padded hblanks Text.allBlank_nil piece
  rw [List.append_nil] at htrim
  rw [arguments, cutAtCommas_append hinner, hpast, hpieces, arguments, hpieces,
    List.modifyHead_cons, List.map_cons, htrim, List.map_cons]

/-- Texts that can be told apart are found again with commas between them, with or without blanks
behind each comma. -/
theorem arguments_intercalate {args : List (List Char)} (h : Strung args) {blanks : List Char}
    (hblanks : Text.AllBlank blanks) : arguments ((',' :: blanks).intercalate args) = args := by
  -- Along the pieces: the comma put behind a piece is one at which the text is cut again.
  induction h with
  | nil => rfl
  | last hargument =>
      rw [List.intercalate_singleton, arguments_of_innerCommas hargument.innerCommas,
        hargument.trim_eq]
      simp [hargument.ne_nil]
  | @more argument others hargument hout _ ih =>
      have hfirst : ([Text.trim argument].filter fun a => !a.isEmpty) = [argument] := by
        rw [hargument.trim_eq]
        simp [hargument.ne_nil]
      cases others with
      | nil =>
          rw [List.intercalate_singleton, arguments_of_innerCommas hargument.innerCommas, hfirst]
      | cons next others =>
          rw [List.intercalate_cons_cons, List.append_assoc, List.cons_append,
            arguments_cut hargument.innerCommas hout, arguments_blanks_append hblanks, ih, hfirst]
          rfl

/-! ## Balanced texts -/

/-- A text is balanced if nothing is closed too often on the way past it and nothing is open behind
it. -/
theorem balancedFrom_iff {s : Nesting} {text : List Char} :
    balancedFrom s text ↔
      Throughout (fun s c => s.overcloses c = false) s text ∧ (s.past text).depth = 0 := by
  induction text generalizing s with
  | nil => simp [balancedFrom, Nesting.throughout_nil, Nesting.past]
  | cons c text ih =>
      rw [balancedFrom, Bool.and_eq_true, Bool.not_eq_true', ih, Nesting.throughout_cons, and_assoc]
      rfl

/-- A balanced text is balanced without the blanks around it. -/
theorem balanced_trim {text : List Char} (h : balanced text) : balanced (Text.trim text) := by
  obtain ⟨hthroughout, hdepth⟩ := balancedFrom_iff.mp h
  refine balancedFrom_iff.mpr ⟨hthroughout.trim, ?_⟩
  rw [Nesting.past_trim]
  exact hdepth

/-- The arguments in a balanced text are balanced. -/
theorem balanced_of_mem_arguments {text argument : List Char} (h : balanced text)
    (hargument : argument ∈ arguments text) : balanced argument := by
  induction text using cut_induction with
  | last text hinner =>
      rw [arguments_of_innerCommas hinner] at hargument
      obtain rfl : argument = Text.trim text :=
        List.mem_singleton.mp (List.mem_of_mem_filter hargument)
      exact balanced_trim h
  | more piece rest hinner hout ih =>
      obtain ⟨hthroughout, hdepth⟩ := balancedFrom_iff.mp h
      -- Behind the piece and behind the comma, the scan stands where it began.
      have hstart := Nesting.eq_start_of_isOutside hout
      have hcomma : Nesting.step {} ',' = {} := rfl
      rw [Nesting.throughout_append, Nesting.throughout_cons, hstart, hcomma] at hthroughout
      rw [Nesting.past_append, hstart] at hdepth
      obtain ⟨hpiece, -, hrest⟩ := hthroughout
      rw [arguments_cut hinner hout] at hargument
      rcases List.mem_append.mp hargument with hfirst | hother
      · obtain rfl : argument = Text.trim piece :=
          List.mem_singleton.mp (List.mem_of_mem_filter hfirst)
        exact balanced_trim (balancedFrom_iff.mpr ⟨hpiece, by rw [hstart]⟩)
      · exact ih (balancedFrom_iff.mpr ⟨hrest, hdepth⟩) hother

/-- In a balanced text that is written as a call, nothing is left open between the parentheses. -/
theorem not_leavesQuotationOpen_of_balanced {name inner : List Char} (hname : IsCallName name)
    (h : balanced (callText name inner)) : ¬ LeavesQuotationOpen inner := by
  rintro ⟨before, mark, after, rfl, hbefore, hmark, hafter⟩
  have hend : mark ∉ after ++ [')'] := by
    have hne : mark ≠ ')' := by
      rintro rfl
      cases hmark
    simp [hafter, hne]
  -- The parenthesis behind the name is still open at the end.
  have hopen : balancedFrom (.atDepth 0) (callText name (before ++ mark :: after)) = false := by
    have hname_closed : Closed true name := closed_of_isAlphanum hname.isAlphanum
    have hparenthesis : ∀ rest, balancedFrom (.atDepth 0) ('(' :: rest)
        = balancedFrom (.atDepth 1) rest :=
      fun _ => rfl
    rw [callText, hname_closed.balancedFrom_append, hparenthesis, List.append_assoc,
      List.cons_append, hbefore.balancedFrom_append, balancedFrom, Nesting.step_of_isQuote hmark,
      balancedFrom_of_not_mem hend]
    exact Bool.and_false _
  have hbalanced : balancedFrom (.atDepth 0) (callText name (before ++ mark :: after)) = true := h
  rw [hopen] at hbalanced
  cases hbalanced

/-- A balanced text that is written as a call is taken for one if and only if its last character is
the partner of the parenthesis behind the name. -/
theorem splitCall?_of_balanced {name inner : List Char} (hname : IsCallName name)
    (h : balanced (callText name inner)) :
    splitCall? (callText name inner) = some (name, inner) ↔
      partner? (callText name inner) name.length = some ((callText name inner).length - 1) := by
  have hclosed := not_leavesQuotationOpen_of_balanced hname h
  rw [splitCall?_eq_some_iff_balanced, balanced_iff, partner?_callText_eq_last]
  simp [hname, hclosed]

/-! ## Arguments -/

/-- Arguments are stable when they are put together again, whether the text closes what it opens or
not: with a comma between them, and also with a comma and a space, they are the same arguments. None
of them is empty, begins with a blank or ends with one. In a balanced text each of them is balanced,
and every comma in it stands inside quotes or parentheses. So what is written as a call among the
arguments of a call is taken for one, as soon as its last character closes the parenthesis behind
its name, and only then. -/
theorem arguments_rejoined (text : List Char) :
    arguments ([','].intercalate (arguments text)) = arguments text ∧
    arguments ([',', ' '].intercalate (arguments text)) = arguments text ∧
    (∀ argument ∈ arguments text, argument ≠ [] ∧ (∀ c ∈ argument.head?, Text.isBlank c = false) ∧
      ∀ c ∈ argument.getLast?, Text.isBlank c = false) ∧
    (balanced text → ∀ argument ∈ arguments text, balanced argument ∧
      ∀ before behind, argument = before ++ ',' :: behind →
        (Nesting.past {} before).isOutside = false) ∧
    ∀ name inner, splitCall? text = some (name, inner) → ∀ argument ∈ arguments inner,
      balanced argument ∧ ∀ name' inner', IsCallName name' → argument = callText name' inner' →
        (splitCall? argument = some (name', inner') ↔
          partner? argument name'.length = some (argument.length - 1)) := by
  have hstrung := strung_arguments text
  refine ⟨arguments_intercalate hstrung Text.allBlank_nil,
    arguments_intercalate hstrung (by decide : Text.AllBlank [' ']), ?_, ?_, ?_⟩
  · intro argument hargument
    have hcut := hstrung.isCutOut argument hargument
    have hhead := Text.not_isBlank_of_head?_trim argument
    have hlast := Text.not_isBlank_of_getLast?_trim argument
    rw [hcut.trim_eq] at hhead hlast
    exact ⟨hcut.ne_nil, hhead, hlast⟩
  · intro h argument hargument
    exact ⟨balanced_of_mem_arguments h hargument,
      innerCommas_iff.mp (hstrung.isCutOut argument hargument).innerCommas⟩
  · intro name inner hcall argument hargument
    have hinner : balanced inner := (splitCall?_eq_some_iff_balanced.mp hcall).2.2
    have hbalanced := balanced_of_mem_arguments hinner hargument
    refine ⟨hbalanced, ?_⟩
    rintro name' inner' hname' rfl
    -- A balanced argument that looks like a call is one exactly if its last parenthesis is the
    -- partner of the first.
    exact splitCall?_of_balanced hname' hbalanced

/-- A closing parenthesis without a partner, blanks beside it and a quotation that is left open do
not matter when the arguments are put together again. The call among the arguments of a call is
taken for one. -/
theorem arguments_rejoined_in_call :
    let odd := " )a ,, (b,c) , \"d ,".toList
    let call := "SUM( MAX(B1, 2) ,\"a,(b\" )".toList
    let inner := " MAX(B1, 2) ,\"a,(b\" ".toList
    let nested := "MAX(B1, 2)".toList
    arguments odd = [")a".toList, "(b,c)".toList, "\"d ,".toList] ∧
      arguments ([',', ' '].intercalate (arguments odd)) = arguments odd ∧
      splitCall? call = some ("SUM".toList, inner) ∧ nested ∈ arguments inner ∧ balanced nested ∧
      splitCall? nested = some ("MAX".toList, "B1, 2".toList) := by
  intro odd call inner nested
  have hcall : splitCall? call = some ("SUM".toList, inner) := by decide
  have hnested : nested ∈ arguments inner := by decide
  obtain ⟨-, hrejoined, -, -, -⟩ := arguments_rejoined odd
  obtain ⟨-, -, -, -, harguments⟩ := arguments_rejoined call
  obtain ⟨hbalanced, hsplit⟩ := harguments _ inner hcall nested hnested
  have hname : IsCallName "MAX".toList := by decide
  exact ⟨by decide, hrejoined, hcall, hnested, hbalanced,
    (hsplit "MAX".toList "B1, 2".toList hname (by decide)).mpr (by decide)⟩

end FormulaTable
