import FormulaTable.Formula.Call
import Mathlib.Data.List.Basic

/-!
# `FormulaTable.Proofs.Formula.Closed`: texts in which everything that is opened is closed

`Closed` is the grammar of the texts in which every quotation and every parenthesis that is opened
is closed again, and nothing else is. It says nothing of a scan. A scan with a `Nesting` leaves such
a text as it entered it, whatever the scan is for: `Closed.scan_append` is the one induction over
the grammar, and the check for balance (`Closed.balancedFrom_append`) and the cutting at commas
(`Closed.cutAtCommas_append`) are cases of it.

`closed_iff` goes the other way. A text that a scan passes without closing too much, and at whose
end nothing is open, is in the grammar; so the grammar can be decided.
-/

set_option autoImplicit false

namespace FormulaTable

/-- A text in which every quotation and every parenthesis that is opened is closed. With `commas`, a
comma may stand in it anywhere; without, only inside quotes and parentheses. -/
inductive Closed : Bool → List Char → Prop where
  | nil {commas : Bool} : Closed commas []
  | plain {commas : Bool} {c : Char} {rest : List Char} (hquote : isQuote c = false)
    (hopen : c ≠ '(') (hclose : c ≠ ')') (hcomma : c = ',' → commas = true)
    (hrest : Closed commas rest) : Closed commas (c :: rest)
  /-- A quotation ends where its own mark stands next. -/
  | quoted {commas : Bool} {mark : Char} {inside rest : List Char} (hmark : isQuote mark)
    (hinside : mark ∉ inside) (hrest : Closed commas rest) :
    Closed commas (mark :: (inside ++ mark :: rest))
  | parentheses {commas : Bool} {inside rest : List Char} (hinside : Closed true inside)
    (hrest : Closed commas rest) : Closed commas ('(' :: (inside ++ ')' :: rest))

/-- The characters that a scan pays attention to. -/
def Nesting.marks : List Char :=
  ['\x22', '\x27', '(', ')', ',']

namespace Closed

variable {commas : Bool} {text more : List Char}

/-- Closed texts side by side are closed. -/
theorem append (h : Closed commas text) (hmore : Closed commas more) :
    Closed commas (text ++ more) := by
  induction h with
  | nil => exact hmore
  | plain hquote hopen hclose hcomma _ ih => exact .plain hquote hopen hclose hcomma (ih hmore)
  | quoted hmark hinside _ ih =>
      rw [List.cons_append, List.append_assoc, List.cons_append]
      exact .quoted hmark hinside (ih hmore)
  | parentheses hinside _ _ ih =>
      rw [List.cons_append, List.append_assoc, List.cons_append]
      exact .parentheses hinside (ih hmore)

/-- A text without commas of its own may stand where commas may. -/
theorem weaken (h : Closed commas text) : Closed true text := by
  induction h with
  | nil => exact .nil
  | plain hquote hopen hclose _ _ ih => exact .plain hquote hopen hclose (fun _ => rfl) ih
  | quoted hmark hinside _ ih => exact .quoted hmark hinside ih
  | parentheses hinside _ _ ih => exact .parentheses hinside ih

/-- Without quotation marks, parentheses and commas there is nothing to close. -/
theorem of_class {p : Char → Bool} (hp : Nesting.marks.any p = false) (h : ∀ c ∈ text, p c) :
    Closed commas text := by
  induction text with
  | nil => exact .nil
  | cons c rest ih =>
      -- No character of the class is a mark, so each one is a plain character.
      have hother : ∀ mark ∈ Nesting.marks, c ≠ mark := by
        rintro mark hmark rfl
        have hany : Nesting.marks.any p = true :=
          List.any_eq_true.mpr ⟨c, hmark, h c List.mem_cons_self⟩
        rw [hp] at hany
        cases hany
      have hquote : isQuote c = false := by
        simp [isQuote, hother '\x22' (by decide), hother '\x27' (by decide)]
      exact .plain hquote (hother '(' (by decide)) (hother ')' (by decide))
        (fun heq => absurd heq (hother ',' (by decide)))
        (ih fun d hd => h d (List.mem_cons_of_mem c hd))

end Closed

/-! ## Scans -/

namespace Nesting

/-- Outside of quotes, inside `depth` parentheses. -/
def atDepth (depth : Nat) : Nesting :=
  { quote := none, depth }

section
variable {c mark : Char}

/-- A quotation begins with its mark. -/
theorem step_of_isQuote (hmark : isQuote mark) (depth : Nat) :
    (atDepth depth).step mark = { quote := some mark, depth } := by
  simp [step, atDepth, hmark]

/-- A quotation ends with the mark that it began with. -/
theorem step_same_mark (mark : Char) (depth : Nat) :
    step { quote := some mark, depth } mark = atDepth depth := by
  simp [step, atDepth]

/-- Any other character belongs to the quotation. -/
theorem step_of_ne_mark (h : c ≠ mark) (depth : Nat) :
    step { quote := some mark, depth } c = { quote := some mark, depth } := by
  simp [step, h]

/-- Outside of quotes, a scan passes over what is neither a quotation mark nor a parenthesis. -/
theorem step_of_plain (hquote : isQuote c = false) (hopen : c ≠ '(') (hclose : c ≠ ')')
    (depth : Nat) :
    (atDepth depth).step c = atDepth depth := by
  simp [step, atDepth, hquote, hopen, hclose]

/-- A quotation mark closes no parenthesis. -/
theorem overcloses_of_isQuote (hmark : isQuote mark) (s : Nesting) : s.overcloses mark = false := by
  have hne : mark ≠ ')' := by
    rintro rfl
    cases hmark
  simp [overcloses, hne]

end

end Nesting

section
variable {α : Type} (scan : Nesting → List Char → α) (note : Char → α → α) (free : Bool)
  (hscan : ∀ (s : Nesting) (c : Char) (rest : List Char), s.overcloses c = false →
    (free = true ∨ (s.isOutside && c == ',') = false) →
    scan s (c :: rest) = note c (scan (s.step c) rest))
include hscan

/-- A scan goes past a quotation, noting its characters. -/
theorem scan_quotation {mark : Char} {inside : List Char} (hinside : mark ∉ inside) (depth : Nat)
    (rest : List Char) :
    scan { quote := some mark, depth } (inside ++ mark :: rest)
      = (inside ++ [mark]).foldr note (scan (.atDepth depth) rest) := by
  -- Inside a quotation nothing is closed too often, and no comma counts.
  have hquoted : ∀ (c : Char) (rest : List Char),
      scan { quote := some mark, depth } (c :: rest)
        = note c (scan (Nesting.step { quote := some mark, depth } c) rest) :=
    fun c rest => hscan _ c rest rfl (Or.inr rfl)
  induction inside with
  | nil =>
      rw [List.nil_append, hquoted, Nesting.step_same_mark]
      rfl
  | cons c inside ih =>
      rw [List.mem_cons, not_or] at hinside
      rw [List.cons_append, hquoted, Nesting.step_of_ne_mark (Ne.symm hinside.1), ih hinside.2]
      rfl

/-- A scan leaves a closed text as it entered it, and notes its characters. Where the text has
commas of its own, the scan must be inside parentheses, or must not mind commas. -/
theorem Closed.scan_append {commas : Bool} {text : List Char} (h : Closed commas text) (depth : Nat)
    (hcommas : commas = true → free = true ∨ 0 < depth) (rest : List Char) :
    scan (.atDepth depth) (text ++ rest) = text.foldr note (scan (.atDepth depth) rest) := by
  induction h generalizing depth rest with
  | nil => rfl
  | @plain commas c more hquote hopen hclose hcomma _ ih =>
      have hover : (Nesting.atDepth depth).overcloses c = false := by
        simp [Nesting.overcloses, hclose]
      have hcut : free = true ∨ ((Nesting.atDepth depth).isOutside && c == ',') = false := by
        by_cases heq : c = ','
        · rcases hcommas (hcomma heq) with hfree | hpos
          · exact Or.inl hfree
          · exact Or.inr (by simp [Nesting.isOutside, Nesting.atDepth, Nat.ne_of_gt hpos])
        · exact Or.inr (by simp [heq])
      rw [List.cons_append, hscan _ c _ hover hcut, Nesting.step_of_plain hquote hopen hclose,
        ih depth hcommas]
      rfl
  | @quoted commas mark inside more hmark hinside _ ih =>
      have hcut : ((Nesting.atDepth depth).isOutside && mark == ',') = false := by
        have hne : mark ≠ ',' := by
          rintro rfl
          cases hmark
        simp [hne]
      rw [List.cons_append, hscan _ mark _ (Nesting.overcloses_of_isQuote hmark _) (Or.inr hcut),
        Nesting.step_of_isQuote hmark, List.append_assoc, List.cons_append,
        scan_quotation scan note free hscan hinside, ih depth hcommas]
      simp [List.foldr_append]
  | @parentheses commas inside more _ _ ihinside ih =>
      have hover : (Nesting.atDepth (depth + 1)).overcloses ')' = false := by
        simp [Nesting.overcloses, Nesting.atDepth]
      -- Between the parentheses the scan is one deeper, so commas do not count there.
      have hdeeper := ihinside (depth + 1) (fun _ => Or.inr (Nat.succ_pos depth))
      rw [List.cons_append, hscan _ '(' _ (by simp [Nesting.overcloses]) (Or.inr (by simp)),
        List.append_assoc, List.cons_append]
      show note '(' (scan (.atDepth (depth + 1)) _) = _
      rw [hdeeper, hscan _ ')' _ hover (Or.inr (by simp))]
      show note '(' (inside.foldr note (note ')' (scan (.atDepth depth) _))) = _
      rw [ih depth hcommas]
      simp [List.foldr_append]

end

/-! ### Balance and commas -/

namespace Closed

variable {commas : Bool} {text : List Char}

/-- The check for balance passes over a closed text. -/
theorem balancedFrom_append (h : Closed commas text) (depth : Nat) (rest : List Char) :
    balancedFrom (.atDepth depth) (text ++ rest) = balancedFrom (.atDepth depth) rest := by
  have hscan : ∀ (s : Nesting) (c : Char) (rest : List Char), s.overcloses c = false →
      (true = true ∨ (s.isOutside && c == ',') = false) →
      balancedFrom s (c :: rest) = balancedFrom (s.step c) rest := by
    intro s c rest hover _
    simp [balancedFrom, hover]
  rw [h.scan_append balancedFrom (fun _ b => b) true hscan depth (fun _ => Or.inl rfl) rest]
  exact List.foldr_fixed text

/-- A closed text is balanced. -/
theorem balanced (h : Closed commas text) : balanced text := by
  have hwhole := h.balancedFrom_append 0 []
  rw [List.append_nil] at hwhole
  exact hwhole

end Closed

/-- There is always a piece, if only an empty one. -/
theorem cutAtCommas_ne_nil (s : Nesting) (text : List Char) : cutAtCommas s text ≠ [] := by
  cases text with
  | nil => simp [cutAtCommas]
  | cons c rest =>
      simp only [cutAtCommas]
      split
      · simp
      · split <;> simp

/-- Where nothing is cut, the character belongs to the first piece of the rest. -/
theorem cutAtCommas_cons {s : Nesting} {c : Char} (h : (s.isOutside && c == ',') = false)
    (rest : List Char) :
    cutAtCommas s (c :: rest) = (cutAtCommas (s.step c) rest).modifyHead (c :: ·) := by
  simp only [cutAtCommas, h, Bool.false_eq_true, if_false]
  split
  · next hnil => exact absurd hnil (cutAtCommas_ne_nil _ rest)
  · next piece pieces hpieces => rw [hpieces]; rfl

/-- A closed text without commas of its own belongs to the first piece of what follows. -/
theorem Closed.cutAtCommas_append {text : List Char} (h : Closed false text) (rest : List Char) :
    cutAtCommas {} (text ++ rest) = (cutAtCommas {} rest).modifyHead (text ++ ·) := by
  have hscan := h.scan_append cutAtCommas (fun c pieces => pieces.modifyHead (c :: ·)) false
    (fun s c rest _ hcut => cutAtCommas_cons (hcut.resolve_left Bool.false_ne_true) rest) 0
    (fun hfalse => absurd hfalse Bool.false_ne_true) rest
  refine Eq.trans hscan ?_
  -- Putting the characters in front one by one puts the text in front.
  obtain ⟨piece, pieces, hpieces⟩ := List.exists_cons_of_ne_nil (cutAtCommas_ne_nil {} rest)
  show text.foldr _ (cutAtCommas {} rest) = _
  rw [hpieces]
  clear h hscan
  induction text with
  | nil => rfl
  | cons c text ih => rw [List.foldr_cons, ih]; rfl

/-! ### The grammar can be decided -/

/-- Whether a scan from `s` on closes what it opens and no more, up to the end of the text. Without
`commas`, no comma may stand outside of quotes and parentheses. -/
def closedFrom (commas : Bool) (s : Nesting) : List Char → Bool
  | [] => s.isOutside
  | c :: rest =>
    !s.overcloses c && (commas || !(s.isOutside && c == ',')) && closedFrom commas (s.step c) rest

/-- What is left of a closed text inside `depth` parentheses: each of them is closed, with closed
texts in between. -/
def ClosedTail (commas : Bool) : Nat → List Char → Prop
  | 0, text => Closed commas text
  | depth + 1, text =>
    ∃ inside rest, text = inside ++ ')' :: rest ∧ Closed true inside ∧ ClosedTail commas depth rest

/-- A closed text may be put in front; inside parentheses, one with commas too. -/
theorem ClosedTail.append {commas : Bool} {depth : Nat} {text tail : List Char}
    (htext : Closed (commas || decide (0 < depth)) text) (h : ClosedTail commas depth tail) :
    ClosedTail commas depth (text ++ tail) := by
  cases depth with
  | zero =>
      have hsame : Closed commas text := by simpa using htext
      exact hsame.append h
  | succ depth =>
      obtain ⟨inside, rest, rfl, hinside, hrest⟩ := h
      exact ⟨text ++ inside, rest, by rw [List.append_assoc], htext.weaken.append hinside, hrest⟩

/-- A scan that closes what it opens passes over the tail of a closed text. Inside a quotation, it
first passes over the rest of the quotation. -/
theorem closedTail_of_closedFrom {commas : Bool} {text : List Char} :
    (∀ depth, closedFrom commas (.atDepth depth) text → ClosedTail commas depth text) ∧
      ∀ mark depth, closedFrom commas { quote := some mark, depth } text →
        ∃ inside rest, text = inside ++ mark :: rest ∧ mark ∉ inside ∧
          ClosedTail commas depth rest := by
  induction text with
  | nil =>
      constructor
      · intro depth h
        cases depth with
        | zero => exact .nil
        | succ depth => cases h
      · intro mark depth h
        cases h
  | cons c rest ih =>
      obtain ⟨ihplain, ihquoted⟩ := ih
      constructor
      · intro depth h
        simp only [closedFrom, Bool.and_eq_true, Bool.not_eq_true'] at h
        obtain ⟨⟨hover, hcomma⟩, hrest⟩ := h
        by_cases hquote : isQuote c
        · -- A quotation begins, and ends where the rest of it does.
          rw [Nesting.step_of_isQuote hquote] at hrest
          obtain ⟨inside, behind, rfl, hinside, hbehind⟩ := ihquoted c depth hrest
          have hpiece : Closed (commas || decide (0 < depth)) (c :: (inside ++ c :: [])) :=
            .quoted hquote hinside .nil
          have hwhole := hbehind.append hpiece
          simpa using hwhole
        rw [Bool.not_eq_true] at hquote
        by_cases hopen : c = '('
        · subst hopen
          -- One deeper, the rest begins with what is between the parentheses.
          obtain ⟨inside, behind, rfl, hinside, hbehind⟩ := ihplain (depth + 1) hrest
          have hpiece : Closed (commas || decide (0 < depth)) ('(' :: (inside ++ ')' :: [])) :=
            .parentheses hinside .nil
          have hwhole := hbehind.append hpiece
          simpa using hwhole
        by_cases hclose : c = ')'
        · subst hclose
          cases depth with
          | zero => cases hover
          | succ depth => exact ⟨[], rest, rfl, .nil, ihplain depth hrest⟩
        rw [Nesting.step_of_plain hquote hopen hclose] at hrest
        have hpiece : Closed (commas || decide (0 < depth)) [c] := by
          refine .plain hquote hopen hclose ?_ .nil
          rintro rfl
          cases depth with
          | zero => simpa [Nesting.isOutside, Nesting.atDepth] using hcomma
          | succ depth => simp
        exact (ihplain depth hrest).append hpiece
      · intro mark depth h
        simp only [closedFrom, Bool.and_eq_true] at h
        by_cases hmark : c = mark
        · subst hmark
          rw [Nesting.step_same_mark] at h
          exact ⟨[], rest, rfl, by simp, ihplain depth h.2⟩
        · rw [Nesting.step_of_ne_mark hmark] at h
          obtain ⟨inside, behind, rfl, hinside, hbehind⟩ := ihquoted mark depth h.2
          exact ⟨c :: inside, behind, rfl, by simp [Ne.symm hmark, hinside], hbehind⟩

/-- The scan passes over a closed text. -/
theorem Closed.closedFrom_append {commas : Bool} {text : List Char} (h : Closed commas text)
    (depth : Nat) (rest : List Char) :
    closedFrom commas (.atDepth depth) (text ++ rest)
      = closedFrom commas (.atDepth depth) rest := by
  have hscan : ∀ (s : Nesting) (c : Char) (rest : List Char), s.overcloses c = false →
      (commas = true ∨ (s.isOutside && c == ',') = false) →
      closedFrom commas s (c :: rest) = closedFrom commas (s.step c) rest := by
    intro s c rest hover hcomma
    rcases hcomma with hfree | hcut
    · simp [closedFrom, hover, hfree]
    · simp [closedFrom, hover, hcut]
  rw [h.scan_append (closedFrom commas) (fun _ b => b) commas hscan depth Or.inl rest]
  exact List.foldr_fixed text

/-- A text is closed if and only if a scan of it closes what it opens and no more. -/
theorem closed_iff {commas : Bool} {text : List Char} :
    Closed commas text ↔ closedFrom commas {} text := by
  constructor
  · intro h
    have hwhole := h.closedFrom_append 0 []
    rw [List.append_nil] at hwhole
    exact hwhole
  · exact closedTail_of_closedFrom.1 0

instance (commas : Bool) (text : List Char) : Decidable (Closed commas text) :=
  decidable_of_iff _ closed_iff.symm

end FormulaTable
