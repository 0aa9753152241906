import FormulaTable.Json.Basic

/-!
# `FormulaTable.Proofs.Json.RoundTrip`: tokens are read back as they were written

Tokens are written one after the other with nothing between them. They are read back one by one,
because the reader knows where each ends without looking at the next (`Token.SelfDelimiting`): a
mark is one character, and a string ends at its closing quotation mark, which is never written
inside it as it is. A number has no such end, but none is written for a table.

* `readString_text`: every text is read back from the string that is written for it, whatever
  characters are in it.
* `Token.Reads`: a text is read as certain tokens wherever it stands. Such texts may be written one
  after the other, with separators between them, so `Token.Reads.join` follows for self-delimiting
  tokens.
-/

set_option autoImplicit false

namespace FormulaTable.Json

/-! ## Strings -/

/-- A digit to base sixteen is read back. -/
theorem hexValue?_hexDigit : ∀ digit < 16, hexValue? (hexDigit digit) = some digit := by
  decide

/-- Every short escape that is written stands for its character when it is read. -/
theorem shortEscapes_of_written : ∀ escape ∈ writtenEscapes,
    escape.2 ≠ 'u' ∧ shortEscapes.lookup escape.2 = some escape.1 := by
  decide

/-- An escape by code is read back as the piece with the code. -/
theorem readString_codeEscape {code : Nat} (h : code < 0x10000) (done : List Piece)
    (rest : List Char) :
    readString .plain done (codeEscape code ++ rest)
      = readString .plain (.ofCode code :: done) rest := by
  have hdigit : ∀ n, hexValue? (hexDigit (n % 16)) = some (n % 16) := fun n =>
    hexValue?_hexDigit _ (Nat.mod_lt n (by decide))
  -- The four digits make up the code again.
  have hcode : (((0 * 16 + code / 0x1000 % 16) * 16 + code / 0x100 % 16) * 16
      + code / 0x10 % 16) * 16 + code % 16 = code := by omega
  have hbackslash : ¬ backslash = quoteMark := by decide
  rw [codeEscape, List.cons_append, readString, if_neg hbackslash, if_pos rfl, List.cons_append,
    readString, if_pos rfl]
  simp only [List.cons_append, List.nil_append, readString, hdigit, hcode]
  rfl

/-- A character is read back from what is written for it. -/
theorem readString_char (c : Char) (done : List Piece) (rest : List Char) :
    readString .plain done (Piece.chars (.char c) ++ rest)
      = readString .plain (.char c :: done) rest := by
  rw [Piece.chars]
  cases hescape : writtenEscapes.lookup c with
  | some short =>
      have hmem : (c, short) ∈ writtenEscapes := by
        obtain ⟨before, after, hsplit, -⟩ := List.lookup_eq_some_iff.mp hescape
        rw [hsplit]
        simp
      obtain ⟨hshort, hread⟩ := shortEscapes_of_written (c, short) hmem
      have hbackslash : ¬ backslash = quoteMark := by decide
      -- One character after the backslash, and it is none that begins an escape by code.
      show readString .plain done (backslash :: short :: rest) = _
      rw [readString, if_neg hbackslash, if_pos rfl, readString, if_neg hshort, hread]
  | none =>
      have hother : ∀ escape ∈ writtenEscapes, c ≠ escape.1 := by
        intro escape hmem
        simpa using List.lookup_eq_none_iff.mp hescape escape hmem
      have hquote : c ≠ quoteMark := hother (quoteMark, quoteMark) (by decide)
      have hbackslash : c ≠ backslash := hother (backslash, backslash) (by decide)
      by_cases hcontrol : c.toNat < 0x20
      · -- A control character is far from the surrogates, so its code is the character.
        have hcode : Piece.ofCode c.toNat = .char c := by
          have hlow : ¬ (0xD800 ≤ c.toNat ∧ c.toNat ≤ 0xDFFF) := by omega
          simp [Piece.ofCode, hlow]
        have hshort : c.toNat < 0x10000 := by omega
        simp only [if_pos hcontrol]
        rw [readString_codeEscape hshort, hcode]
      · -- Every other character is written as it is, and nothing ends or begins with it.
        simp only [if_neg hcontrol]
        rw [List.cons_append, List.nil_append, readString, if_neg hquote, if_neg hbackslash,
          if_neg hcontrol]

/-- A string is read back up to its closing quotation mark. -/
theorem readString_text (text : List Char) (done : List Piece) (rest : List Char) :
    readString .plain done ((text.map Piece.char).flatMap Piece.chars ++ quoteMark :: rest)
      = some (done.reverse ++ text.map .char, rest) := by
  induction text generalizing done with
  | nil =>
      show readString .plain done (quoteMark :: rest) = _
      rw [readString, if_pos rfl, List.map_nil, List.append_nil]
  | cons c text ih =>
      rw [List.map_cons, List.flatMap_cons, List.append_assoc, readString_char, ih]
      simp

/-- A string of characters is the text that they make. -/
theorem textOf?_map_char (text : List Char) : textOf? (text.map .char) = some text := by
  induction text with
  | nil => rfl
  | cons c text ih => rw [List.map_cons, textOf?, ih]; rfl

/-! ## Tokens -/

namespace Token

/-- The reader finds the end of a token whatever is written behind it. -/
def SelfDelimiting (token : Token) : Prop :=
  ∃ c more, token.chars = c :: more ∧ isSeparator c = false ∧
    ∀ rest, Token.read? c (more ++ rest) = some (token, rest)

/-- The tokens that stand around and between values. -/
def marks : List Token :=
  [openBrace, closeBrace, openBracket, closeBracket, comma, colon]

/-- A mark is a single character. -/
theorem selfDelimiting_of_mem_marks : ∀ token ∈ marks, token.SelfDelimiting := by
  simp only [marks, List.forall_mem_cons]
  refine ⟨?_, ?_, ?_, ?_, ?_, ?_, by simp⟩
  all_goals exact ⟨_, [], rfl, by decide, fun _ => rfl⟩

/-- A string ends where its closing quotation mark stands. -/
theorem selfDelimiting_ofText (text : String) : (ofText text).SelfDelimiting := by
  refine ⟨quoteMark, (text.toList.map Piece.char).flatMap Piece.chars ++ [quoteMark], rfl,
    by decide, fun rest => ?_⟩
  show Option.map _ (readString .plain [] _) = _
  rw [List.append_assoc, List.singleton_append, readString_text]
  rfl

/-- The text is read as these tokens, whatever has been read before it and whatever comes behind
it. -/
def Reads (text : List Char) (tokens : List Token) : Prop :=
  ∀ done rest, readAll done (text ++ rest) = readAll (tokens.reverse ++ done) rest

namespace Reads

variable {text text' : List Char} {tokens tokens' : List Token}

/-- Texts one after the other are read as their tokens, one after the other. -/
theorem append (h : Reads text tokens) (h' : Reads text' tokens') :
    Reads (text ++ text') (tokens ++ tokens') := by
  intro done rest
  rw [List.append_assoc, h, h', List.reverse_append, List.append_assoc]

/-- What separates tokens is passed over. -/
theorem separators (h : ∀ c ∈ text, isSeparator c) : Reads text [] := by
  induction text with
  | nil => exact fun _ _ => rfl
  | cons c text ih =>
      intro done rest
      rw [List.cons_append, readAll, if_pos (h c List.mem_cons_self)]
      exact ih (fun d hd => h d (List.mem_cons_of_mem c hd)) done rest

/-- A token that shows its own end is read back. -/
theorem token {token : Token} (h : token.SelfDelimiting) : Reads token.chars [token] := by
  obtain ⟨c, more, hchars, hseparator, hread⟩ := h
  intro done rest
  rw [hchars, List.cons_append, readAll, hseparator]
  simp only [Bool.false_eq_true, if_false]
  split
  · next hnone => simp [hread] at hnone
  · next hsome =>
      rw [hread, Option.some.injEq, Prod.mk.injEq] at hsome
      obtain ⟨rfl, rfl⟩ := hsome
      rfl

/-- Self-delimiting tokens are read back one after the other. -/
theorem join (h : ∀ token ∈ tokens, token.SelfDelimiting) : Reads (join tokens).toList tokens := by
  rw [Token.join, String.toList_ofList]
  induction tokens with
  | nil => exact fun _ _ => rfl
  | cons first tokens ih =>
      rw [List.flatMap_cons]
      exact (token (h first List.mem_cons_self)).append
        (ih fun other hother => h other (List.mem_cons_of_mem first hother))

/-- A whole text consists of the tokens that it is read as. -/
theorem ofChars? (h : Reads text tokens) : Token.ofChars? text = some tokens := by
  have hwhole := h [] []
  rw [List.append_nil, List.append_nil] at hwhole
  rw [Token.ofChars?, hwhole, readAll, List.reverse_reverse]

end Reads

end Token
end FormulaTable.Json
