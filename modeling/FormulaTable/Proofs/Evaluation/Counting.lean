import FormulaTable.Proofs.Evaluation.Ask
import FormulaTable.Proofs.Evaluation.PathIndependence
import FormulaTable.Proofs.Evaluation.Undrawn
import FormulaTable.Proofs.Formula.Argument
import FormulaTable.Proofs.Number.Count

/-!
# `FormulaTable.Proofs.Evaluation.Counting`: what is counted one by one is counted in all

`UNIQUE` lists the texts that occur in an argument, `COUNTIF` counts how often one of them does, and
`COUNTA` how many there are. `Context.counts_add_up` ties them together: the counts of the texts in
the list of `UNIQUE` add up to the number of `COUNTA`. Each of the three reads the argument again,
so this is about arguments whose texts are undrawn; `Context.counts_differ_if_drawn` has another
one.

The three functions leave out empty texts in different ways, and find a text again in different
ways. So the list of `UNIQUE` is first described by what is in it and in which order
(`FirstOccurrences`), an invariant of the loop that makes it. The sum then depends on that
description only (`FirstOccurrences.sum_count`).
-/

set_option autoImplicit false

namespace FormulaTable

open Meaning

/-! ## First occurrences -/

/-- The texts of a list that are not empty, each once, in the order in which they first occur. -/
structure FirstOccurrences (texts found : List String) : Prop where
  mem_iff : ∀ s, s ∈ found ↔ s ∈ texts ∧ s ≠ ""
  ordered : found.Pairwise fun s t => texts.idxOf s < texts.idxOf t

namespace FirstOccurrences

variable {texts found : List String}

/-- Where there are no texts, none is found. -/
theorem nil : FirstOccurrences [] [] where
  mem_iff := by simp
  ordered := .nil

/-- No text has two first occurrences. -/
theorem nodup (h : FirstOccurrences texts found) : found.Nodup := by
  refine h.ordered.imp ?_
  rintro s t hlt rfl
  exact Nat.lt_irrefl _ hlt

/-- What occurs later does not change the order of what has occurred. -/
theorem ordered_append (h : FirstOccurrences texts found) (more : List String) :
    found.Pairwise fun s t => (texts ++ more).idxOf s < (texts ++ more).idxOf t := by
  refine h.ordered.imp_of_mem fun {s t} hs ht hlt => ?_
  rw [List.idxOf_append_of_mem ((h.mem_iff s).mp hs).1,
    List.idxOf_append_of_mem ((h.mem_iff t).mp ht).1]
  exact hlt

/-- Behind a text that is empty or has occurred, the first occurrences are the same. -/
theorem concat_old (h : FirstOccurrences texts found) {s : String} (hs : s = "" ∨ s ∈ found) :
    FirstOccurrences (texts ++ [s]) found where
  mem_iff := by
    intro t
    rw [h.mem_iff, List.mem_append, List.mem_singleton]
    constructor
    · exact fun ⟨ht, hne⟩ => ⟨Or.inl ht, hne⟩
    · rintro ⟨ht | rfl, hne⟩
      · exact ⟨ht, hne⟩
      · exact (h.mem_iff t).mp (hs.resolve_left hne)
  ordered := h.ordered_append [s]

/-- A text that is not empty and has not occurred is a new one. -/
theorem concat_new (h : FirstOccurrences texts found) {s : String} (hne : s ≠ "") (hs : s ∉ found) :
    FirstOccurrences (texts ++ [s]) (found ++ [s]) where
  mem_iff := by
    intro t
    rw [List.mem_append, List.mem_append, List.mem_singleton, h.mem_iff]
    constructor
    · rintro (⟨ht, hne'⟩ | rfl)
      · exact ⟨Or.inl ht, hne'⟩
      · exact ⟨Or.inr rfl, hne⟩
    · rintro ⟨ht | rfl, hne'⟩
      · exact Or.inl ⟨ht, hne'⟩
      · exact Or.inr rfl
  ordered := by
    have hnew : s ∉ texts := fun hmem => hs ((h.mem_iff s).mpr ⟨hmem, hne⟩)
    refine List.pairwise_append.mpr ⟨h.ordered_append [s], List.pairwise_singleton _ _, ?_⟩
    -- The new text comes behind all that have occurred.
    intro t ht u hu
    obtain rfl := List.mem_singleton.mp hu
    have hmem : t ∈ texts := ((h.mem_iff t).mp ht).1
    rw [List.idxOf_append_of_mem hmem, List.idxOf_append_of_notMem hnew, List.idxOf_cons_self]
    exact List.idxOf_lt_length_of_mem hmem

/-- The first occurrences are counted as often as there are texts that are not empty. -/
theorem sum_count (h : FirstOccurrences texts found) :
    (found.map fun s => texts.count s).sum = filled texts := by
  have hperm : found.Perm (texts.dedup.filter fun s => !s.isEmpty) := by
    rw [List.perm_ext_iff_of_nodup h.nodup (List.nodup_dedup texts |>.filter _)]
    intro s
    rw [h.mem_iff, List.mem_filter, List.mem_dedup]
    simp
  rw [(hperm.map _).sum_eq, List.sum_map_count_dedup_filter_eq_countP]
  rfl

end FirstOccurrences

namespace Meaning

/-- One more text is added to those found, unless it is among them. -/
theorem distinct_concat (texts : List String) (s : String) :
    distinct (texts ++ [s])
      = if s ∈ distinct texts then distinct texts else distinct texts ++ [s] := by
  rw [distinct, List.foldl_append]
  simp [distinct]

/-- The distinct texts that are not empty are the first occurrences. -/
theorem firstOccurrences_distinct (texts : List String) :
    FirstOccurrences texts (distinct (texts.filter fun s => !s.isEmpty)) := by
  -- The loop goes through the texts from the front, so the last text is the one to take off.
  induction texts using List.reverseRecOn with
  | nil => exact .nil
  | append_singleton texts s ih =>
      by_cases hempty : s = ""
      · subst hempty
        have hleft : (texts ++ [""]).filter (fun s => !s.isEmpty)
            = texts.filter fun s => !s.isEmpty := by
          simp
        rw [hleft]
        exact ih.concat_old (Or.inl rfl)
      · have hadded : (texts ++ [s]).filter (fun s => !s.isEmpty)
            = (texts.filter fun s => !s.isEmpty) ++ [s] := by
          simp [hempty]
        rw [hadded, distinct_concat]
        split
        · next hmem => exact ih.concat_old (Or.inr hmem)
        · next hmem => exact ih.concat_new hempty hmem

end Meaning

/-! ## The functions that count -/

namespace Context

variable {ctx : Context}

/-- An argument in double quotes is the text between them, whatever that is. -/
theorem argumentTexts_of_quotes (ctx : Context) (s : String) :
    ctx.argumentTexts ("\"" ++ s ++ "\"") = .ok [s] := by
  have htext : ("\"" ++ s ++ "\"").toList = '\x22' :: (s.toList ++ ['\x22']) := by
    simp [String.toList_append]
  have hquoted : unquote? ("\"" ++ s ++ "\"").toList = some s.toList := by
    rw [htext]
    exact unquote?_of_marks (by decide) s.toList
  have hform : Arg.ofString ("\"" ++ s ++ "\"") = .plain s := by
    rw [Arg.ofString, (Arg.form_ofChars _).unique (.quoted hquoted), String.ofList_toList]
  rw [argumentTexts, hform, Arg.texts]

section
variable {R : String} {texts : List String} (htexts : ctx.argumentTexts R = .ok texts)
include htexts

/-- A question about the texts of the only argument is answered by what that gives. -/
theorem run_texts_all {α : Type} (next : List String → Query α) :
    (Query.texts .all next).run (ctx.readings [R]) = (next texts).run (ctx.readings [R]) := by
  have hgather : gather (fun r => r.texts ()) (Source.all.pick (ctx.readings [R])) = .ok texts := by
    rw [← htexts, ← ask_allTexts_singleton, ask_allTexts_eq]
    rfl
  rw [Query.run, hgather]
  rfl

/-- `UNIQUE` joins the distinct texts that are not empty. -/
theorem call_unique : ctx.call .unique [R]
    = .ok (.text (", ".intercalate (distinct (texts.filter fun s => !s.isEmpty)))) :=
  run_texts_all htexts _

/-- `COUNTA` counts the texts that are not empty. -/
theorem call_countFilled :
    ctx.call .countFilled [R] = .ok (.number (Float.ofNat (filled texts))) :=
  run_texts_all htexts _

/-- A text is counted wherever it occurs as it is. -/
theorem call_countIf (s : String) :
    ctx.call .countIf [R, "\"" ++ s ++ "\""] = .ok (.number (Float.ofNat (texts.count s))) := by
  have hfirst : [R, "\"" ++ s ++ "\""][0]? = some R := rfl
  have hsecond : [R, "\"" ++ s ++ "\""][1]? = some ("\"" ++ s ++ "\"") := rfl
  have hthere : (ctx.past 0).argumentTexts R = .ok texts := htexts
  refine (run_texts_only hfirst _).trans ?_
  rw [hthere]
  refine (run_texts_only hsecond _).trans ?_
  rw [argumentTexts_of_quotes]
  rfl

end

/-- What is counted text by text is counted in all, whatever each call draws, if what is drawn makes
no difference to the texts of the argument. `UNIQUE` lists the texts that are not empty, each once
and in the order in which they first occur. `COUNTIF` counts how often any text occurs, if it is put
in double quotes. The counts of the listed texts add up to what `COUNTA` counts; and so they do as
doubles, as long as there are fewer than `2 ^ 53` texts that are not empty, but for the sign of a
zero if there is none. -/
theorem counts_add_up {ctx : Context} {R : String} {texts : List String}
    (hdrawn : ctx.Undrawn fun ctx => ctx.ask [R] .allTexts)
    (htexts : ctx.ask [R] .allTexts = .ok texts) :
    ∃ found, FirstOccurrences texts found ∧
      (∀ draws, (ctx.withDraws draws).call .unique [R]
        = .ok (.text (", ".intercalate found))) ∧
      (∀ draws s, (ctx.withDraws draws).call .countIf [R, "\"" ++ s ++ "\""]
        = .ok (.number (Float.ofNat (texts.count s)))) ∧
      (∀ draws, (ctx.withDraws draws).call .countFilled [R]
        = .ok (.number (Float.ofNat (found.map fun s => texts.count s).sum))) ∧
      ((found.map fun s => texts.count s).sum < 2 ^ 53 →
        SameNumber (total (found.map fun s => Float.ofNat (texts.count s)))
          (Float.ofNat (found.map fun s => texts.count s).sum)) := by
  have hargument : ∀ draws, (ctx.withDraws draws).argumentTexts R = .ok texts := by
    intro draws
    rw [← ask_allTexts_singleton, ← htexts]
    exact hdrawn draws
  -- From here on only the description of the list counts, and not the loop that made it.
  have hfound := firstOccurrences_distinct texts
  refine ⟨distinct (texts.filter fun s => !s.isEmpty), hfound,
    fun draws => call_unique (hargument draws), fun draws => call_countIf (hargument draws),
    fun draws => ?_, ?_⟩
  · rw [hfound.sum_count]
    exact call_countFilled (hargument draws)
  · intro hlt
    have htotal := sameNumber_total_ofNat hlt
    rw [List.map_map] at htotal
    exact htotal

/-- Texts with a quotation mark and with a comma in them, an empty one, and the mark of a division
by zero, which is the value of one cell and the text of another. -/
theorem counts_add_up_of_marks :
    let ctx := (Grid.ofRows [["x\"y", "a, b", ""], ["=A1/0", "x\"y", "#DIV/0!"]]).context .morning
    let texts := ["x\"y", "a, b", "", "#DIV/0!", "x\"y", "#DIV/0!"]
    ctx.ask ["A1:C2"] .allTexts = .ok texts ∧
      (ctx.Undrawn fun ctx => ctx.ask ["A1:C2"] .allTexts) ∧
      (∀ draws, (ctx.withDraws draws).call .countIf ["A1:C2", "\"x\"y\""] = .ok (.number 2)) ∧
      (∀ draws, (ctx.withDraws draws).call .countIf ["A1:C2", "\"#DIV/0!\""] = .ok (.number 2)) ∧
      (∀ draws, (ctx.withDraws draws).call .countFilled ["A1:C2"] = .ok (.number 5)) ∧
      ∃ found, FirstOccurrences texts found ∧
        (∀ draws, (ctx.withDraws draws).call .unique ["A1:C2"]
          = .ok (.text (", ".intercalate found))) ∧
        SameNumber (total (found.map fun s => Float.ofNat (texts.count s))) 5 := by
  intro ctx texts
  have htexts : ctx.ask ["A1:C2"] .allTexts = .ok texts := eq_ok_of_toOption (by decide +kernel)
  have hgrid : ctx.grid.DrawsNothing := Grid.drawsNothing_of_coordinates (by decide +kernel)
  have hdrawn : ctx.Undrawn fun ctx => ctx.ask ["A1:C2"] .allTexts :=
    undrawn_ask hgrid (by decide +kernel) _
  obtain ⟨found, hfound, hunique, hcount, hfilled, htotal⟩ := counts_add_up hdrawn htexts
  -- The three texts that are found stand there five times; the empty text is not among them.
  have hsum : (found.map fun s => texts.count s).sum = 5 := hfound.sum_count
  rw [hsum] at hfilled htotal
  exact ⟨htexts, hdrawn, fun draws => hcount draws "x\"y", fun draws => hcount draws "#DIV/0!",
    hfilled, found, hfound, hunique, htotal (by decide)⟩

/-- If a die is cast whenever the argument is read, `COUNTIF` may find nothing of what `COUNTA`
counts, and `UNIQUE` may list what was not among the texts. -/
theorem counts_differ_if_drawn :
    let ctx := (Grid.ofRows [["=RANDBETWEEN(1,6)"]]).context .morning
    let other := ctx.withDraws (.constant 3)
    (ctx.withDraws (.constant 0)).ask ["A1"] .allTexts = .ok ["1"] ∧
      (ctx.withDraws (.constant 0)).call .countFilled ["A1"] = .ok (.number 1) ∧
      other.call .unique ["A1"] = .ok (.text "4") ∧
      other.call .countIf ["A1", "\"1\""] = .ok (.number 0) ∧ ((0 : Float) == 1) = false := by
  intro ctx other
  refine ⟨?_, ?_, ?_, ?_, by decide +kernel⟩
  · exact eq_ok_of_toOption (by decide +kernel)
  · exact eq_ok_of_toOption (by decide +kernel)
  · exact eq_ok_of_toOption (by decide +kernel)
  · exact eq_ok_of_toOption (by decide +kernel)

end Context
end FormulaTable
