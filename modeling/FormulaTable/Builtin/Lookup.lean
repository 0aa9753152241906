import FormulaTable.Builtin.Catalogue
import FormulaTable.Text.Case

/-!
# `FormulaTable.Builtin.Lookup`: finding a function by its name

Names are compared in capitals, so letters of either case will do, and so will a character whose
capital form is a letter of the name.
-/

set_option autoImplicit false

namespace FormulaTable.Builtin

/-- The function with the given name, if there is one. -/
def ofName? (name : List Char) : Option Builtin :=
  let capitals := String.ofList (Text.upper name)
  all.find? fun f => f.name == capitals

end FormulaTable.Builtin
