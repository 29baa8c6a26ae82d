/-
Small texts that messages are made of.
-/

namespace TensorGraph.Text

/-- a list in brackets, its entries set apart by commas -/
def bracketed (entries : List String) : String := "[" ++ String.intercalate ", " entries ++ "]"

/-- a list of sizes, as messages show it -/
def sizes (l : List Nat) : String := bracketed (l.map toString)

/-- a list of signed numbers, as messages show it -/
def integers (l : List Int) : String := bracketed (l.map toString)

end TensorGraph.Text
