import QueryShield.Yaml.Token

namespace QueryShield.Yaml

inductive Node where
  | scalar (style : Style) (tag : Option String) (text : String)
  | sequence (items : List Node)
  | mapping (entries : List (Node × Node))
  | alias (number : Nat)
  deriving Inhabited, Repr

def Node.empty : Node := .scalar .plain none ""

/-- Which nodes aliases stand for. A name has the number of names there were before it, and a number
is that of the last node that took it, be it under this name or another. -/
structure Names where
  numbers : List (String × Nat) := []
  bearers : List (Nat × Nat) := []
  count : Nat := 0

def Names.declare (names : Names) (name : String) : Names :=
  let number := names.numbers.length
  { numbers := (name, number) :: names.numbers.filter (·.1 != name)
    bearers := (number, names.count) :: names.bearers
    count := names.count + 1 }

end QueryShield.Yaml
