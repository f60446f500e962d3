import GridChess.RuleSet.Flat
import GridChess.RuleSet.Hyper
import GridChess.Text.Octets

/-!
# Registries

A registry finds rule sets by name. Registering a name again replaces its rule set.
-/

set_option autoImplicit false

namespace GridChess

structure Registry where
  /-- Each name at most once. -/
  entries : List (String × RuleSet)

namespace Registry

def empty : Registry := ⟨[]⟩

def register (registry : Registry) (name : String) (rules : RuleSet) : Registry :=
  ⟨(name, rules) :: registry.entries.filter (·.1 ≠ name)⟩

def get? (registry : Registry) (name : String) : Option RuleSet :=
  (registry.entries.find? (·.1 = name)).map (·.2)

def get (registry : Registry) (name : String) : Except Error RuleSet :=
  match registry.get? name with
  | some rules => .ok rules
  | none => .error (.unknownRuleSet name)

def contains (registry : Registry) (name : String) : Bool := registry.entries.any (·.1 = name)

/-- The order of the octets that texts are stored as. -/
def inOrder (a b : String) : Bool := !decide (Text.octets b < Text.octets a)

/-- The registered names in ascending order. -/
def names (registry : Registry) : List String := (registry.entries.map (·.1)).mergeSort inOrder

/-- The registry of the two boards. -/
def default : Registry :=
  (empty.register RuleSet.Flat.name RuleSet.flat).register RuleSet.Hyper.name RuleSet.hyper

end Registry

end GridChess
