/-!
# Fresh names

New rules take their names from a supply, one after another; a supply never gives a name twice.
-/

namespace Redirects

/-- A supply of names. -/
structure NameSupply where
  /-- The number of names given so far. -/
  given : Nat := 0
deriving DecidableEq, Repr

namespace NameSupply

/-- The name with a number. -/
def name (number : Nat) : String := "#" ++ toString number

/-- The next name and the supply without it. -/
def next (supply : NameSupply) : String × NameSupply :=
  (name (supply.given + 1), ⟨supply.given + 1⟩)

end NameSupply

end Redirects
