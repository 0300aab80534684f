import ScriptHost.Text.Units

/-!
# Search in texts

* `Units.find?`, `Units.findLast?`: the first and the last place where some units stand;
* `Units.allPlaces`: all such places that do not overlap;
* `Units.splitBy`: the parts between separators.
-/

namespace ScriptHost

namespace Units

/-- The first place from `start` on where some units stand. -/
def findFrom (part : List UInt16) : List UInt16 → Nat → Option Nat
  | [], i => if part.isEmpty then some i else none
  | u :: rest, i => if part.isPrefixOf (u :: rest) then some i else findFrom part rest (i + 1)

def find? (part whole : List UInt16) (start : Nat) : Option Nat :=
  if start > whole.length then none else findFrom part (whole.drop start) start

/-- The last place up to `bound` where some units stand. -/
def findLast? (part whole : List UInt16) : Nat → Option Nat
  | 0 => if part.isPrefixOf whole then some 0 else none
  | bound + 1 =>
    if part.isPrefixOf (whole.drop (bound + 1)) then some (bound + 1)
    else findLast? part whole bound

/-- The parts between the places where a separator stands, which is not empty. -/
def splitBy (separator : List UInt16) : Nat → List UInt16 → List UInt16 → List (List UInt16)
  | 0, part, rest => [part.reverse ++ rest]
  | _, part, [] => [part.reverse]
  | fuel + 1, part, u :: rest =>
    if separator.isPrefixOf (u :: rest) then
      part.reverse :: splitBy separator fuel [] ((u :: rest).drop separator.length)
    else splitBy separator fuel (u :: part) rest

/-- The places where some units stand, none of which overlap, from `start` on. -/
def allPlaces (part whole : List UInt16) : Nat → Nat → List Nat
  | 0, _ => []
  | fuel + 1, start =>
    match find? part whole start with
    | some i => i :: allPlaces part whole fuel (i + max 1 part.length)
    | none => []

/-- Whether some units stand at a place. -/
def standsAt (part whole : List UInt16) (i : Nat) : Bool := part.isPrefixOf (whole.drop i)

end Units

end ScriptHost
