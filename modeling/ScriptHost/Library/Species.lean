import ScriptHost.Engine.Writing

/-!
# Objects like others

Many methods give a new object of the class of their receiver.  The class may name another one, its
species, whose objects the methods make.

* `speciesOf`: the constructor that an object chooses for objects like it;
* `Gathering`: the items of a new list, which is an array unless an array chooses another class.
-/

namespace ScriptHost

/-- The constructor that an object chooses for objects like it; none leaves it to the method. -/
def speciesOf (v : Value) : Script (Option Value) := do
  match ← getProperty v "constructor" with
  | .undefined => return none
  | .object c =>
    let s ← getOf c (.known .species)
    if s.isNullish then return none
    else if ← isConstructor s then return some s
    else refuseConstruction
  | _ => throwType "not an object"

/-- The constructor for lists like a value: an array chooses it, and anything else leaves it to the
method.  Whether objects can be made with it shows when it is used. -/
def listSpecies (v : Value) : Script (Option Value) := do
  if !(← isArray v) then return none
  else
    match ← getProperty v "constructor" with
    | .undefined => return none
    | .object c =>
      match ← getOf c (.known .species) with
      | .undefined | .null => return none
      | s => return some s
    | c => return some c

/-- Whether a value is the constructor of arrays that is there from the start. -/
def isArrayConstructor (v : Value) : Script Bool := do
  match v with
  | .object r =>
    match (← readObject r).callable? with
    | some (.builtin (.construct .array)) => return true
    | _ => return false
  | _ => return false

/-! ### Gathering items -/

/-- The items of a new list: those of an array come to it in the end, and those of another object
at once. -/
structure Gathering where
  items : Array (Option Value) := #[]
  target : Option Ref := none

namespace Gathering

/-- A list that a constructor makes, which is told some arguments; none makes an array of so many
items. -/
def of (constructor : Option Value) (args : List Value) (length : Nat) : Script Gathering := do
  match constructor with
  | none =>
    let _ ← lengthOfInt length
    return {}
  | some c =>
    if ← isArrayConstructor c then
      let _ ← lengthOfInt length
      return {}
    else return { target := some (← requireObject (← constructNew c args) "not an object") }

/-- A list like a value, for so many items. -/
def like (v : Value) (length : Nat) : Script Gathering := do
  of (← listSpecies v) [.ofNat length] length

/-- Adds an item, or leaves a place free. -/
def push (g : Gathering) (v : Option Value) : Script Gathering := do
  match g.target, v with
  | some r, some v => createProperty r (.item g.items.size) v
  | _, _ => pure ()
  return { g with items := g.items.push v }

/-- The new list. -/
def finish (g : Gathering) : Script Value :=
  match g.target with
  | some r => return .object r
  | none => newArray g.items

/-- The new list, which is told its length. -/
def finishCounted (g : Gathering) : Script Value := do
  match g.target with
  | some r => setProperty (.object r) "length" (.ofNat g.items.size)
  | none => pure ()
  g.finish

end Gathering

end ScriptHost
