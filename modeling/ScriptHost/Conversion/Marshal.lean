import ScriptHost.Conversion.Dump
import ScriptHost.Capability.Argument

/-!
# From documents to values

* `Double.ofDocument?`: the number of a document;
* `marshal`: a document as a new value;
* `marshalResult`: the result of a capability as a value.

Fields are assigned, so a field `__proto__` sets the prototype of its object.
-/

namespace ScriptHost

mutual

/-- A document as a new value, with so many levels left. -/
def marshalAt (levels : Nat) : Json → Conversion Value
  | .null => level levels (return .null)
  | .bool b => level levels (return .bool b)
  | .int n => level levels (return .number (.ofInt n))
  | .double d => level levels (return .number d)
  | .str s => level levels (return .ofString s)
  | .arr items => level levels do
    let vs ← marshalItems (levels - 1) items
    Conversion.ofScript (newList vs)
  | .obj fields => level levels do
    let r ← Conversion.ofScript newObject
    marshalFields (levels - 1) r fields
    return .object r
where
  /-- Nothing is left below the last level. -/
  level (levels : Nat) (c : Conversion Value) : Conversion Value :=
    if levels = 0 then throw .tooDeep else c

def marshalItems (levels : Nat) : List Json → Conversion (List Value)
  | [] => return []
  | j :: rest => do
    let v ← marshalAt levels j
    return v :: (← marshalItems levels rest)

def marshalFields (levels : Nat) (r : Ref) : List (String × Json) → Conversion Unit
  | [] => return
  | (k, j) :: rest => do
    let v ← marshalAt levels j
    Conversion.ofScript (setProperty (.object r) k v)
    marshalFields levels r rest

end

/-- A document as a new value. -/
def marshal (j : Json) : Conversion Value := marshalAt (maxDepth + 1) j

/-- The result of a capability as a value, as its type asks. -/
def marshalResult (type : ResultType) (j : Json) : Conversion Value :=
  match type with
  | .void => return .undefined
  | .string =>
    match j with
    | .str s => return .ofString s
    | _ => return .null
  | .genericValue => marshal j

end ScriptHost
