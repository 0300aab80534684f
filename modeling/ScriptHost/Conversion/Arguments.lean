import ScriptHost.Conversion.Dump
import ScriptHost.Capability.Argument

/-!
# From values to arguments

* `referencesOf`: the references in a document;
* `convertArguments`: the values of a call as argument groups, one for each type.
-/

namespace ScriptHost

/-- The references in a list, those items left out that are none; a single reference counts as a
list of one. -/
def referencesOf : Json → List EntityRef
  | .arr items => items.filterMap EntityRef.ofJson?
  | .obj fields => (EntityRef.ofJson? (.obj fields)).toList
  | _ => []

/-- The Unicode text of a value. -/
def convertText (v : Value) : Conversion String := do
  Conversion.unicode (← Conversion.ofScript (toText v))

def convertTexts : List Value → Conversion (List String)
  | [] => return []
  | v :: rest => do
    let s ← convertText v
    return s :: (← convertTexts rest)

/-- What is left of the values from an argument on, as one argument group. -/
def convertArgument (budget : Budget) (type : ArgumentType) (rest : List Value) :
    Conversion Argument :=
  match type with
  | .string =>
    match rest.head?.filter fun v => !v.isNullish with
    | some v => do return .text (some (← convertText v))
    | none => return .text none
  | .number =>
    match rest.head?.filter fun v => !v.isNullish with
    | some v => do return .number (some (← Conversion.ofScript (toNumber v)))
    | none => return .number none
  | .genericValue =>
    match rest.head? with
    | some v => do return .document (← dump budget v)
    | none => return .document .null
  | .entityRefList =>
    match rest.head? with
    | some v => do return .refs (referencesOf (← dump budget v))
    | none => return .refs []
  | .restStrings => do return .strings (← convertTexts rest)

/-- The values of a call as argument groups, one for each type. -/
def convertArguments (budget : Budget) :
    List ArgumentType → List Value → Conversion (List Argument)
  | [], _ => return []
  | type :: types, values => do
    let a ← convertArgument budget type values
    return a :: (← convertArguments budget types values.tail)

end ScriptHost
