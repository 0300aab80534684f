import ScriptHost.EntityRef

/-!
# Arguments of capabilities

* `ArgumentType`, `ResultType`: how a script's values are read as arguments, and how a result is
  handed back;
* `Argument`: one argument group as a capability receives it;
* `Argument.text?`, `Argument.number?`, `Argument.document`, `Argument.refs`, `Argument.strings`:
  the views of an argument, empty for an argument of another form;
* `Argument.toJson`: the document of an argument, as backends record it;
* `Argument.equal`: equality of arguments, in which numbers compare as numbers.
-/

namespace ScriptHost

/-- How the values of a script are read as one argument group. -/
inductive ArgumentType
  /-- Text, or nothing for a missing value. -/
  | string
  /-- A number, or nothing for a missing value. -/
  | number
  /-- Any value, as a document. -/
  | genericValue
  /-- References to entities. -/
  | entityRefList
  /-- All values that are left, as texts. -/
  | restStrings
  deriving DecidableEq, Repr

def ArgumentType.name : ArgumentType → String
  | string => "string"
  | number => "number"
  | genericValue => "genericValue"
  | entityRefList => "entityRefList"
  | restStrings => "...string"

/-- How a result is handed back to the script. -/
inductive ResultType
  /-- Not at all. -/
  | void
  /-- As text, or null if it is none. -/
  | string
  /-- As the value of the document. -/
  | genericValue
  deriving DecidableEq, Repr

def ResultType.name : ResultType → String
  | void => "void"
  | string => "string"
  | genericValue => "genericValue"

/-- One argument group as a capability receives it. -/
inductive Argument
  | text (s : Option String)
  | number (n : Option Double)
  | document (j : Json)
  | refs (rs : List EntityRef)
  | strings (ss : List String)
  deriving Repr

namespace Argument

/-! ### Views -/

def text? : Argument → Option String
  | text s => s
  | _ => none

def number? : Argument → Option Double
  | number n => n
  | _ => none

def value : Argument → Json
  | document j => j
  | _ => .null

def entityRefs : Argument → List EntityRef
  | refs rs => rs
  | _ => []

def texts : Argument → List String
  | strings ss => ss
  | _ => []

/-- The document of a number; one that is not finite has none. -/
def numberToJson (d : Double) : Json := if d.isFinite then .double d else .null

/-- The document of an argument. -/
def toJson : Argument → Json
  | text s => .ofOption s
  | number n => (n.map numberToJson).getD .null
  | document j => j
  | refs rs => .arr (rs.map EntityRef.toJson)
  | strings ss => .strings ss

/-- Whether an argument has the form that its type calls for. -/
def hasType : Argument → ArgumentType → Bool
  | text _, .string => true
  | number _, .number => true
  | document _, .genericValue => true
  | refs _, .entityRefList => true
  | strings _, .restStrings => true
  | _, _ => false

/-! ### Equality -/

/-- Equality of arguments. -/
def equal : Argument → Argument → Bool
  | text s, text t => s == t
  | number none, number none => true
  | number (some a), number (some b) => a.numEq b
  | document a, document b => a.equal b
  | refs rs, refs ss => rs == ss
  | strings ss, strings ts => ss == ts
  | _, _ => false

end Argument

end ScriptHost
