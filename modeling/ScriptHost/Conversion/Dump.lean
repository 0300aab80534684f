import ScriptHost.Conversion.Budget
import ScriptHost.Engine.Writing

/-!
# From values to documents

* `Payment`, `Walker`: what a conversion has spent so far, and a part of one;
* `Double.toDocument`: a number as a document;
* `dumpAt`: a value as a document, from a level of nesting on;
* `dump`: a value as a document, under a budget.

Undefined, functions, symbols, big integers and numbers that are not finite become null; fields
that hold undefined or a function are left out.  Errors become their name and message.  Everything
is paid for before it is made, on the scale of `Json.size`.
-/

namespace ScriptHost

/-- What a conversion has spent so far: the bytes, and the nodes visited. -/
structure Payment where
  spent : Nat := 0
  visited : Nat := 0

/-- A part of a conversion.  One that fails tells what was spent until then. -/
abbrev Walker (α : Type) := StateT Payment (Computation (ConversionError × Payment)) α

namespace Walker

/-- Fails. -/
def fail {α : Type} (e : ConversionError) : Walker α := fun p => .fail (e, p)

/-- What a script does, in the course of a walk. -/
def ofScript {α : Type} (s : Script α) : Walker α := fun p =>
  s.sequel (fun a => .give (a, p)) fun h => .fail (.engine (.halted h), p)

end Walker

/-! ### Payment -/

/-- The greatest number of bytes that is counted. -/
def maxCount : Nat := twoTo 64 - 1

/-- A sum that stops at the greatest count. -/
def saturatingAdd (a b : Nat) : Nat := min (a + b) maxCount

/-- The visits from one look at the clock to the next. -/
def clockStride : Nat := 1024

/-- Pays for a node and so many bytes of text.  Now and then it looks at the clock. -/
def charge (budget : Budget) (payload : Nat) : Walker Unit := fun p => do
  let spent := saturatingAdd (saturatingAdd p.spent Json.nodeCost) payload
  if spent > budget.maxBytes then throw (.tooLarge budget.maxBytes, { p with spent })
  else
    let visited := p.visited + 1
    let late ← Computation.tick fun clock =>
      visited % clockStride = 0 && budget.deadline.any fun end_ => end_ ≤ clock
    if late then throw (.deadlineExpired, ⟨spent, visited⟩)
    else return ((), ⟨spent, visited⟩)

/-! ### Leaves -/

/-- A number as a document: whole if it is a safe integer, null if it is not finite. -/
def Double.toDocument (d : Double) : Json :=
  match d.safeInt? with
  | some n => .int n
  | none => if d.isFinite then .double d else .null

/-- Whether a number counts as whole in complaints.  The least number of 32 bits does not, since
scripts write it as the negation of one that needs more. -/
def Double.countsAsWhole (d : Double) : Bool := d.isInt32 && d.toInt? != some (-(twoTo 31 : Int))

/-- Whether an array stands behind the proxies before an object, whether they are in use or not. -/
def holdsArray (r : Ref) : Script Bool := do return (← behindProxies r).isArray

/-- The name of the type of a value in complaints. -/
def typeWord (v : Value) : Script String :=
  match v with
  | .undefined => return "undefined"
  | .null => return "null"
  | .bool _ => return "bool"
  | .number d => return if d.countsAsWhole then "int" else "float"
  | .string _ => return "string"
  | .bigint _ => return "big_int"
  | .symbol _ => return "symbol"
  | .object r => do
    if ← holdsArray r then return "array"
    else if ← isConstructor v then return "constructor"
    else if ← isCallable v then return "function"
    else
      return match (← readObject r).kind with
        | .promise _ => "promise"
        | .error => "exception"
        | _ => "object"

/-- Whether a field that holds the value is left out. -/
def isOmitted (v : Value) : Script Bool :=
  match v with
  | .undefined => return true
  | v => isCallable v

/-! ### Errors -/

/-- The name of an error, which must be a text if there is one. -/
def errorName (v : Value) : Walker (Option String) := do
  match ← Walker.ofScript (getProperty v "name") with
  | .undefined | .null => return none
  | .string t =>
    match t.toUnicode with
    | .ok s => return some s
    | .error i => .fail (.engine (.brokenText i))
  | w => do Walker.fail (.engine (.wrongType (← Walker.ofScript (typeWord w))))

/-- The text of a property of an error, if it has one that can be read. -/
def readableText (v : Value) (key : String) : Script (Option String) :=
  attempt do
    match ← getProperty v key with
    | .undefined | .null => return none
    | w => return (← toText w).toUnicode.toOption

/-- An error as a document: its name and its message. -/
def dumpError (v : Value) : Walker Json := do
  let name ← errorName v
  let message ← Walker.ofScript (readableText v "message")
  return .obj [("message", .ofOption message), ("name", .ofOption name)]

/-! ### The walk -/

/-- Reads the item of an array under an index. -/
def readItem (r : Ref) (i : Nat) : Script Value := do
  match (← readObject r).elements[i]? with
  | some (some ⟨.data v, _⟩) => return v
  | _ => getOf r (.item i)

/-- The items of an array as documents, so many from an index on; `done` are those before. -/
def dumpItems (item : Value → Walker Json) (r : Ref) :
    Nat → Nat → Array Json → Walker (Array Json)
  | 0, _, done => return done
  | n + 1, i, done => do
    let v ← Walker.ofScript (readItem r i)
    let j ← item v
    dumpItems item r n (i + 1) (done.push j)

/-- A key as documents have it: up to its first NUL. -/
def documentKey (key : String) : String :=
  String.ofList (key.toList.takeWhile fun c => c.toNat != 0)

/-- The Unicode text of a key. -/
def keyText (key : Key) : Walker String :=
  match key with
  | .text t =>
    match t.toUnicode with
    | .ok s => return s
    | .error i => .fail (.engine (.brokenText i))
  | .symbol _ => return ""

/-- The fields of an object under some keys; `done` are those before. -/
def dumpFields (budget : Budget) (item : Value → Walker Json) (r : Ref) :
    List Key → List (String × Json) → Walker (List (String × Json))
  | [], done => return done
  | key :: keys, done => do
    let name := documentKey (← keyText key)
    let v ← Walker.ofScript (getOf r key)
    if ← Walker.ofScript (isOmitted v) then dumpFields budget item r keys done
    else
      charge budget name.utf8ByteSize
      let j ← item v
      dumpFields budget item r keys (Json.insertField name j done)

/-- A value as a document, with so many levels left. -/
def dumpAt (budget : Budget) : Nat → Value → Walker Json
  | 0, _ => .fail .tooDeep
  | levels + 1, v => do
    charge budget 0
    match v with
    | .undefined | .null | .bigint _ | .symbol _ => return .null
    | .bool b => return .bool b
    | .number d => return d.toDocument
    | .string t =>
      match t.toUnicode with
      | .ok s => do
        charge budget s.utf8ByteSize
        return .str s
      | .error i => .fail (.engine (.brokenText i))
    | .object r =>
      let item := dumpAt budget levels
      if ← Walker.ofScript (isCallable v) then return .null
      else if ← Walker.ofScript (holdsArray r) then
        let length ← Walker.ofScript (lengthOf v)
        let items ← dumpItems item r length 0 #[]
        return .arr items.toList
      else if (← Walker.ofScript (readObject r)).isError then dumpError v
      else
        let keys ← Walker.ofScript (shownKeysOf r)
        let fields ← dumpFields budget item r keys []
        return .obj fields

/-- A value as a document, under a budget. -/
def dump (budget : Budget) (v : Value) : Conversion Json :=
  (dumpAt budget (maxDepth + 1) v {}).sequel (fun (j, _) => .give j) fun (e, _) => .fail e

end ScriptHost
