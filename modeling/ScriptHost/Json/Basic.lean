import ScriptHost.Number.Decimal

/-!
# Documents

The values that cross between a script and its host.  Whole numbers and doubles are different
documents: `2` and `2.0` are not the same.

* `Json`: a document; an object holds its fields in the order of their keys;
* `Json.ofFields`: the object with the given fields, a later field replacing an earlier one;
* `Json.Sorted`: every object has its keys in strictly increasing order;
* `Json.size`: the bytes of a document on the scale that budgets use;
* `Json.equal`: equality that compares doubles as numbers.
-/

namespace ScriptHost

/-- A document. -/
inductive Json
  | null
  | bool (b : Bool)
  | int (n : Int)
  | double (d : Double)
  | str (s : String)
  | arr (items : List Json)
  | obj (fields : List (String × Json))
  deriving Inhabited, Repr

namespace Json

/-! ### Objects -/

/-- The fields with one more, in the order of their keys; a field of the same key is replaced. -/
def insertField (key : String) (value : Json) : List (String × Json) → List (String × Json)
  | [] => [(key, value)]
  | (k, v) :: rest =>
    if key < k then (key, value) :: (k, v) :: rest
    else if key = k then (key, value) :: rest
    else (k, v) :: insertField key value rest

/-- The given fields in the order of their keys, the last of each key. -/
def sortFields (fields : List (String × Json)) : List (String × Json) :=
  fields.foldl (fun acc (k, v) => insertField k v acc) []

/-- The object with the given fields. -/
def ofFields (fields : List (String × Json)) : Json := .obj (sortFields fields)

/-- The value of a key in a list of fields. -/
def lookup? (key : String) : List (String × Json) → Option Json
  | [] => none
  | (k, v) :: rest => if k = key then some v else lookup? key rest

/-- The value of a key, if the document is an object that has it. -/
def field? (key : String) : Json → Option Json
  | .obj fields => lookup? key fields
  | _ => none

/-- The keys stand in strictly increasing order. -/
def keysIncreasing : List (String × Json) → Bool
  | [] => true
  | [_] => true
  | (a, _) :: (b, v) :: rest => a < b && keysIncreasing ((b, v) :: rest)

mutual

/-- Every object in the document has its keys in strictly increasing order. -/
def Sorted : Json → Bool
  | .arr items => sortedItems items
  | .obj fields => keysIncreasing fields && sortedFields fields
  | _ => true

def sortedItems : List Json → Bool
  | [] => true
  | j :: rest => Sorted j && sortedItems rest

def sortedFields : List (String × Json) → Bool
  | [] => true
  | (_, j) :: rest => Sorted j && sortedFields rest

end

/-! ### Size -/

/-- The bytes that every node takes on top of its text. -/
def nodeCost : Nat := 16

mutual

/-- The bytes of a document: sixteen a node, and those of every string and key. -/
def size : Json → Nat
  | .str s => nodeCost + s.utf8ByteSize
  | .arr items => nodeCost + itemsSize items
  | .obj fields => nodeCost + fieldsSize fields
  | _ => nodeCost

def itemsSize : List Json → Nat
  | [] => 0
  | j :: rest => size j + itemsSize rest

def fieldsSize : List (String × Json) → Nat
  | [] => 0
  | (k, j) :: rest => k.utf8ByteSize + size j + fieldsSize rest

end

/-! ### Equality -/

mutual

/-- Equality of documents.  Doubles compare as numbers, so the two zeros are equal; a whole
number never equals a double. -/
def equal : Json → Json → Bool
  | .null, .null => true
  | .bool a, .bool b => a == b
  | .int a, .int b => a == b
  | .double a, .double b => a.numEq b
  | .str a, .str b => a == b
  | .arr as, .arr bs => equalItems as bs
  | .obj as, .obj bs => equalFields as bs
  | _, _ => false

def equalItems : List Json → List Json → Bool
  | [], [] => true
  | a :: as, b :: bs => equal a b && equalItems as bs
  | _, _ => false

def equalFields : List (String × Json) → List (String × Json) → Bool
  | [], [] => true
  | (j, a) :: as, (k, b) :: bs => j == k && equal a b && equalFields as bs
  | _, _ => false

end

/-! ### Views -/

def asString? : Json → Option String
  | .str s => some s
  | _ => none

/-- A natural number as a document. -/
def nat (n : Nat) : Json := .int n

/-- A list of texts as a document. -/
def strings (ss : List String) : Json := .arr (ss.map .str)

/-- The text, or null when there is none. -/
def ofOption : Option String → Json
  | some s => .str s
  | none => .null

end Json

end ScriptHost
