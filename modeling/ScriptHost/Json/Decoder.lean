import ScriptHost.Json.Basic
import ScriptHost.Text.Quoted

/-!
# Typed values out of documents

Decoders take a document apart and say what does not fit, and where.

* `Mismatch`, `Mismatch.message`: what does not fit;
* `Step`, `DecodeError`: a mismatch with the path that leads to it;
* `Decoder`: a function from documents to values; `Decoder.string`, `Decoder.bool`,
  `Decoder.unsigned`, `Decoder.int64`, `Decoder.list`, `Decoder.nullable`, `Decoder.variant`;
* `Decoder.record`: the reading of an object whose fields fill a draft, in the order in which they
  stand, or of the list of the record's fields.
-/

namespace ScriptHost

/-! ### Mismatches -/

/-- What a document turned out to be. -/
inductive Found
  | null
  | bool (b : Bool)
  | int (n : Int)
  | double (d : Double)
  | str (s : String)
  | list
  | map
  deriving DecidableEq, Repr

/-- The head of a document. -/
def Json.found : Json → Found
  | .null => .null
  | .bool b => .bool b
  | .int n => .int n
  | .double d => .double d
  | .str s => .str s
  | .arr _ => .list
  | .obj _ => .map

/-- What does not fit. -/
inductive Mismatch
  | wrongType (found : Found) (expected : String)
  | wrongValue (found : Found) (expected : String)
  | wrongLength (length : Nat) (expected : String)
  | missingField (name : String)
  | unknownField (name : String) (known : List String)
  | unknownVariant (name : String) (known : List String)
  deriving DecidableEq, Repr

/-- The words for what was found; doubles are written in `style`. -/
def Found.describe (style : NumberStyle) : Found → String
  | null => "null"
  | bool b => "boolean `" ++ (if b then "true" else "false") ++ "`"
  | int n => "integer `" ++ toString n ++ "`"
  | double d => "floating point `" ++ d.render style ++ "`"
  | str s => "string " ++ Quoted.quote s
  | list => "sequence"
  | map => "map"

/-- The words for a choice among names. -/
def describeChoice (names : List String) : String :=
  let quoted := names.map fun n => "`" ++ n ++ "`"
  match quoted with
  | [] => "there are none"
  | [a] => "expected " ++ a
  | [a, b] => "expected " ++ a ++ " or " ++ b
  | _ => "expected one of " ++ String.intercalate ", " quoted

/-- The words for a mismatch; doubles are written in `style`. -/
def Mismatch.message (style : NumberStyle) : Mismatch → String
  | wrongType found expected =>
    "invalid type: " ++ found.describe style ++ ", expected " ++ expected
  | wrongValue found expected =>
    "invalid value: " ++ found.describe style ++ ", expected " ++ expected
  | wrongLength n expected => "invalid length " ++ toString n ++ ", expected " ++ expected
  | missingField name => "missing field `" ++ name ++ "`"
  | unknownField name known => "unknown field `" ++ name ++ "`, " ++ describeChoice known
  | unknownVariant name known => "unknown variant `" ++ name ++ "`, " ++ describeChoice known

/-! ### Places -/

/-- One step into a document. -/
inductive Step
  | item (i : Nat)
  | field (key : String)
  deriving DecidableEq, Repr

/-- A mismatch at the end of a path; `atKey` says that the last key itself does not fit. -/
structure DecodeError where
  mismatch : Mismatch
  path : List Step
  atKey : Bool
  deriving DecidableEq, Repr

namespace DecodeError

def ofMismatch (m : Mismatch) : DecodeError := ⟨m, [], false⟩

/-- The same mismatch, seen from one level up. -/
def within (step : Step) (e : DecodeError) : DecodeError := { e with path := step :: e.path }

/-- A mismatch of the key of a field. -/
def ofKey (key : String) (m : Mismatch) : DecodeError := ⟨m, [.field key], true⟩

/-- The words for the mismatch, with numbers as documents write them. -/
def message (e : DecodeError) : String := e.mismatch.message .document

end DecodeError

/-! ### Decoders -/

/-- A reading of documents as values of a type. -/
abbrev Decoder (α : Type) := Json → Except DecodeError α

namespace Decoder

variable {α β : Type}

def fail (m : Mismatch) : Except DecodeError α := .error (.ofMismatch m)

/-- A failure because of the type of the document. -/
def wrongType (j : Json) (expected : String) : Except DecodeError α :=
  fail (.wrongType j.found expected)

/-- What a decoder says about a part, seen from the whole. -/
def inside (step : Step) (d : Decoder α) (j : Json) : Except DecodeError α :=
  match d j with
  | .ok a => .ok a
  | .error e => .error (e.within step)

def any : Decoder Json := .ok

def string : Decoder String
  | .str s => .ok s
  | j => wrongType j "a string"

def bool : Decoder Bool
  | .bool b => .ok b
  | j => wrongType j "a boolean"

/-- A whole number in `[0, 2^width)`. -/
def unsigned (width : Nat) (name : String) : Decoder Nat
  | .int n => if 0 ≤ n && n < twoTo width then .ok n.toNat else fail (.wrongValue (.int n) name)
  | j => wrongType j name

def int64 : Decoder Int
  | .int n =>
    if -(twoTo 63 : Int) ≤ n && n < twoTo 63 then .ok n else fail (.wrongValue (.int n) "i64")
  | j => wrongType j "i64"

/-- The items of a list, from the given place on. -/
def items (d : Decoder α) : Nat → List Json → Except DecodeError (List α)
  | _, [] => .ok []
  | i, j :: rest => do
    let a ← inside (.item i) d j
    let as ← items d (i + 1) rest
    .ok (a :: as)

def list (d : Decoder α) : Decoder (List α)
  | .arr js => items d 0 js
  | j => wrongType j "a sequence"

/-- Null for nothing. -/
def nullable (d : Decoder α) : Decoder (Option α)
  | .null => .ok none
  | j => (d j).map some

/-! ### Variants -/

/-- The value that a name stands for. -/
def named (choices : List (String × α)) (name : String) : Except Mismatch α :=
  match choices.lookup name with
  | some a => .ok a
  | none => .error (.unknownVariant name (choices.map Prod.fst))

/-- One of several names, as a string or as the only key of an object that holds null there. -/
def variant (choices : List (String × α)) : Decoder α
  | .str s =>
    match named choices s with
    | .ok a => .ok a
    | .error m => fail m
  | .obj [(k, v)] =>
    match named choices k with
    | .error m => .error (.ofKey k m)
    | .ok a => if let .null := v then .ok a else inside (.field k) (wrongType · "unit") v
  | .obj _ => fail (.wrongValue .map "map with a single key")
  | j => wrongType j "string or map"

/-! ### Maps and records -/

/-- The fields of an object, each key and each value read in turn. -/
def entries (key : String → Except Mismatch α) (value : Decoder β) :
    List (String × Json) → Except DecodeError (List (α × β))
  | [] => .ok []
  | (k, j) :: rest =>
    match key k with
    | .error m => .error (.ofKey k m)
    | .ok a => do
      let b ← inside (.field k) value j
      let more ← entries key value rest
      .ok ((a, b) :: more)

def mapping (key : String → Except Mismatch α) (value : Decoder β) : Decoder (List (α × β))
  | .obj fields => entries key value fields
  | j => wrongType j "a map"

/-- How a record type is read. -/
structure Shape where
  name : String
  /-- The names of the fields, in the order in which a list gives them. -/
  fields : List String
  /-- Whether an object may have other fields, which are passed over. -/
  lenient : Bool
  /-- Whether a list may end before the last field. -/
  short : Bool
  /-- Whether a list may go on after the last field. -/
  long : Bool

/-- Reads the fields of an object into a draft, one after the other.  `fill key` is the reading of
a field that the shape has. -/
def fillFields (shape : Shape) (fill : String → α → Decoder α) :
    α → List (String × Json) → Except DecodeError α
  | draft, [] => .ok draft
  | draft, (k, j) :: rest =>
    if shape.fields.contains k then do
      let draft ← inside (.field k) (fill k draft) j
      fillFields shape fill draft rest
    else if shape.lenient then fillFields shape fill draft rest
    else .error (.ofKey k (.unknownField k shape.fields))

/-- Reads the items of a list as the fields of the shape, in order. -/
def fillItems (shape : Shape) (fill : String → α → Decoder α) :
    Nat → α → List String → List Json → Except DecodeError α
  | _, draft, [], [] => .ok draft
  | i, draft, [], rest =>
    if shape.long then .ok draft
    else fail (.wrongLength (i + rest.length) "fewer elements in array")
  | i, draft, _ :: _, [] =>
    if shape.short then .ok draft
    else
      let n := shape.fields.length
      let plural := if n = 1 then " element" else " elements"
      fail (.wrongLength i ("struct " ++ shape.name ++ " with " ++ toString n ++ plural))
  | i, draft, k :: ks, j :: rest => do
    let draft ← inside (.item i) (fill k draft) j
    fillItems shape fill (i + 1) draft ks rest

/-- Reads an object, or the list of the fields, into a draft. -/
def record (shape : Shape) (fill : String → α → Decoder α) (draft : α) : Decoder α
  | .obj fields => fillFields shape fill draft fields
  | .arr items => fillItems shape fill 0 draft shape.fields items
  | j => wrongType j ("struct " ++ shape.name)

/-- A field that has to be there. -/
def required (name : String) : Option α → Except DecodeError α
  | some a => .ok a
  | none => fail (.missingField name)

end Decoder

end ScriptHost
