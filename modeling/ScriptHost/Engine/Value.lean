import ScriptHost.Engine.Builtin
import ScriptHost.Regex.Syntax
import ScriptHost.Script.Syntax
import ScriptHost.Text.Digits

/-!
# Script values

* `Symbol`, `Value`: the values of the script language; objects are references into a heap;
* `Key`: what properties stand under, the order in which an object lists its keys, and how
  complaints show them;
* `Property`, `Attributes`: what stands under a key of an object;
* `Callable`: what happens when a function is called;
* `Kind`, `Object`: an object on the heap.
-/

namespace ScriptHost

/-- The place of an object on the heap. -/
abbrev Ref := Nat

/-! ### Symbols -/

/-- The symbols that the language itself looks for. -/
inductive WellKnown
  | iterator
  | asyncIterator
  | toPrimitive
  | toStringTag
  | hasInstance
  | isConcatSpreadable
  | species
  | unscopables
  | matching
  | matchingAll
  | replacing
  | searching
  | splitting
  deriving DecidableEq, Repr

namespace WellKnown

/-- The symbols in the order in which `Symbol` lists them. -/
def all : List WellKnown :=
  [toPrimitive, iterator, matching, matchingAll, replacing, searching, splitting, toStringTag,
    isConcatSpreadable, hasInstance, species, unscopables, asyncIterator]

/-- The name of a symbol among the properties of `Symbol`. -/
def name : WellKnown → String
  | iterator => "iterator"
  | asyncIterator => "asyncIterator"
  | toPrimitive => "toPrimitive"
  | toStringTag => "toStringTag"
  | hasInstance => "hasInstance"
  | isConcatSpreadable => "isConcatSpreadable"
  | species => "species"
  | unscopables => "unscopables"
  | matching => "match"
  | matchingAll => "matchAll"
  | replacing => "replace"
  | searching => "search"
  | splitting => "split"

end WellKnown

/-- A symbol. -/
inductive Symbol
  | wellKnown (w : WellKnown)
  /-- A symbol that a script made; no two have the same number. -/
  | fresh (number : Nat) (description : Option Text)
  /-- The symbol that all scripts share under a key. -/
  | registered (key : Text)
  deriving DecidableEq, Repr

/-- The description of a symbol, if it has one. -/
def Symbol.description? : Symbol → Option Text
  | wellKnown w => some (.unicode ("Symbol." ++ w.name))
  | fresh _ d => d
  | registered key => some key

/-! ### Values -/

/-- A value of the script language. -/
inductive Value
  | undefined
  | null
  | bool (b : Bool)
  | number (d : Double)
  | string (t : Text)
  | bigint (n : Int)
  | symbol (s : Symbol)
  | object (r : Ref)
  deriving DecidableEq, Repr, Inhabited

namespace Value

/-- Either undefined or null. -/
def isNullish : Value → Bool
  | undefined | null => true
  | _ => false

def ofString (s : String) : Value := string (.unicode s)
def ofInt (n : Int) : Value := number (.ofInt n)
def ofNat (n : Nat) : Value := ofInt n

/-- The object that a value is. -/
def ref? : Value → Option Ref
  | object r => some r
  | _ => none

/-- The object under a reference, or null. -/
def ofRef? : Option Ref → Value
  | some r => object r
  | none => null

/-- The text under an option, or undefined. -/
def ofText? : Option Text → Value
  | some t => string t
  | none => undefined

/-- Whether two numbers are the same, where all NaNs are, and zeros if `zeros` says so. -/
def sameNumber (zeros : Bool) (a b : Double) : Bool :=
  if a.isNaN || b.isNaN then a.isNaN && b.isNaN else if zeros then a.numEq b else a == b

/-- Whether two values are the same; the two zeros are not. -/
def same (a b : Value) : Bool :=
  match a, b with
  | number x, number y => sameNumber false x y
  | _, _ => a == b

/-- Whether two values are the same where the two zeros are. -/
def sameZero (a b : Value) : Bool :=
  match a, b with
  | number x, number y => sameNumber true x y
  | _, _ => a == b

/-- Whether two values are equal without any conversion. -/
def strictlyEqual (a b : Value) : Bool :=
  match a, b with
  | number x, number y => x.numEq y
  | _, _ => a == b

end Value

/-! ### Keys -/

/-- What a property stands under. -/
inductive Key
  | text (t : Text)
  | symbol (s : Symbol)
  deriving DecidableEq, Repr

namespace Key

def named (s : String) : Key := text (.unicode s)

instance : Coe String Key := ⟨named⟩

def known (w : WellKnown) : Key := symbol (.wellKnown w)

/-- The key of the item number `n`. -/
def item (n : Nat) : Key := named (toString n)

def isText : Key → Bool
  | text _ => true
  | symbol _ => false

/-- The value of a key. -/
def toValue : Key → Value
  | text t => .string t
  | symbol s => .symbol s

/-- The index that a text spells in canonical form, if it spells one. -/
def indexOf? (s : String) : Option Nat :=
  let cs := s.toList
  if cs.isEmpty || cs.length > 10 || !cs.all Char.isDigit || (cs.head? = some '0' && cs.length > 1)
  then none
  else
    let n := Digits.decimal cs
    if n < twoTo 32 - 1 then some n else none

/-- The index that a key is, if it is one. -/
def index? : Key → Option Nat
  | text (.unicode s) => indexOf? s
  | _ => none

/-- A key among the keys that are indices, in increasing order of these. -/
def insertIndex (n : Nat) (key : Key) : List (Nat × Key) → List (Nat × Key)
  | [] => [(n, key)]
  | (m, k) :: rest =>
    if n < m then (n, key) :: (m, k) :: rest else (m, k) :: insertIndex n key rest

/-- Keys in the order in which an object lists them: indices in increasing order, then the other
texts as they stand, then the symbols. -/
def arrange (keys : List Key) : List Key :=
  let indexed := keys.foldl (fun acc k =>
    match k.index? with
    | some n => insertIndex n k acc
    | none => acc) []
  indexed.map Prod.snd ++ keys.filter (fun k => k.isText && k.index?.isNone)
    ++ keys.filter fun k => !k.isText

/-! ### In complaints -/

/-- Where a name in a complaint is cut off if it is not in ASCII: no character begins beyond this
many bytes. -/
def shownBytes : Nat := 60

/-- The characters of a name up to that point; a pair of surrogates takes six bytes. -/
def shownPart : Nat → List Char → List Char
  | _, [] => []
  | used, c :: rest =>
    if shownBytes ≤ used then []
    else c :: shownPart (used + if c.utf8Size = 4 then 6 else c.utf8Size) rest

/-- How complaints show a name. -/
def shownName (s : String) : String :=
  if s.toList.all fun c => c.toNat < 128 then s else String.ofList (shownPart 0 s.toList)

/-- How complaints show a key. -/
def shown : Key → String
  | text (.unicode s) => shownName s
  | text (.broken _) => ""
  | symbol s =>
    match s.description? with
    | some (.unicode t) => shownName t
    | _ => ""

end Key

/-! ### Properties -/

/-- What may be done with a property. -/
structure Attributes where
  writable : Bool
  enumerable : Bool
  configurable : Bool
  deriving DecidableEq, Repr

namespace Attributes

/-- A property made by assignment. -/
def ordinary : Attributes := ⟨true, true, true⟩

/-- A property of a built-in object. -/
def hidden : Attributes := ⟨true, false, true⟩

/-- A property that can only be defined anew. -/
def label : Attributes := ⟨false, false, true⟩

/-- A property that neither changes nor shows. -/
def fixed : Attributes := ⟨false, false, false⟩

end Attributes

/-- What a property gives when it is read. -/
inductive Content
  | data (value : Value)
  /-- The value that a function gives; one that a function takes.  Undefined stands for none. -/
  | accessor (getter : Value) (setter : Value)
  deriving DecidableEq, Repr

/-- What stands under a key. -/
structure Property where
  content : Content
  attributes : Attributes
  deriving DecidableEq, Repr

namespace Property

def data (v : Value) (a : Attributes) : Property := ⟨.data v, a⟩

/-- A property made by assignment. -/
def plain (v : Value) : Property := data v .ordinary

/-- A property of a built-in object. -/
def hidden (v : Value) : Property := data v .hidden

def isAccessor (p : Property) : Bool :=
  match p.content with
  | .data _ => false
  | .accessor .. => true

end Property

/-- What a definition of a property says; the rest stays as it is. -/
structure Descriptor where
  value : Option Value := none
  getter : Option Value := none
  setter : Option Value := none
  writable : Option Bool := none
  enumerable : Option Bool := none
  configurable : Option Bool := none

namespace Descriptor

/-- The definition that says everything about a property. -/
def ofProperty (p : Property) : Descriptor :=
  match p.content with
  | .data v =>
    { value := some v, writable := some p.attributes.writable
      enumerable := some p.attributes.enumerable, configurable := some p.attributes.configurable }
  | .accessor g s =>
    { getter := some g, setter := some s
      enumerable := some p.attributes.enumerable, configurable := some p.attributes.configurable }

/-- The definition of a property like one that an assignment makes. -/
def plain (v : Value) : Descriptor := ofProperty (.plain v)

def isAccessor (d : Descriptor) : Bool := d.getter.isSome || d.setter.isSome

/-- The property that a definition makes where there is none. -/
def fresh (d : Descriptor) : Property :=
  let enumerable := d.enumerable.getD false
  let configurable := d.configurable.getD false
  if d.isAccessor then
    ⟨.accessor (d.getter.getD .undefined) (d.setter.getD .undefined),
      ⟨false, enumerable, configurable⟩⟩
  else ⟨.data (d.value.getD .undefined), ⟨d.writable.getD false, enumerable, configurable⟩⟩

/-- What a definition makes of a property. -/
def apply (d : Descriptor) (p : Property) : Property :=
  let enumerable := d.enumerable.getD p.attributes.enumerable
  let configurable := d.configurable.getD p.attributes.configurable
  match p.content with
  | .data v =>
    if d.isAccessor then
      ⟨.accessor (d.getter.getD .undefined) (d.setter.getD .undefined),
        ⟨false, enumerable, configurable⟩⟩
    else
      ⟨.data (d.value.getD v), ⟨d.writable.getD p.attributes.writable, enumerable, configurable⟩⟩
  | .accessor g s =>
    if d.value.isSome || d.writable.isSome then
      ⟨.data (d.value.getD .undefined), ⟨d.writable.getD false, enumerable, configurable⟩⟩
    else ⟨.accessor (d.getter.getD g) (d.setter.getD s), ⟨false, enumerable, configurable⟩⟩

/-- Whether the flags of a definition go with a property that it is for. -/
def agrees (d : Descriptor) (p : Property) : Bool :=
  p.attributes.configurable ||
    (d.configurable != some true && d.enumerable.all (· == p.attributes.enumerable) &&
      (d.value.isNone && d.writable.isNone && !d.isAccessor ||
        match p.content with
        | .data _ => !d.isAccessor && (p.attributes.writable || d.writable != some true)
        | .accessor .. => d.isAccessor))

/-- Whether a target may have such a property after a handler has said yes to a definition. -/
def mayFollow (d : Descriptor) (kept : Option Property) (extensible : Bool) : Bool :=
  let fixes := d.configurable = some false
  match kept with
  | none => extensible && !fixes
  | some p =>
    d.agrees p && !(p.attributes.configurable && fixes) && (p.attributes.configurable ||
      match p.content with
      | .data v =>
        if p.attributes.writable then d.writable != some false else d.value.all v.same
      | .accessor g s => d.getter.all (· == g) && d.setter.all (· == s))

/-- Whether a definition may be applied to a property. -/
def fits (d : Descriptor) (p : Property) : Bool :=
  p.attributes.configurable ||
    (d.configurable != some true && d.enumerable.all (· == p.attributes.enumerable) &&
      match p.content with
      | .data v =>
        !d.isAccessor &&
          (p.attributes.writable || (d.writable != some true && d.value.all v.same))
      | .accessor g s =>
        d.value.isNone && d.writable.isNone && d.getter.all (· == g) && d.setter.all (· == s))

end Descriptor

/-! ### Functions -/

/-- Lexical variables, innermost first, each with its cell. -/
abbrev Scope := List (String × Nat)

/-- What happens when a function is called. -/
inductive Callable
  /-- The value of an expression is given, or thrown.  Some of these make objects. -/
  | closure (body : Expr) (throws constructs : Bool) (scope : Scope)
  | builtin (b : Builtin)
  /-- A function with a receiver and arguments of its own. -/
  | bound (target : Ref) (this : Value) (args : List Value)
  /-- The constructor of a class that scripts declare; one that is derived has what it inherits from
  make its objects. -/
  | declaredClass (derived : Bool)
  /-- A capability of the host. -/
  | capability (namespaceName method : String)
  /-- A method of the console. -/
  | console (level : LogLevel)

/-! ### Objects -/

/-- What is listed of entries and items. -/
inductive Listing
  | keys
  | values
  | entries
  deriving DecidableEq, Repr

/-- What walks through the items of something. -/
inductive Walk
  | items (target : Ref) (next : Nat) (listing : Listing)
  | units (text : Text) (next : Nat)
  | entries (collection : Ref) (next : Nat) (listing : Listing)
  /-- What a pattern finds in a text, once or everywhere. -/
  | finds (pattern : Ref) (text : Text) (everywhere points : Bool)
  | done

/-- What is done with the values that something else gives one by one; functions are told how many
values came before. -/
inductive Relay
  | drop (count : Nat)
  | take (count : Nat)
  | filter (f : Value) (index : Nat)
  | map (f : Value) (index : Nat)
  /-- Gives the values of what a function makes of each value; `inner` is what gives them at
  present, with its method for that. -/
  | flatMap (f : Value) (index : Nat) (inner : Option (Value × Value))
  | done

/-- The bytes of a buffer. -/
structure ByteStore where
  bytes : Array UInt8
  /-- How many there can be, if their number can change. -/
  limit : Option Nat := none
  /-- Whether several threads may share the bytes. -/
  shared : Bool := false
  /-- Whether the bytes were given to another buffer. -/
  detached : Bool := false

/-- What an object is besides its properties. -/
inductive Kind
  | plain
  /-- A list, with its length, and whether the length cannot be written. -/
  | array (length : Nat) (fixed : Bool)
  | error
  | arguments
  | function (f : Callable)
  /-- A wrapped number, truth value, text, symbol or big integer. -/
  | boxed (v : Value)
  /-- A moment, in milliseconds. -/
  | date (time : Double)
  /-- A regular expression with the text that spells it. -/
  | regexp (source : Text) (program : Regex.Program)
  /-- Entries in the order in which they came; removed ones leave a gap. -/
  | collection (c : CollectionClass) (entries : Array (Option (Value × Value)))
  /-- A promise; it may have been told what becomes of it. -/
  | promise (told : Bool)
  | buffer (store : ByteStore)
  /-- Numbers in a buffer, from a byte on; so many, or as far as the buffer goes. -/
  | elements (t : ElementType) (buffer : Ref) (offset : Nat) (length : Option Nat)
  /-- A view of single numbers in part of a buffer: so many bytes, or as far as the buffer goes. -/
  | view (buffer : Ref) (offset : Nat) (length : Option Nat)
  | iterator (c : WalkClass) (w : Walk)
  /-- Something that passes on the values of `source`, whose method for that is `next`. -/
  | relay (source next : Value) (r : Relay)
  /-- Something that gives the values of `source`, whose method for that is `next`. -/
  | wrapped (source next : Value)
  /-- A computation that gives values one by one; these are the ones to come. -/
  | generator (values : List Value)
  /-- What does not keep its target alive. -/
  | weakRef (target : Value)
  /-- What watches over the end of objects, by these tokens. -/
  | watcher (tokens : List Value)
  /-- An object whose handler decides about the uses of its target. -/
  | proxy (target handler : Ref) (revoked : Bool)

/-- An object on the heap. -/
structure Object where
  kind : Kind
  prototype : Option Ref
  /-- The properties under the indices from zero on; a hole is `none`. -/
  elements : Array (Option Property) := #[]
  /-- The other properties, in the order in which they were made. -/
  properties : List (Key × Property) := []
  /-- Whether new properties may be added. -/
  extensible : Bool := true

namespace Object

/-- A plain object with the given properties. -/
def withProperties (prototype : Option Ref) (ps : List (String × Property)) : Object where
  kind := .plain
  prototype := prototype
  properties := ps.map fun (k, p) => (Key.named k, p)

def isArray (o : Object) : Bool :=
  match o.kind with
  | .array .. => true
  | _ => false

def isError (o : Object) : Bool :=
  match o.kind with
  | .error => true
  | _ => false

def isProxy (o : Object) : Bool :=
  match o.kind with
  | .proxy .. => true
  | _ => false

def callable? (o : Object) : Option Callable :=
  match o.kind with
  | .function f => some f
  | _ => none

end Object

end ScriptHost
