import ScriptHost.Engine.Own

/-!
# Changes of a heap

Whatever a script does to a heap is a row of single changes.  A change that an object does not allow
leaves the heap as it is.

* `PropertyFault`: why an object stays as it is;
* `Object.isScripted`: whether scripts can make such an object;
* `Heap.define`, `Heap.write`, `Heap.drop` and the like: one change of one object;
* `Change`, `Change.apply`: the changes that scripts can make, and what they do.
-/

namespace ScriptHost

/-! ### Faults -/

/-- Why an object stays as it is. -/
inductive PropertyFault
  | readOnly (key : Key)
  | noSetter
  | forbiddenSetter
  | notExtensible
  | notConfigurable
  /-- An item that cannot be removed keeps an array from getting shorter. -/
  | stuckItem
  | notObject
  /-- A number of a list can only be as all of them are. -/
  | badFlags
  | outOfBounds
  | notWhole
  | negative
  /-- A handler says no to what is named. -/
  | refused (use : String)
  | circular
  | immutablePrototype
  deriving DecidableEq

def PropertyFault.message : PropertyFault → String
  | readOnly key => "'" ++ key.shown ++ "' is read-only"
  | noSetter => "no setter for property"
  | forbiddenSetter => "setter is forbidden"
  | notExtensible => "object is not extensible"
  | notConfigurable => "property is not configurable"
  | stuckItem => "not configurable"
  | notObject => "not an object"
  | badFlags => "invalid descriptor flags"
  | outOfBounds => "out-of-bound index in typed array"
  | notWhole => "non integer index in typed array"
  | negative => "negative index in typed array"
  | refused use => "proxy: " ++ use
  | circular => "circular prototype chain"
  | immutablePrototype =>
    "'Immutable prototype object 'Object.prototype' cannot have their prototype set'"

/-! ### New objects -/

/-- Whether scripts can make such a function: not one that the host gives them, and not one that
takes a proxy out of use, which only comes with its proxy. -/
def Callable.isScripted : Callable → Bool
  | capability .. | console _ | builtin (.gate ..) | builtin (.revoke _) => false
  | _ => true

def Kind.isScripted : Kind → Bool
  | function f => f.isScripted
  | _ => true

/-- Whether scripts can make such an object. -/
def Object.isScripted (o : Object) : Bool := o.kind.isScripted

/-- A function with a name and a number of parameters. -/
def functionObject (f : Callable) (name : Text) (parameters : Nat) : Object where
  kind := .function f
  prototype := some Family.function.prototype
  properties := [
    ("length", .data (.ofNat parameters) .label),
    ("name", .data (.string name) .label)]

/-- A proxy before an object. -/
def proxyObject (target handler : Ref) : Object where
  kind := .proxy target handler false
  prototype := none

/-- The trace of calls that a new error gets. -/
def stackProperty : Key × Property := ("stack", .hidden (.ofString ""))

/-! ### Single objects -/

namespace Object

/-- An error that has lost its trace with a new one. -/
def trace (o : Object) : Object :=
  if o.isError && (o.properties.lookup stackProperty.1).isNone then
    { o with properties := o.properties ++ [stackProperty] }
  else o

/-- The least length of an array after an assignment of `n` to it. -/
def lengthFor (o : Object) (length n : Nat) : Nat := if n < length then o.leastLength else 0

/-- An array with its length set as far as its items let that happen. -/
def resize (o : Object) (n : Nat) : Object :=
  match o.kind with
  | .array length false => o.truncate (max n (o.lengthFor length n))
  | _ => o

/-- An array whose length cannot be written any more. -/
def fixLength (o : Object) : Object :=
  match o.kind with
  | .array length _ => { o with kind := .array length true }
  | _ => o

end Object

/-- Whether an object can come to be of another kind: what it keeps besides its properties may
change, but not what it is. -/
def Kind.mayBecome : Kind → Kind → Bool
  | date _, date _ | regexp .., regexp .. | promise _, promise _ | buffer _, buffer _
  | relay .., relay .. | generator _, generator _ | watcher _, watcher _ => true
  | collection c _, collection d _ => c = d
  | iterator c _, iterator d _ => c = d
  | _, _ => false

/-! ### Changes of one object -/

namespace Heap

/-- Why an object does not take a definition of a property that it keeps, if it does not. -/
def definitionFault? (h : Heap) (r : Ref) (key : Key) (d : Descriptor) : Option PropertyFault :=
  let o := h.object r
  match h.own? o key with
  | some p => if d.fits p then none else some .notConfigurable
  | none =>
    if !o.extensible then some .notExtensible
    else
      match o.kind, key.index? with
      | .array length true, some i => if length ≤ i then some (.readOnly "length") else none
      | _, _ => none

/-- The heap with a property of an object as a definition says. -/
def define (h : Heap) (r : Ref) (key : Key) (d : Descriptor) : Heap :=
  let o := h.object r
  if (h.definitionFault? r key d).isSome then h
  else
    match h.own? o key with
    | some p =>
      -- the units of a wrapped text stay what they are
      if (o.stored? key).isSome then h.modify r fun o => o.put key (d.apply p) else h
    | none => h.modify r fun o => o.put key d.fresh

/-- The heap with a global variable, unless there is one of that name. -/
def declare (h : Heap) (name : String) : Heap :=
  if (h.own? (h.object globalRef) name).isSome then h
  else h.modify globalRef fun o => o.put name (.data .undefined ⟨true, true, false⟩)

/-- The heap with a value assigned to a property of an object, if it can be written. -/
def write (h : Heap) (r : Ref) (key : Key) (v : Value) : Heap :=
  match h.own? (h.object r) key with
  | some ⟨.data _, a⟩ => if a.writable then h.modify r fun o => o.put key ⟨.data v, a⟩ else h
  | _ => h

/-- The heap with a property of an object removed, if it can be. -/
def drop (h : Heap) (r : Ref) (key : Key) : Heap :=
  match h.own? (h.object r) key with
  | some p => if p.attributes.configurable then h.modify r fun o => o.remove key else h
  | none => h

/-- Whether an object is met on the way up from another, up to the first proxy. -/
def isAbove (h : Heap) (r : Ref) : Nat → Ref → Bool
  | 0, _ => false
  | fuel + 1, s =>
    let o := h.object s
    s = r || (!o.isProxy && o.prototype.any (h.isAbove r fuel))

/-- Why an object does not take another prototype, if it does not. -/
def prototypeFault? (h : Heap) (r : Ref) (parent : Option Ref) : Option PropertyFault :=
  if r = Family.object.prototype then some .immutablePrototype
  else if !(h.object r).extensible then some .notExtensible
  else if parent.any (h.isAbove r h.objects.size) then some .circular
  else none

/-- The heap with another prototype for an object, if it takes it. -/
def inherit (h : Heap) (r : Ref) (parent : Option Ref) : Heap :=
  if (h.prototypeFault? r parent).isSome then h
  else h.modify r fun o => { o with prototype := parent }

/-- The heap with an object that has come to be of another kind. -/
def become (h : Heap) (r : Ref) (kind : Kind) : Heap :=
  if (h.object r).kind.mayBecome kind then h.modify r fun o => { o with kind } else h

/-- The heap with a proxy taken out of use by the function that came with it. -/
def revoke (h : Heap) (revoker : Ref) : Heap :=
  match (h.object revoker).kind with
  | .function (.builtin (.revoke r)) =>
    match (h.object r).kind with
    | .proxy target handler _ => h.modify r fun o => { o with kind := .proxy target handler true }
    | _ => h
  | _ => h

end Heap

/-! ### Changes -/

/-- A change that scripts can make. -/
inductive Change
  | allocate (o : Object) (scripted : o.isScripted = true)
  /-- A new proxy, and a function that takes it out of use. -/
  | allocateRevocable (target handler : Ref)
  | define (r : Ref) (key : Key) (d : Descriptor)
  | declare (name : String)
  | write (r : Ref) (key : Key) (v : Value)
  | drop (r : Ref) (key : Key)
  | trace (r : Ref)
  | resize (r : Ref) (length : Nat)
  | fixLength (r : Ref)
  | inherit (r : Ref) (parent : Option Ref)
  | preventExtensions (r : Ref)
  | become (r : Ref) (kind : Kind)
  | revoke (revoker : Ref)
  | newCell (v : Value)
  | writeCell (i : Nat) (v : Value)
  | newSymbol

/-- The heap after a change. -/
def Change.apply (h : Heap) : Change → Heap
  | allocate o _ => (h.allocate o).2
  | allocateRevocable target handler =>
    let (r, h) := h.allocate (proxyObject target handler)
    (h.allocate (functionObject (.builtin (.revoke r)) (.unicode "") 0)).2
  | define r key d => h.define r key d
  | declare name => h.declare name
  | write r key v => h.write r key v
  | drop r key => h.drop r key
  | trace r => h.modify r Object.trace
  | resize r n => h.modify r fun o => o.resize n
  | fixLength r => h.modify r Object.fixLength
  | inherit r parent => h.inherit r parent
  | preventExtensions r => h.modify r fun o => { o with extensible := false }
  | become r kind => h.become r kind
  | revoke revoker => h.revoke revoker
  | newCell v => { h with cells := h.cells.push v }
  | writeCell i v => { h with cells := h.cells.setIfInBounds i v }
  | newSymbol => { h with symbols := h.symbols + 1 }

end ScriptHost
