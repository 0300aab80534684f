import ScriptHost.Engine.Change

/-!
# Looks at a heap

Whatever a script comes to know of a heap it knows from single looks, each of which concerns a few
objects only.

* `Look`, `Look.ask`: what can be asked of a heap, and the answer;
* `Spot`: the parts of objects that answers depend on;
* `Look.spots`, `Change.spots`: the spots that a look or a change depends on.
-/

namespace ScriptHost

/-! ### Frames -/

namespace Object

/-- An object without its properties. -/
def frame (o : Object) : Object := { o with properties := [] }

variable (o : Object)

@[simp] theorem kind_frame : o.frame.kind = o.kind := rfl

@[simp] theorem prototype_frame : o.frame.prototype = o.prototype := rfl

@[simp] theorem elements_frame : o.frame.elements = o.elements := rfl

@[simp] theorem extensible_frame : o.frame.extensible = o.extensible := rfl

@[simp] theorem isArray_frame : o.frame.isArray = o.isArray := rfl

@[simp] theorem isError_frame : o.frame.isError = o.isError := rfl

@[simp] theorem isProxy_frame : o.frame.isProxy = o.isProxy := rfl

@[simp] theorem callable?_frame : o.frame.callable? = o.callable? := rfl

end Object

/-! ### Walks -/

/-- Whether a function makes objects. -/
def constructs (h : Heap) : Nat → Callable → Bool
  | _, .closure _ _ constructs _ => constructs
  | _, .builtin b => b.constructs
  | 0, .bound .. => false
  | fuel + 1, .bound target _ _ =>
    match (h.unwrap fuel target).callable? with
    | some f => constructs h fuel f
    | none => false
  | _, .declaredClass _ => true
  | _, .capability .. | _, .console _ => false

/-- The function behind others that only hold its arguments. -/
def Heap.unbound (h : Heap) : Nat → Ref → Ref
  | 0, r => r
  | fuel + 1, r =>
    match (h.object r).callable? with
    | some (.bound target _ _) => h.unbound fuel target
    | _ => r

/-! ### Looks -/

/-- What can be asked of a heap. -/
inductive Look : Type → Type
  /-- How many objects there are. -/
  | size : Look Nat
  /-- How many lexical variables there are. -/
  | cellCount : Look Nat
  /-- How many symbols scripts have made. -/
  | symbolCount : Look Nat
  /-- The value of a lexical variable. -/
  | cell (i : Nat) : Look Value
  /-- What an object is besides its properties. -/
  | frame (r : Ref) : Look Object
  /-- The same of what stands behind the proxies before an object. -/
  | behind (r : Ref) : Look Object
  /-- The property that an object itself has under a key. -/
  | own (r : Ref) (key : Key) : Look (Option Property)
  /-- The keys of an object itself. -/
  | keys (r : Ref) : Look (List Key)
  /-- The least length of an array after an assignment to it. -/
  | lengthFor (r : Ref) (length n : Nat) : Look Nat
  /-- Whether a function makes objects. -/
  | constructs (f : Callable) : Look Bool
  /-- The function behind others that only hold its arguments. -/
  | unbound (r : Ref) : Look Ref
  | definitionFault (r : Ref) (key : Key) (d : Descriptor) : Look (Option PropertyFault)
  | prototypeFault (r : Ref) (parent : Option Ref) : Look (Option PropertyFault)

/-- What a look tells. -/
def Look.ask (h : Heap) {α : Type} : Look α → α
  | size => h.objects.size
  | cellCount => h.cells.size
  | symbolCount => h.symbols
  | cell i => h.cells.getD i .undefined
  | frame r => (h.object r).frame
  | behind r => (h.unwrap (h.objects.size + 1) r).frame
  | own r key => h.own? (h.object r) key
  | keys r => h.ownKeys (h.object r)
  | lengthFor r length n => (h.object r).lengthFor length n
  | constructs f => ScriptHost.constructs h h.objects.size f
  | unbound r => h.unbound h.objects.size r
  | definitionFault r key d => h.definitionFault? r key d
  | prototypeFault r parent => h.prototypeFault? r parent

/-! ### Spots -/

/-- A part of an object. -/
inductive Spot
  /-- All but the properties. -/
  | frame (r : Ref)
  /-- The property that is kept under a key, if there is one. -/
  | property (r : Ref) (key : Key)
  /-- All of it, and so which properties there are. -/
  | whole (r : Ref)
  deriving DecidableEq

namespace Heap

/-- The buffer that an object counts its numbers from. -/
def storeSpots (h : Heap) (r : Ref) : List Spot :=
  match (h.object r).kind with
  | .elements _ buffer _ _ => [.frame buffer]
  | _ => []

/-- What an own property depends on. -/
def ownSpots (h : Heap) (r : Ref) (key : Key) : List Spot :=
  .frame r :: .property r key :: h.storeSpots r

/-- What a walk from object to object meets, if it is at most so long. -/
def walkSpots (h : Heap) (next : Object → Option Ref) : Nat → Ref → List Spot
  | 0, r => [.frame r]
  | fuel + 1, r =>
    .frame r ::
      match next (h.object r) with
      | some s => h.walkSpots next fuel s
      | none => []

end Heap

namespace Object

/-- What stands right behind a proxy. -/
def target? (o : Object) : Option Ref :=
  match o.kind with
  | .proxy target _ _ => some target
  | _ => none

/-- The function right behind one that only holds its arguments. -/
def unbound? (o : Object) : Option Ref :=
  match o.kind with
  | .function (.bound target _ _) => some target
  | _ => none

/-- What an object inherits from, if it is no proxy. -/
def parent? (o : Object) : Option Ref := if o.isProxy then none else o.prototype

end Object

/-- What it depends on whether a function makes objects. -/
def constructsSpots (h : Heap) : Nat → Callable → List Spot
  | fuel + 1, .bound target _ _ =>
    h.walkSpots Object.target? fuel target ++
      match (h.unwrap fuel target).callable? with
      | some f => constructsSpots h fuel f
      | none => []
  | _, _ => []

/-- What it depends on whether an object takes another prototype. -/
def Heap.prototypeSpots (h : Heap) (r : Ref) (parent : Option Ref) : List Spot :=
  .frame r ::
    match parent with
    | some s => h.walkSpots Object.parent? h.objects.size s
    | none => []

/-- The spots that a look concerns. -/
def Look.spots (h : Heap) {α : Type} : Look α → List Spot
  | size | cellCount | symbolCount | cell _ => []
  | frame r => [.frame r]
  | behind r => h.walkSpots Object.target? (h.objects.size + 1) r
  | own r key | definitionFault r key _ => h.ownSpots r key
  | keys r => .whole r :: h.storeSpots r
  | lengthFor r _ _ => [.whole r]
  | constructs f => constructsSpots h h.objects.size f
  | unbound r => h.walkSpots Object.unbound? h.objects.size r
  | prototypeFault r parent => h.prototypeSpots r parent

/-- The spots that it depends on what a change does. -/
def Change.spots (h : Heap) : Change → List Spot
  | define r key _ | write r key _ | drop r key => h.ownSpots r key
  | declare name => h.ownSpots globalRef name
  | trace r => [.frame r, .property r stackProperty.1]
  | resize r _ => [.whole r]
  | inherit r parent => h.prototypeSpots r parent
  | fixLength r | preventExtensions r | become r _ => [.frame r]
  | revoke revoker =>
    .frame revoker ::
      match (h.object revoker).kind with
      | .function (.builtin (.revoke r)) => [.frame r]
      | _ => []
  | allocate .. | allocateRevocable .. | newCell _ | writeCell .. | newSymbol => []

end ScriptHost
