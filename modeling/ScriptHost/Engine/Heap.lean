import ScriptHost.Engine.Value

/-!
# The heap

* `Family`: the built-in families of objects; `Family.prototype` is where their prototypes lie;
* `Heap`: the objects and lexical variables of a session;
* `Heap.object`, `Heap.allocate`, `Heap.modify`: an object, one more, one changed.
-/

namespace ScriptHost

/-! ### Families -/

/-- The built-in families of objects. -/
inductive Family
  | object
  | function
  | array
  | number
  | text
  | boolean
  | symbol
  | bigint
  | error (c : ErrorClass)
  | collection (c : CollectionClass)
  | promise
  | generator
  | date
  | regexp
  | buffer
  /-- What all lists of numbers share. -/
  | elementList
  | elements (t : ElementType)
  | view
  | iterator
  | arrayIterator
  | textIterator
  | mapIterator
  | setIterator
  | weakRef
  | finalizationRegistry
  | sharedBuffer
  | patternIterator
  | relay
  | wrapped
  deriving DecidableEq, Repr

namespace Family

/-- The place of the prototype of a family. -/
def prototype : Family → Ref
  | object => 0
  | function => 1
  | array => 2
  | number => 3
  | text => 4
  | boolean => 5
  | symbol => 6
  | bigint => 7
  | error c => 8 + c.ctorIdx
  | collection c => 17 + c.ctorIdx
  | promise => 21
  | generator => 22
  | date => 23
  | regexp => 24
  | buffer => 25
  | elementList => 26
  | elements t => 27 + t.ctorIdx
  | view => 39
  | iterator => 40
  | arrayIterator => 41
  | textIterator => 42
  | mapIterator => 43
  | setIterator => 44
  | weakRef => 45
  | finalizationRegistry => 46
  | sharedBuffer => 47
  | patternIterator => 48
  | relay => 49
  | wrapped => 50

/-- The families in the order in which their prototypes lie on the heap. -/
def all : List Family :=
  [object, function, array, number, text, boolean, symbol, bigint]
    ++ (ErrorClass.error :: ErrorClass.special).map error ++ CollectionClass.all.map collection
    ++ [promise, generator, date, regexp, buffer, elementList] ++ ElementType.all.map elements
    ++ [view, iterator, arrayIterator, textIterator, mapIterator, setIterator, weakRef,
      finalizationRegistry, sharedBuffer, patternIterator, relay, wrapped]

/-- The family of what walks through something. -/
def ofWalk : WalkClass → Family
  | .items => arrayIterator
  | .characters => textIterator
  | .map => mapIterator
  | .set => setIterator
  | .finds => patternIterator

/-- The family that a value other than an object belongs to. -/
def ofPrimitive? : Value → Option Family
  | .bool _ => some boolean
  | .number _ => some number
  | .string _ => some text
  | .bigint _ => some bigint
  | .symbol _ => some symbol
  | _ => none

end Family

/-- The place of the object that holds the global variables, after those of the prototypes. -/
def globalRef : Ref := 51

/-- The prototypes lie in the order of their families. -/
theorem Family.map_prototype_all : Family.all.map Family.prototype = List.range globalRef := by
  decide

/-! ### Objects -/

/-- The objects and lexical variables of a session. -/
structure Heap where
  objects : Array Object := #[]
  cells : Array Value := #[]
  /-- How many symbols scripts have made. -/
  symbols : Nat := 0

namespace Heap

/-- The object at a place. -/
def object (h : Heap) (r : Ref) : Object := h.objects.getD r { kind := .plain, prototype := none }

/-- The heap with one more object, and its place. -/
def allocate (h : Heap) (o : Object) : Ref × Heap :=
  (h.objects.size, { h with objects := h.objects.push o })

/-- The heap with the object at a place changed. -/
def modify (h : Heap) (r : Ref) (f : Object → Object) : Heap :=
  { h with objects := h.objects.modify r f }

end Heap

end ScriptHost
