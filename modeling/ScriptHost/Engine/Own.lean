import ScriptHost.Engine.Elements

/-!
# Own properties

* `Heap.own?`: the property that an object itself has under a key;
* `Heap.ownKeys`: the keys of the object itself, in the order in which it lists them;
* `Object.put`, `Object.remove`, `Object.truncate`: an object with its own properties changed.
-/

namespace ScriptHost

/-! ### Own properties -/

namespace Object

/-- The property that is kept with an object under a key. -/
def stored? (o : Object) (key : Key) : Option Property :=
  if o.elements.isEmpty then o.properties.lookup key
  else
    match key.index? with
    | some i => (o.elements[i]?).join.or (o.properties.lookup key)
    | none => o.properties.lookup key

/-- The indices of the elements that are there, as keys. -/
def elementKeys (o : Object) : List Key :=
  (o.elements.foldl (fun (i, acc) p => (i + 1, if p.isSome then Key.item i :: acc else acc))
    (0, [])).2.reverse

end Object

/-- The keys of the first items. -/
def itemKeys (count : Nat) : List Key := (List.range count).map Key.item

namespace Heap

/-- The property that an object itself has under a key; proxies have none. -/
def own? (h : Heap) (o : Object) (key : Key) : Option Property :=
  match o.kind with
  | .array length fixed =>
    if key = "length" then some (.data (.ofNat length) ⟨!fixed, false, false⟩) else o.stored? key
  | .boxed (.string t) =>
    match key.index?.bind t.unitAt? with
    | some u => some (.data (.string u) ⟨false, true, false⟩)
    | none => o.stored? key
  | .elements t buffer offset length =>
    match key.numeric? with
    | some d =>
      (d.placeBelow? (h.elementCount t buffer offset length)).map fun i =>
        .plain (h.element t buffer offset i)
    | none => o.stored? key
  | _ => o.stored? key

/-- The keys of an object itself, in the order in which it lists them. -/
def ownKeys (h : Heap) (o : Object) : List Key :=
  let kept := Key.arrange (o.properties.map Prod.fst)
  match o.kind with
  | .array .. =>
    let indices := kept.takeWhile fun k => k.index?.isSome
    o.elementKeys ++ indices ++ Key.named "length" :: kept.drop indices.length
  | .boxed (.string t) => itemKeys t.length ++ kept
  | .elements t buffer offset length => itemKeys (h.elementCount t buffer offset length) ++ kept
  | _ => o.elementKeys ++ kept

/-- Whether a key ends the search for a property, since only the object itself could have it. -/
def stopsAt (o : Object) (key : Key) : Bool :=
  match o.kind with
  | .elements .. => key.numeric?.isSome
  | _ => false

/-- What stands behind the proxies before an object, if that is within so many steps. -/
def unwrap (h : Heap) : Nat → Ref → Object
  | 0, r => h.object r
  | fuel + 1, r =>
    match (h.object r).kind with
    | .proxy target _ _ => h.unwrap fuel target
    | _ => h.object r

end Heap

/-! ### Changes to an object itself -/

/-- Properties with the one under a key replaced; a new one comes last. -/
def putIn (key : Key) (p : Property) : List (Key × Property) → List (Key × Property)
  | [] => [(key, p)]
  | (k, q) :: rest => if k = key then (key, p) :: rest else (k, q) :: putIn key p rest

namespace Object

/-- Whether the object keeps its first items apart from its other properties. -/
def hasItems (o : Object) : Bool :=
  match o.kind with
  | .array .. | .arguments => true
  | _ => false

/-- The object with the property under an index set.  The items that it keeps apart have no index
twice, and all other indices are beyond them. -/
def putItem (o : Object) (i : Nat) (key : Key) (p : Property) : Object :=
  if i < o.elements.size then { o with elements := o.elements.setIfInBounds i (some p) }
  else if o.hasItems && i = o.elements.size && (o.properties.lookup key).isNone then
    { o with elements := o.elements.push (some p) }
  else { o with properties := putIn key p o.properties }

/-- The object with a length that covers an index, if it is an array. -/
def cover (o : Object) (i : Nat) : Object :=
  match o.kind with
  | .array length fixed => { o with kind := .array (max length (i + 1)) fixed }
  | _ => o

/-- The object with the property under a key set. -/
def put (o : Object) (key : Key) (p : Property) : Object :=
  match key.index? with
  | some i => (o.putItem i key p).cover i
  | none => { o with properties := putIn key p o.properties }

/-- The object without the property under a key. -/
def remove (o : Object) (key : Key) : Object :=
  match key.index? with
  | some i =>
    if i < o.elements.size then { o with elements := o.elements.setIfInBounds i none }
    else { o with properties := o.properties.filter fun e => e.1 ≠ key }
  | none => { o with properties := o.properties.filter fun e => e.1 ≠ key }

/-- The least length that all items leave that cannot be removed. -/
def leastLength (o : Object) : Nat :=
  let stuck (p : Option Property) : Bool := p.any fun p => !p.attributes.configurable
  let inItems :=
    (o.elements.foldl (fun (i, n) p => (i + 1, if stuck p then i + 1 else n)) (0, 0)).2
  o.properties.foldl (fun n (k, p) =>
    match k.index? with
    | some i => if p.attributes.configurable then n else max n (i + 1)
    | none => n) inItems

/-- The array with the given length, and no items from there on. -/
def truncate (o : Object) (length : Nat) : Object :=
  match o.kind with
  | .array _ fixed =>
    { o with
      kind := .array length fixed
      elements := o.elements.take length
      properties := o.properties.filter fun e => e.1.index?.all fun i => i < length }
  | _ => o

end Object

end ScriptHost
