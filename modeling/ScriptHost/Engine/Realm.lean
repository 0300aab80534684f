import ScriptHost.Engine.Writing

/-!
# What a session starts with

* `Realm.addMethods`, `Realm.addConstructor`, `Realm.addGetter`: the parts of it;
* `Realm.addAll`: the constructors and global variables that every session has;
* `Heap.bare`, `Heap.initial`: the heap of a session before and after they are there.

All of it is made by a script.
-/

namespace ScriptHost

namespace Realm

/-! ### Parts -/

/-- Sets a property of an object. -/
def define (r : Ref) (key : Key) (p : Property) : Script Unit :=
  .change (.define r key (.ofProperty p))

/-- Sets several properties of an object. -/
def defineAll (r : Ref) (ps : List (String × Property)) : Script Unit :=
  ps.forM fun (name, p) => define r name p

/-- A new built-in function. -/
def addFunction (b : Builtin) (name : String) (parameters : Nat)
    (scripted : (Callable.builtin b).isScripted = true := by intros; rfl) : Script Ref :=
  allocate (functionObject (.builtin b) (.unicode name) parameters) scripted

/-- Gives an object a method. -/
def addMethod (r : Ref) (name : String) (parameters : Nat) (b : Builtin)
    (scripted : (Callable.builtin b).isScripted = true := by intros; rfl) : Script Unit := do
  let f ← addFunction b name parameters scripted
  define r name (.hidden (.object f))

/-- Gives an object the methods of a table. -/
def addMethods {α : Type} (r : Ref) (table : MethodTable α) (b : α → Builtin)
    (scripted : ∀ f, (Callable.builtin (b f)).isScripted = true := by intros; rfl) : Script Unit :=
  table.forM fun (name, parameters, f) => addMethod r name parameters (b f) (scripted f)

/-- Gives an object a method under a symbol. -/
def addKnown (r : Ref) (w : WellKnown) (parameters : Nat) (b : Builtin) (a : Attributes)
    (scripted : (Callable.builtin b).isScripted = true := by intros; rfl) : Script Unit := do
  let f ← addFunction b ("[Symbol." ++ w.name ++ "]") parameters scripted
  define r (.known w) (.data (.object f) a)

/-- Gives a property of an object another key besides. -/
def nameAgain (r : Ref) (source target : Key) : Script Unit := do
  match ← readOwn r source with
  | some p => define r target p
  | none => return

/-- Gives an object a property that a function computes. -/
def addGetter (r : Ref) (key : Key) (name : String) (b : Builtin)
    (scripted : (Callable.builtin b).isScripted = true := by intros; rfl) : Script Unit := do
  let f ← addFunction b ("get " ++ name) 0 scripted
  define r key ⟨.accessor (.object f) .undefined, .label⟩

/-- Gives an object the word by which it describes itself. -/
def addWord (r : Ref) (word : String) : Script Unit :=
  define r (.known .toStringTag) (.data (.ofString word) .label)

/-- Gives a constructor the property that tells which class its objects make others of. -/
def addSpecies (r : Ref) : Script Unit :=
  addGetter r (.known .species) "[Symbol.species]" .receiver

/-- Makes a function the constructor of a family. -/
def linkClass (c : Ref) (f : Family) : Script Unit := do
  define c "prototype" (.data (.object f.prototype) .fixed)
  define f.prototype "constructor" (.hidden (.object c))

/-- A new constructor that inherits from `parent`, for objects of a family. -/
def addClass (c : Constructor) (name : String) (parameters : Nat) (f : Family) (parent : Ref) :
    Script Ref := do
  let r ← allocate { functionObject (.builtin (.construct c)) (.unicode name) parameters with
    prototype := some parent }
  linkClass r f
  return r

/-- The same under its global name. -/
def addSubclass (c : Constructor) (name : String) (parameters : Nat) (f : Family) (parent : Ref) :
    Script Ref := do
  let r ← addClass c name parameters f parent
  define globalRef name (.hidden (.object r))
  return r

/-- A new constructor under its global name. -/
def addConstructor (c : Constructor) (name : String) (parameters : Nat) (f : Family) :
    Script Ref :=
  addSubclass c name parameters f Family.function.prototype

/-- A new plain object under a global name, with a word for itself. -/
def addModule (name : String) : Script Ref := do
  let r ← newObject
  define globalRef name (.hidden (.object r))
  return r

/-! ### Prototypes -/

/-- What the prototype of a family is itself. -/
def prototypeKind : Family → Kind
  | .function => .function (.builtin (.function .nothing))
  | .array => .array 0 false
  | .number => .boxed (.number (.zero false))
  | .text => .boxed (.ofString "")
  | .boolean => .boxed (.bool false)
  | _ => .plain

/-- What the prototype of a family inherits from. -/
def prototypeParent : Family → Option Ref
  | .object => none
  | .error .error => some Family.object.prototype
  | .error _ => some (Family.error .error).prototype
  | .elements _ => some Family.elementList.prototype
  | .arrayIterator | .textIterator | .mapIterator | .setIterator | .patternIterator | .relay
  | .wrapped | .generator =>
    some Family.iterator.prototype
  | _ => some Family.object.prototype

/-- The prototype of a family, before it has methods. -/
def barePrototype (f : Family) : Object where
  kind := prototypeKind f
  prototype := prototypeParent f
  properties := match f with
    | .function => [("length", .data (.ofNat 0) .label), ("name", .data (.ofString "") .label)]
    | _ => []

/-! ### Families -/

/-- A number that does not change. -/
def constant (digits : Nat) (exponent : Int) : Property :=
  .data (.number (.ofDecimal false digits exponent)) .fixed

def addObjects : Script Unit := do
  let c ← addConstructor .object "Object" 1 .object
  addMethods c ObjectMethod.statics .object
  let p := Family.object.prototype
  addMethods p ObjectMethod.methods .object
  let getter ← addFunction (.object .protoGetter) "get __proto__" 0
  let setter ← addFunction (.object .protoSetter) "set __proto__" 1
  define p "__proto__" ⟨.accessor (.object getter) (.object setter), .label⟩
  addMethods p ObjectMethod.accessorMethods .object

def addFunctions : Script Unit := do
  let p := Family.function.prototype
  let forbidden ← addFunction (.function .forbidden) "" 0
  for name in ["caller", "arguments"] do
    define p name ⟨.accessor (.object forbidden) (.object forbidden), .label⟩
  addMethods p FunctionMethod.methods .function
  addKnown p .hasInstance 1 (.function .hasInstance) .fixed
  addGetter p "fileName" "fileName" (.function .fileName)
  for name in ["lineNumber", "columnNumber"] do
    addGetter p name name (.function .place)
  let _ ← addConstructor .function "Function" 1 .function

/-- Gives the errors of a class their name and an empty message. -/
def addErrorName (e : ErrorClass) : Script Unit :=
  defineAll (Family.error e).prototype
    [("name", .hidden (.ofString e.name)), ("message", .hidden (.ofString ""))]

def addErrors : Script Unit := do
  addMethod (Family.error .error).prototype "toString" 0 (.global .errorToText)
  addErrorName .error
  let base ← addConstructor (.error .error) "Error" 1 (.error .error)
  addMethod base "isError" 1 (.global .isError)
  addMethod base "captureStackTrace" 2 (.global .captureStack)
  define base "stackTraceLimit" (.hidden (.ofNat 10))
  define base "prepareStackTrace" (.hidden .undefined)
  for e in ErrorClass.special do
    let parameters := if e = .aggregateError then 2 else 1
    addErrorName e
    let _ ← addSubclass (.error e) e.name parameters (.error e) base

def addArrays : Script Unit := do
  let p := Family.array.prototype
  addMethods p ArrayMethod.methods .array
  nameAgain p "values" (.known .iterator)
  let c ← addConstructor .array "Array" 1 .array
  addMethods c ArrayMethod.statics .array
  addSpecies c
  let unscopables ← newPlain none
  for name in ["at", "copyWithin", "entries", "fill", "find", "findIndex", "findLast",
      "findLastIndex", "flat", "flatMap", "includes", "keys", "toReversed", "toSorted",
      "toSpliced", "values"] do
    define unscopables name (.plain (.bool true))
  define p (.known .unscopables) (.data (.object unscopables) .label)

def addNumbers : Script Unit := do
  addMethods Family.number.prototype PrimitiveMethod.numberMethods .primitive
  let number ← addConstructor .number "Number" 1 .number
  for name in ["parseInt", "parseFloat"] do
    match ← readOwn globalRef name with
    | some p => define number name p
    | none => pure ()
  addMethods number PrimitiveMethod.numberStatics .primitive
  defineAll number [
    ("MAX_VALUE", constant 17976931348623157 292), ("MIN_VALUE", constant 5 (-324)),
    ("NaN", .data (.number .nan) .fixed),
    ("NEGATIVE_INFINITY", .data (.number (.infinity true)) .fixed),
    ("POSITIVE_INFINITY", .data (.number (.infinity false)) .fixed),
    ("EPSILON", constant 2220446049250313 (-31)),
    ("MAX_SAFE_INTEGER", .data (.ofInt 9007199254740991) .fixed),
    ("MIN_SAFE_INTEGER", .data (.ofInt (-9007199254740991)) .fixed)]
  addMethods Family.boolean.prototype PrimitiveMethod.boolMethods .primitive
  let _ ← addConstructor .boolean "Boolean" 1 .boolean

def addBigIntegers : Script Unit := do
  addMethods Family.bigint.prototype PrimitiveMethod.bigintMethods .primitive
  addWord Family.bigint.prototype "BigInt"
  let bigint ← addConstructor .bigint "BigInt" 1 .bigint
  addMethods bigint PrimitiveMethod.bigintStatics .primitive

def addSymbols : Script Unit := do
  let p := Family.symbol.prototype
  addMethods p PrimitiveMethod.symbolMethods .primitive
  addKnown p .toPrimitive 1 (.primitive .symbolValue) .label
  addWord p "Symbol"
  addGetter p "description" "description" (.primitive .symbolDescription)
  let symbol ← addConstructor .symbol "Symbol" 0 .symbol
  addMethods symbol PrimitiveMethod.symbolStatics .primitive
  for w in WellKnown.all do
    define symbol w.name (.data (.symbol (.wellKnown w)) .fixed)

def addTexts : Script Unit := do
  let c ← addConstructor .text "String" 1 .text
  addMethods c TextMethod.statics .text
  let p := Family.text.prototype
  define p "length" (.data (.ofNat 0) .label)
  addMethods p TextMethod.methods .text
  nameAgain p "trimEnd" "trimRight"
  nameAgain p "trimStart" "trimLeft"
  addKnown p .iterator 0 (.text .iterator) .hidden

def addMathematics : Script Unit := do
  let r ← addModule "Math"
  addMethods r MathFunction.functions .math
  addWord r "Math"
  defineAll r [
    ("E", constant 2718281828459045 (-15)), ("LN10", constant 2302585092994046 (-15)),
    ("LN2", constant 6931471805599453 (-16)), ("LOG2E", constant 14426950408889634 (-16)),
    ("LOG10E", constant 4342944819032518 (-16)), ("PI", constant 3141592653589793 (-15)),
    ("SQRT1_2", constant 7071067811865476 (-16)), ("SQRT2", constant 14142135623730951 (-16))]

def addReflection : Script Unit := do
  let r ← addModule "Reflect"
  addMethods r ReflectFunction.functions .reflect
  addWord r "Reflect"

def addProxies : Script Unit := do
  let proxy ← addFunction (.construct .proxy) "Proxy" 2
  addMethod proxy "revocable" 2 (.global .proxyRevocable)
  define globalRef "Proxy" (.hidden (.object proxy))

def addDocuments : Script Unit := do
  let r ← addModule "JSON"
  addMethod r "parse" 2 (.global .jsonParse)
  addMethod r "stringify" 3 (.global .jsonStringify)
  addWord r "JSON"

def addCollections : Script Unit :=
  CollectionClass.all.forM fun c => do
    let f := Family.collection c
    addMethods f.prototype (CollectionMethod.methods c) (.collection c)
    if !c.isWeak then
      addGetter f.prototype "size" "size" (.collection c .size)
      addMethods f.prototype (CollectionMethod.furtherMethods c) (.collection c)
      if !c.isMap then
        nameAgain f.prototype "values" "keys"
        addMethod f.prototype "entries" 0 (.collection c .entries)
      nameAgain f.prototype (if c.isMap then "entries" else "values") (.known .iterator)
    addWord f.prototype c.name
    let r ← addConstructor (.collection c) c.name 0 f
    if !c.isWeak then
      addMethod r "groupBy" 2 .groupEntries
      addSpecies r

/-- The object that generator functions inherit from, and its constructor, which has no global
name. -/
def addGenerators : Script Unit := do
  let functions ← newPlain (some Family.function.prototype)
  addWord functions "GeneratorFunction"
  define functions "prototype" (.data (.object Family.generator.prototype) .label)
  define Family.generator.prototype "constructor" (.data (.object functions) .label)
  let c ← addFunction (.construct .function) "GeneratorFunction" 1
  define c "prototype" (.data (.object functions) .fixed)
  define functions "constructor" (.data (.object c) .label)

def addIterators : Script Unit := do
  let p := Family.iterator.prototype
  addMethods p IteratorMethod.methods .iteration
  addKnown p .iterator 0 (.iteration .itself) .hidden
  addWord p "Iterator"
  let c ← addConstructor .iterator "Iterator" 0 .iterator
  addMethod c "from" 1 (.global .iteratorFrom)
  for w in WalkClass.all do
    let p := (Family.ofWalk w).prototype
    addMethod p "next" 0 (.iteration (.next w))
    addWord p w.word
  addMethods Family.relay.prototype IteratorMethod.relayMethods .iteration
  addWord Family.relay.prototype "Iterator Helper"
  addMethods Family.wrapped.prototype IteratorMethod.wrappedMethods .iteration
  addMethods Family.generator.prototype IteratorMethod.generatorMethods .iteration
  addWord Family.generator.prototype "Generator"
  addGenerators

/-- A class of buffers, which several threads may share or not. -/
def addBufferClass (shared : Bool) (name : String) (f : Family) : Script Ref := do
  let p := f.prototype
  (BufferMethod.getters shared).forM fun (name, f) => addGetter p name name (.buffer shared f)
  addMethods p (BufferMethod.methods shared) (.buffer shared)
  addWord p name
  let c ← addConstructor (.buffer shared) name 1 f
  addSpecies c
  return c

/-- What all lists of numbers share; its constructor makes none. -/
def addElementLists : Script Ref := do
  let p := Family.elementList.prototype
  addGetter p "length" "length" (.elements .length)
  addMethods p ElementMethod.leadingMethods .elements
  ElementMethod.getters.forM fun (name, f) => addGetter p name name (.elements f)
  addMethods p ElementMethod.methods .elements
  addGetter p (.known .toStringTag) "[Symbol.toStringTag]" (.elements .tag)
  nameAgain p "values" (.known .iterator)
  match ← readOwn Family.array.prototype "toString" with
  | some t => define p "toString" t
  | none => pure ()
  let c ← addFunction (.construct (.elements none)) "TypedArray" 0
  addMethods c ElementMethod.statics .elements
  addSpecies c
  linkClass c .elementList
  return c

def addBuffers : Script Unit := do
  let buffer ← addBufferClass false "ArrayBuffer" .buffer
  addMethod buffer "isView" 1 (.buffer false .isView)
  let _ ← addBufferClass true "SharedArrayBuffer" .sharedBuffer
  let list ← addElementLists
  for t in ElementType.all do
    let c ← addSubclass (.elements (some t)) t.arrayName 3 (.elements t) list
    let width : Property := .data (.ofNat t.width) .fixed
    define c "BYTES_PER_ELEMENT" width
    define (Family.elements t).prototype "BYTES_PER_ELEMENT" width
  let view := Family.view.prototype
  ViewMethod.getters.forM fun (name, f) => addGetter view name name (.view f)
  addMethods view ViewMethod.methods .view
  addWord view "DataView"
  let _ ← addConstructor .view "DataView" 1 .view
  let atomics ← addModule "Atomics"
  addMethods atomics AtomicFunction.functions .atomic
  addWord atomics "Atomics"

def addDates : Script Unit := do
  let p := Family.date.prototype
  addMethods p DateMethod.methods .date
  nameAgain p "toUTCString" "toGMTString"
  addKnown p .toPrimitive 1 (.date .toPrimitive) .label
  let c ← addConstructor .date "Date" 7 .date
  addMethods c DateMethod.statics .date

def addPatterns : Script Unit := do
  let p := Family.regexp.prototype
  addGetter p "flags" "flags" (.pattern .flags)
  addGetter p "source" "source" (.pattern .source)
  PatternMethod.flagNames.forM fun (name, letter) => addGetter p name name (.pattern (.flag letter))
  addMethods p PatternMethod.methods .pattern
  addKnown p .replacing 2 (.pattern .replacing) .hidden
  addKnown p .matching 1 (.pattern .matching) .hidden
  addKnown p .matchingAll 1 (.pattern .matchingAll) .hidden
  addKnown p .searching 1 (.pattern .searching) .hidden
  addKnown p .splitting 2 (.pattern .splitting) .hidden
  let c ← addConstructor .regexp "RegExp" 2 .regexp
  addSpecies c

def addPromises : Script Unit := do
  let p := Family.promise.prototype
  addMethods p PromiseMethod.methods .promise
  addWord p "Promise"
  let c ← addConstructor .promise "Promise" 1 .promise
  addMethods c PromiseMethod.statics .promise
  addSpecies c

def addReferences : Script Unit := do
  addMethod Family.weakRef.prototype "deref" 0 (.global .weakTarget)
  addWord Family.weakRef.prototype "WeakRef"
  let _ ← addConstructor .weakRef "WeakRef" 1 .weakRef
  let p := Family.finalizationRegistry.prototype
  addMethod p "register" 2 (.global .register)
  addMethod p "unregister" 1 (.global .unregister)
  addWord p "FinalizationRegistry"
  let _ ← addConstructor .finalizationRegistry "FinalizationRegistry" 1 .finalizationRegistry

/-! ### Global variables -/

def addGlobals : Script Unit := do
  addMethods globalRef GlobalFunction.globals .global
  defineAll globalRef [("Infinity", .data (.number (.infinity false)) .fixed),
    ("NaN", .data (.number .nan) .fixed), ("undefined", .data .undefined .fixed)]
  addWord globalRef "global"

/-- The clock that scripts can look at. -/
def addClock : Script Unit := do
  let r ← newObject
  addMethod r "now" 0 (.global .performanceNow)
  define r "timeOrigin" (.data (.ofNat 0) ⟨false, true, true⟩)
  define globalRef "performance" (.data (.object r) ⟨true, true, true⟩)

/-- All that every session has. -/
def addAll : Script Unit := do
  addObjects
  addFunctions
  addErrors
  addIterators
  addArrays
  addGlobals
  addNumbers
  addTexts
  addMathematics
  addReflection
  addSymbols
  addMethod globalRef "eval" 1 (.global .eval)
  define globalRef "globalThis" (.hidden (.object globalRef))
  addDates
  addPatterns
  addDocuments
  addProxies
  addCollections
  addBuffers
  addPromises
  addBigIntegers
  addReferences
  addClock

end Realm

/-- Nothing is called while a heap is built. -/
def Apply.none : Apply := fun _ _ _ m => .ok .undefined m

/-- The heap after a script that calls nothing. -/
def Heap.after (h : Heap) (s : Script Unit) : Heap :=
  match s.run .none { heap := h, backend := .empty, logs := {} } with
  | .ok _ m | .error _ m => m.heap

/-- The heap with the prototypes of all families, and nothing on them. -/
def Heap.bare : Heap :=
  let global : Object := { kind := .plain, prototype := some Family.object.prototype }
  { objects := (Family.all.map Realm.barePrototype).toArray.push global }

/-- The heap of a session before its capabilities are there. -/
def Heap.initial : Heap := bare.after Realm.addAll

end ScriptHost
