import ScriptHost.Number.Narrow

/-!
# Built-in functions

Which functions every session has, by family, with their names and the number of parameters that
they declare.  What they do is told in the modules of the library.

* `Builtin`: a built-in function;
* `Builtin.constructs`: whether it makes objects;
* tables such as `ArrayMethod.methods`: names and parameter counts, in the order in which objects
  list them.
-/

namespace ScriptHost

/-! ### Classes of objects -/

/-- The classes of error objects. -/
inductive ErrorClass
  | error
  | evalError
  | rangeError
  | referenceError
  | syntaxError
  | typeError
  | uriError
  | internalError
  | aggregateError
  deriving DecidableEq, Repr

namespace ErrorClass

/-- The classes other than the one that they all inherit from. -/
def special : List ErrorClass :=
  [evalError, rangeError, referenceError, syntaxError, typeError, uriError, internalError,
    aggregateError]

def name : ErrorClass → String
  | error => "Error"
  | evalError => "EvalError"
  | rangeError => "RangeError"
  | referenceError => "ReferenceError"
  | syntaxError => "SyntaxError"
  | typeError => "TypeError"
  | uriError => "URIError"
  | internalError => "InternalError"
  | aggregateError => "AggregateError"

end ErrorClass

/-- The classes of objects that hold entries in the order in which they came. -/
inductive CollectionClass
  | map
  | set
  | weakMap
  | weakSet
  deriving DecidableEq, Repr

namespace CollectionClass

def all : List CollectionClass := [map, set, weakMap, weakSet]

def name : CollectionClass → String
  | map => "Map"
  | set => "Set"
  | weakMap => "WeakMap"
  | weakSet => "WeakSet"

/-- Whether a key has a value of its own. -/
def isMap (c : CollectionClass) : Bool := c = map || c = weakMap

/-- Whether only objects and symbols can be keys, and nothing can be listed. -/
def isWeak (c : CollectionClass) : Bool := c = weakMap || c = weakSet

end CollectionClass

/-- The kinds of numbers that a list of bytes can be read as. -/
inductive ElementType
  | uint8Clamped
  | int8
  | uint8
  | int16
  | uint16
  | int32
  | uint32
  | bigInt64
  | bigUint64
  | float16
  | float32
  | float64
  deriving DecidableEq, Repr

namespace ElementType

def all : List ElementType :=
  [uint8Clamped, int8, uint8, int16, uint16, int32, uint32, bigInt64, bigUint64, float16,
    float32, float64]

def name : ElementType → String
  | uint8Clamped => "Uint8Clamped"
  | int8 => "Int8"
  | uint8 => "Uint8"
  | int16 => "Int16"
  | uint16 => "Uint16"
  | int32 => "Int32"
  | uint32 => "Uint32"
  | bigInt64 => "BigInt64"
  | bigUint64 => "BigUint64"
  | float16 => "Float16"
  | float32 => "Float32"
  | float64 => "Float64"

/-- The name of the lists of such numbers. -/
def arrayName (t : ElementType) : String := t.name ++ "Array"

/-- The bytes of one number. -/
def width : ElementType → Nat
  | uint8Clamped | int8 | uint8 => 1
  | int16 | uint16 | float16 => 2
  | int32 | uint32 | float32 => 4
  | bigInt64 | bigUint64 | float64 => 8

end ElementType

/-! ### Families of functions -/

/-- A table of functions: name, number of parameters, function. -/
abbrev MethodTable (α : Type) := List (String × Nat × α)

/-- Functions of `Object` and of the objects themselves. -/
inductive ObjectMethod
  | create
  | getPrototypeOf
  | setPrototypeOf
  | defineProperty
  | defineProperties
  | getOwnPropertyNames
  | getOwnPropertySymbols
  | groupBy
  | keys
  | values
  | entries
  | isExtensible
  | preventExtensions
  | getOwnPropertyDescriptor
  | getOwnPropertyDescriptors
  | sameValue
  | assign
  | sealUp
  | freeze
  | isSealed
  | isFrozen
  | fromEntries
  | hasOwn
  | toText
  | toLocaleText
  | valueOf
  | hasOwnProperty
  | isPrototypeOf
  | propertyIsEnumerable
  | protoGetter
  | protoSetter
  | defineGetter
  | defineSetter
  | lookupGetter
  | lookupSetter

namespace ObjectMethod

def statics : MethodTable ObjectMethod :=
  [("create", 2, create), ("getPrototypeOf", 1, getPrototypeOf),
    ("setPrototypeOf", 2, setPrototypeOf), ("defineProperty", 3, defineProperty),
    ("defineProperties", 2, defineProperties), ("getOwnPropertyNames", 1, getOwnPropertyNames),
    ("getOwnPropertySymbols", 1, getOwnPropertySymbols), ("groupBy", 2, groupBy),
    ("keys", 1, keys), ("values", 1, values), ("entries", 1, entries),
    ("isExtensible", 1, isExtensible), ("preventExtensions", 1, preventExtensions),
    ("getOwnPropertyDescriptor", 2, getOwnPropertyDescriptor),
    ("getOwnPropertyDescriptors", 1, getOwnPropertyDescriptors), ("is", 2, sameValue),
    ("assign", 2, assign), ("seal", 1, sealUp), ("freeze", 1, freeze), ("isSealed", 1, isSealed),
    ("isFrozen", 1, isFrozen), ("fromEntries", 1, fromEntries), ("hasOwn", 2, hasOwn)]

def methods : MethodTable ObjectMethod :=
  [("toString", 0, toText), ("toLocaleString", 0, toLocaleText), ("valueOf", 0, valueOf),
    ("hasOwnProperty", 1, hasOwnProperty), ("isPrototypeOf", 1, isPrototypeOf),
    ("propertyIsEnumerable", 1, propertyIsEnumerable)]

/-- The methods that come after the property through which prototypes are read and set. -/
def accessorMethods : MethodTable ObjectMethod :=
  [("__defineGetter__", 2, defineGetter), ("__defineSetter__", 2, defineSetter),
    ("__lookupGetter__", 1, lookupGetter), ("__lookupSetter__", 1, lookupSetter)]

end ObjectMethod

/-- Methods of functions. -/
inductive FunctionMethod
  | call
  | apply
  | bind
  | toText
  | hasInstance
  /-- The function that gives nothing. -/
  | nothing
  /-- The function that complains about being called. -/
  | forbidden
  /-- The name of the source in which a function is written. -/
  | fileName
  /-- Where in the source a function is written. -/
  | place

namespace FunctionMethod

def methods : MethodTable FunctionMethod :=
  [("call", 1, call), ("apply", 2, apply), ("bind", 1, bind), ("toString", 0, toText)]

end FunctionMethod

/-- Functions of `Array` and methods of arrays. -/
inductive ArrayMethod
  | isArray
  | ofIterable
  | ofItems
  | atIndex
  | withItem
  | concat
  | every
  | any
  | forEach
  | map
  | filter
  | reduce
  | reduceRight
  | fill
  | find
  | findIndex
  | findLast
  | findLastIndex
  | indexOf
  | lastIndexOf
  | includes
  | join
  | toText
  | toLocaleText
  | pop
  | push
  | shift
  | unshift
  | reverse
  | toReversed
  | sort
  | toSorted
  | slice
  | splice
  | toSpliced
  | copyWithin
  | flatMap
  | flat
  | values
  | keys
  | entries

namespace ArrayMethod

def statics : MethodTable ArrayMethod :=
  [("isArray", 1, isArray), ("from", 1, ofIterable), ("of", 0, ofItems)]

def methods : MethodTable ArrayMethod :=
  [("at", 1, atIndex), ("with", 2, withItem), ("concat", 1, concat), ("every", 1, every),
    ("some", 1, any), ("forEach", 1, forEach), ("map", 1, map), ("filter", 1, filter),
    ("reduce", 1, reduce), ("reduceRight", 1, reduceRight), ("fill", 1, fill), ("find", 1, find),
    ("findIndex", 1, findIndex), ("findLast", 1, findLast), ("findLastIndex", 1, findLastIndex),
    ("indexOf", 1, indexOf), ("lastIndexOf", 1, lastIndexOf), ("includes", 1, includes),
    ("join", 1, join), ("toString", 0, toText), ("toLocaleString", 0, toLocaleText),
    ("pop", 0, pop), ("push", 1, push), ("shift", 0, shift), ("unshift", 1, unshift),
    ("reverse", 0, reverse), ("toReversed", 0, toReversed), ("sort", 1, sort),
    ("toSorted", 1, toSorted), ("slice", 2, slice), ("splice", 2, splice),
    ("toSpliced", 2, toSpliced), ("copyWithin", 2, copyWithin), ("flatMap", 1, flatMap),
    ("flat", 0, flat), ("values", 0, values), ("keys", 0, keys), ("entries", 0, entries)]

end ArrayMethod

/-- Functions of `String` and methods of texts. -/
inductive TextMethod
  | ofUnits
  | ofCodes
  | raw
  | atIndex
  | codeAt
  | unitAt
  | concat
  | pointAt
  | isWellFormed
  | toWellFormed
  | indexOf
  | lastIndexOf
  | includes
  | endsWith
  | startsWith
  | matching
  | matchingAll
  | search
  | split
  | substring
  | substr
  | slice
  | replicate
  | replace
  | replaceAll
  | padEnd
  | padStart
  | trim
  | trimEnd
  | trimStart
  | toText
  | valueOf
  | compare
  | lower
  | upper
  | iterator
  /-- The text between two tags, the first of which has a field if there is one. -/
  | tagged (tag field : String)
  | normalize

namespace TextMethod

def statics : MethodTable TextMethod :=
  [("fromCharCode", 1, ofUnits), ("fromCodePoint", 1, ofCodes), ("raw", 1, raw)]

def methods : MethodTable TextMethod :=
  [("at", 1, atIndex), ("charCodeAt", 1, codeAt), ("charAt", 1, unitAt), ("concat", 1, concat),
    ("codePointAt", 1, pointAt), ("isWellFormed", 0, isWellFormed),
    ("toWellFormed", 0, toWellFormed), ("indexOf", 1, indexOf), ("lastIndexOf", 1, lastIndexOf),
    ("includes", 1, includes), ("endsWith", 1, endsWith), ("startsWith", 1, startsWith),
    ("match", 1, matching), ("matchAll", 1, matchingAll), ("search", 1, search),
    ("split", 2, split), ("substring", 2, substring), ("substr", 2, substr), ("slice", 2, slice),
    ("repeat", 1, replicate), ("replace", 2, replace), ("replaceAll", 2, replaceAll),
    ("padEnd", 1, padEnd), ("padStart", 1, padStart), ("trim", 0, trim), ("trimEnd", 0, trimEnd),
    ("trimRight", 0, trimEnd), ("trimStart", 0, trimStart), ("trimLeft", 0, trimStart),
    ("toString", 0, toText), ("valueOf", 0, valueOf), ("localeCompare", 1, compare),
    ("normalize", 0, normalize), ("toLowerCase", 0, lower), ("toUpperCase", 0, upper),
    ("toLocaleLowerCase", 0, lower), ("toLocaleUpperCase", 0, upper),
    ("anchor", 1, tagged "a" "name"),
    ("big", 0, tagged "big" ""), ("blink", 0, tagged "blink" ""), ("bold", 0, tagged "b" ""),
    ("fixed", 0, tagged "tt" ""), ("fontcolor", 1, tagged "font" "color"),
    ("fontsize", 1, tagged "font" "size"), ("italics", 0, tagged "i" ""),
    ("link", 1, tagged "a" "href"), ("small", 0, tagged "small" ""),
    ("strike", 0, tagged "strike" ""), ("sub", 0, tagged "sub" ""), ("sup", 0, tagged "sup" "")]

end TextMethod

/-- Functions of `Number` and methods of numbers, truth values, big integers and symbols. -/
inductive PrimitiveMethod
  | isNaN
  | isFinite
  | isInteger
  | isSafeInteger
  | toExponential
  | toFixed
  | toPrecision
  | numberToText
  | numberToLocaleText
  | numberValue
  | boolToText
  | boolValue
  | bigintToText
  | bigintValue
  | asUnsigned
  | asSigned
  | symbolFor
  | symbolKey
  | symbolToText
  | symbolValue
  | symbolDescription

namespace PrimitiveMethod

def numberStatics : MethodTable PrimitiveMethod :=
  [("isNaN", 1, isNaN), ("isFinite", 1, isFinite), ("isInteger", 1, isInteger),
    ("isSafeInteger", 1, isSafeInteger)]

def numberMethods : MethodTable PrimitiveMethod :=
  [("toExponential", 1, toExponential), ("toFixed", 1, toFixed), ("toPrecision", 1, toPrecision),
    ("toString", 1, numberToText), ("toLocaleString", 0, numberToLocaleText),
    ("valueOf", 0, numberValue)]

def boolMethods : MethodTable PrimitiveMethod :=
  [("toString", 0, boolToText), ("valueOf", 0, boolValue)]

def bigintStatics : MethodTable PrimitiveMethod :=
  [("asUintN", 2, asUnsigned), ("asIntN", 2, asSigned)]

def bigintMethods : MethodTable PrimitiveMethod :=
  [("toString", 0, bigintToText), ("valueOf", 0, bigintValue)]

def symbolStatics : MethodTable PrimitiveMethod :=
  [("for", 1, symbolFor), ("keyFor", 1, symbolKey)]

def symbolMethods : MethodTable PrimitiveMethod :=
  [("toString", 0, symbolToText), ("valueOf", 0, symbolValue)]

end PrimitiveMethod

/-- The functions of `Math`. -/
inductive MathFunction
  | min
  | max
  | abs
  | floor
  | ceil
  | round
  | sqrt
  | acos
  | asin
  | atan
  | atan2
  | cos
  | exp
  | log
  | pow
  | sin
  | tan
  | trunc
  | sign
  | cosh
  | sinh
  | tanh
  | acosh
  | asinh
  | atanh
  | expm1
  | log1p
  | log2
  | log10
  | cbrt
  | hypot
  | random
  /-- Rounds to a narrower format. -/
  | fround (f : NarrowFormat)
  | imul
  | clz32
  | sumPrecise

namespace MathFunction

def functions : MethodTable MathFunction :=
  [("min", 2, min), ("max", 2, max), ("abs", 1, abs), ("floor", 1, floor), ("ceil", 1, ceil),
    ("round", 1, round), ("sqrt", 1, sqrt), ("acos", 1, acos), ("asin", 1, asin),
    ("atan", 1, atan), ("atan2", 2, atan2), ("cos", 1, cos), ("exp", 1, exp), ("log", 1, log),
    ("pow", 2, pow), ("sin", 1, sin), ("tan", 1, tan), ("trunc", 1, trunc), ("sign", 1, sign),
    ("cosh", 1, cosh), ("sinh", 1, sinh), ("tanh", 1, tanh), ("acosh", 1, acosh),
    ("asinh", 1, asinh), ("atanh", 1, atanh), ("expm1", 1, expm1), ("log1p", 1, log1p),
    ("log2", 1, log2), ("log10", 1, log10), ("cbrt", 1, cbrt), ("hypot", 2, hypot),
    ("random", 0, random), ("f16round", 1, fround .half),
    ("fround", 1, fround .single), ("imul", 2, imul), ("clz32", 1, clz32),
    ("sumPrecise", 1, sumPrecise)]

end MathFunction

/-- The functions of `Reflect`. -/
inductive ReflectFunction
  | apply
  | construct
  | defineProperty
  | deleteProperty
  | get
  | getOwnPropertyDescriptor
  | getPrototypeOf
  | has
  | isExtensible
  | ownKeys
  | preventExtensions
  | set
  | setPrototypeOf

namespace ReflectFunction

def functions : MethodTable ReflectFunction :=
  [("apply", 3, apply), ("construct", 2, construct), ("defineProperty", 3, defineProperty),
    ("deleteProperty", 2, deleteProperty), ("get", 2, get),
    ("getOwnPropertyDescriptor", 2, getOwnPropertyDescriptor),
    ("getPrototypeOf", 1, getPrototypeOf), ("has", 2, has), ("isExtensible", 1, isExtensible),
    ("ownKeys", 1, ownKeys), ("preventExtensions", 1, preventExtensions), ("set", 3, set),
    ("setPrototypeOf", 2, setPrototypeOf)]

end ReflectFunction

/-- Methods of maps and sets. -/
inductive CollectionMethod
  | set
  | get
  | add
  | has
  | delete
  | clear
  | size
  | forEach
  | isDisjointFrom
  | isSubsetOf
  | isSupersetOf
  | intersection
  | difference
  | symmetricDifference
  | union
  | values
  | keys
  | entries

namespace CollectionMethod

def methods : CollectionClass → MethodTable CollectionMethod
  | .map =>
    [("set", 2, set), ("get", 1, get), ("has", 1, has), ("delete", 1, delete), ("clear", 0, clear)]
  | .set => [("add", 1, add), ("has", 1, has), ("delete", 1, delete), ("clear", 0, clear)]
  | .weakMap => [("set", 2, set), ("get", 1, get), ("has", 1, has), ("delete", 1, delete)]
  | .weakSet => [("add", 1, add), ("has", 1, has), ("delete", 1, delete)]

/-- The methods that come after the number of entries. -/
def furtherMethods (c : CollectionClass) : MethodTable CollectionMethod :=
  if c.isMap then
    [("forEach", 1, forEach), ("values", 0, values), ("keys", 0, keys), ("entries", 0, entries)]
  else
    [("forEach", 1, forEach), ("isDisjointFrom", 1, isDisjointFrom), ("isSubsetOf", 1, isSubsetOf),
      ("isSupersetOf", 1, isSupersetOf), ("intersection", 1, intersection),
      ("difference", 1, difference), ("symmetricDifference", 1, symmetricDifference),
      ("union", 1, union), ("values", 0, values)]

end CollectionMethod

/-- What is walked through: the items of an object, the characters of a text, the entries of a map
or a set, or what a pattern finds. -/
inductive WalkClass
  | items
  | characters
  | map
  | set
  | finds
  deriving DecidableEq, Repr

namespace WalkClass

def all : List WalkClass := [items, characters, map, set, finds]

/-- The word by which what walks describes itself. -/
def word : WalkClass → String
  | items => "Array Iterator"
  | characters => "String Iterator"
  | map => "Map Iterator"
  | set => "Set Iterator"
  | finds => "RegExp String Iterator"

end WalkClass

/-- Methods of what walks through the items of something. -/
inductive IteratorMethod
  | next (c : WalkClass)
  /-- What walks through something gives itself. -/
  | itself
  | toArray
  | forEach
  | every
  | any
  | find
  | reduce
  | drop
  | filter
  | flatMap
  | map
  | take
  | relayNext
  | relayReturn
  | wrappedNext
  | wrappedReturn
  | generatorNext
  | generatorReturn
  | generatorThrow

namespace IteratorMethod

def methods : MethodTable IteratorMethod :=
  [("drop", 1, drop), ("filter", 1, filter), ("flatMap", 1, flatMap), ("map", 1, map),
    ("take", 1, take), ("every", 1, every), ("find", 1, find), ("forEach", 1, forEach),
    ("some", 1, any), ("reduce", 1, reduce), ("toArray", 0, toArray)]

/-- The methods of what passes on the values of something else. -/
def relayMethods : MethodTable IteratorMethod :=
  [("next", 0, relayNext), ("return", 0, relayReturn)]

/-- The methods of what hands on the answers of an object that does not inherit the other
methods. -/
def wrappedMethods : MethodTable IteratorMethod :=
  [("next", 0, wrappedNext), ("return", 0, wrappedReturn)]

def generatorMethods : MethodTable IteratorMethod :=
  [("next", 1, generatorNext), ("return", 1, generatorReturn), ("throw", 1, generatorThrow)]

end IteratorMethod

/-- Functions and methods of buffers. -/
inductive BufferMethod
  | isView
  | byteLength
  | maxByteLength
  /-- Whether the number of bytes can change. -/
  | resizable
  | detached
  | resize
  | slice
  /-- Gives the bytes to a new buffer; the number of bytes of a fixed one does not change. -/
  | transfer (fixed : Bool)

namespace BufferMethod

/-- The getters of buffers; those that several threads may share cannot lose their bytes. -/
def getters (shared : Bool) : List (String × BufferMethod) :=
  [("byteLength", byteLength), ("maxByteLength", maxByteLength)]
    ++ if shared then [("growable", resizable)]
      else [("resizable", resizable), ("detached", detached)]

def methods (shared : Bool) : MethodTable BufferMethod :=
  if shared then [("grow", 1, resize), ("slice", 2, slice)]
  else
    [("resize", 1, resize), ("slice", 2, slice), ("transfer", 0, transfer false),
      ("transferToFixedLength", 0, transfer true)]

end BufferMethod

/-- Functions and methods of lists of numbers in buffers. -/
inductive ElementMethod
  | length
  | buffer
  | byteLength
  | byteOffset
  | tag
  /-- What arrays can do, too. -/
  | common (f : ArrayMethod)
  | set
  | subarray
  | slice
  | map
  | filter
  | fill
  | withItem
  | toReversed
  | sort
  | toSorted
  | join
  | toLocaleText
  | ofIterable
  | ofItems

namespace ElementMethod

def statics : MethodTable ElementMethod := [("from", 1, ofIterable), ("of", 0, ofItems)]

/-- The methods that come before the getters that tell of the buffer. -/
def leadingMethods : MethodTable ElementMethod :=
  [("at", 1, common .atIndex), ("with", 2, withItem)]

def getters : List (String × ElementMethod) :=
  [("buffer", buffer), ("byteLength", byteLength), ("byteOffset", byteOffset)]

def methods : MethodTable ElementMethod :=
  [("set", 1, set), ("values", 0, common .values), ("keys", 0, common .keys),
    ("entries", 0, common .entries), ("copyWithin", 2, common .copyWithin),
    ("every", 1, common .every), ("some", 1, common .any), ("forEach", 1, common .forEach),
    ("map", 1, map), ("filter", 1, filter), ("reduce", 1, common .reduce),
    ("reduceRight", 1, common .reduceRight), ("fill", 1, fill), ("find", 1, common .find),
    ("findIndex", 1, common .findIndex), ("findLast", 1, common .findLast),
    ("findLastIndex", 1, common .findLastIndex), ("reverse", 0, common .reverse),
    ("toReversed", 0, toReversed), ("slice", 2, slice), ("subarray", 2, subarray),
    ("sort", 1, sort), ("toSorted", 1, toSorted), ("join", 1, join),
    ("toLocaleString", 0, toLocaleText), ("indexOf", 1, common .indexOf),
    ("lastIndexOf", 1, common .lastIndexOf), ("includes", 1, common .includes)]

end ElementMethod

/-- Methods of views of single numbers in a buffer. -/
inductive ViewMethod
  | buffer
  | byteLength
  | byteOffset
  | get (t : ElementType)
  | put (t : ElementType)

namespace ViewMethod

/-- The kinds of numbers that can be looked at. -/
def types : List ElementType :=
  [.int8, .uint8, .int16, .uint16, .int32, .uint32, .bigInt64, .bigUint64, .float16, .float32,
    .float64]

def getters : List (String × ViewMethod) :=
  [("buffer", buffer), ("byteLength", byteLength), ("byteOffset", byteOffset)]

def methods : MethodTable ViewMethod :=
  types.map (fun t => ("get" ++ t.name, 1, get t)) ++ types.map fun t => ("set" ++ t.name, 2, put t)

end ViewMethod

/-- The functions of `Atomics`. -/
inductive AtomicFunction
  | add
  | bitAnd
  | bitOr
  | subtract
  | bitXor
  | exchange
  | compareExchange
  | load
  | store
  | isLockFree
  | pause
  | wait
  | notify

namespace AtomicFunction

def functions : MethodTable AtomicFunction :=
  [("add", 3, add), ("and", 3, bitAnd), ("or", 3, bitOr), ("sub", 3, subtract), ("xor", 3, bitXor),
    ("exchange", 3, exchange), ("compareExchange", 4, compareExchange), ("load", 2, load),
    ("store", 3, store), ("isLockFree", 1, isLockFree), ("pause", 0, pause), ("wait", 4, wait),
    ("notify", 3, notify)]

end AtomicFunction

/-- A part of a date. -/
inductive DateField
  | year
  | month
  | day
  | hours
  | minutes
  | seconds
  | milliseconds
  | weekday
  deriving DecidableEq

/-- The texts of a date. -/
inductive DateStyle
  | full
  | utc
  | iso
  | day
  | time
  | locale
  | localeDay
  | localeTime

/-- Functions of `Date` and methods of dates. -/
inductive DateMethod
  | now
  | parse
  | utc
  | valueOf
  | toText (style : DateStyle)
  | toPrimitive
  | offset
  | shortYear
  | get (field : DateField)
  | set (field : DateField)
  | setShortYear
  | setTime
  | toJson

namespace DateMethod

def statics : MethodTable DateMethod := [("now", 0, now), ("parse", 1, parse), ("UTC", 7, utc)]

def methods : MethodTable DateMethod :=
  [("valueOf", 0, valueOf), ("toString", 0, toText .full), ("toUTCString", 0, toText .utc),
    ("toGMTString", 0, toText .utc), ("toISOString", 0, toText .iso),
    ("toDateString", 0, toText .day), ("toTimeString", 0, toText .time),
    ("toLocaleString", 0, toText .locale), ("toLocaleDateString", 0, toText .localeDay),
    ("toLocaleTimeString", 0, toText .localeTime), ("getTimezoneOffset", 0, offset),
    ("getTime", 0, valueOf), ("getYear", 0, shortYear), ("getFullYear", 0, get .year),
    ("getUTCFullYear", 0, get .year), ("getMonth", 0, get .month), ("getUTCMonth", 0, get .month),
    ("getDate", 0, get .day), ("getUTCDate", 0, get .day), ("getHours", 0, get .hours),
    ("getUTCHours", 0, get .hours), ("getMinutes", 0, get .minutes),
    ("getUTCMinutes", 0, get .minutes), ("getSeconds", 0, get .seconds),
    ("getUTCSeconds", 0, get .seconds), ("getMilliseconds", 0, get .milliseconds),
    ("getUTCMilliseconds", 0, get .milliseconds), ("getDay", 0, get .weekday),
    ("getUTCDay", 0, get .weekday), ("setTime", 1, setTime),
    ("setMilliseconds", 1, set .milliseconds), ("setUTCMilliseconds", 1, set .milliseconds),
    ("setSeconds", 2, set .seconds), ("setUTCSeconds", 2, set .seconds),
    ("setMinutes", 3, set .minutes), ("setUTCMinutes", 3, set .minutes),
    ("setHours", 4, set .hours), ("setUTCHours", 4, set .hours), ("setDate", 1, set .day),
    ("setUTCDate", 1, set .day), ("setMonth", 2, set .month), ("setUTCMonth", 2, set .month),
    ("setYear", 1, setShortYear), ("setFullYear", 3, set .year), ("setUTCFullYear", 3, set .year),
    ("toJSON", 1, toJson)]

end DateMethod

/-- Methods of patterns. -/
inductive PatternMethod
  | source
  | flags
  | flag (letter : Char)
  | exec
  | compile
  | test
  | toText
  | replacing
  | matching
  | matchingAll
  | searching
  | splitting

namespace PatternMethod

def methods : MethodTable PatternMethod :=
  [("exec", 1, exec), ("compile", 2, compile), ("test", 1, test), ("toString", 0, toText)]

/-- The properties for the letters of the flags. -/
def flagNames : List (String × Char) :=
  [("global", 'g'), ("ignoreCase", 'i'), ("multiline", 'm'), ("dotAll", 's'), ("unicode", 'u'),
    ("unicodeSets", 'v'), ("sticky", 'y'), ("hasIndices", 'd')]

end PatternMethod

/-- Which of several promises a promise waits for. -/
inductive PromiseChoice
  | all
  | allSettled
  | any
  | race
  deriving DecidableEq

/-- Functions of `Promise` and methods of promises. -/
inductive PromiseMethod
  | resolve
  | reject
  | gather (choice : PromiseChoice)
  | attempt
  | parts
  | whenSettled
  | whenRefused
  | atLast
  /-- Tells the promise at a place what becomes of it. -/
  | settle (promise : Nat) (refuses : Bool)
  /-- Puts the functions that tell a promise what becomes of it into the object at a place. -/
  | accept (slot : Nat)

namespace PromiseMethod

def statics : MethodTable PromiseMethod :=
  [("resolve", 1, resolve), ("reject", 1, reject), ("all", 1, gather .all),
    ("allSettled", 1, gather .allSettled), ("any", 1, gather .any), ("try", 1, attempt),
    ("race", 1, gather .race), ("withResolvers", 0, parts)]

def methods : MethodTable PromiseMethod :=
  [("then", 2, whenSettled), ("catch", 1, whenRefused), ("finally", 1, atLast)]

end PromiseMethod

/-- Functions under global names of their own. -/
inductive GlobalFunction
  | parseInt
  | parseFloat
  | isNaN
  | isFinite
  | queueMicrotask
  | decode (component : Bool)
  | encode (component : Bool)
  | escape
  | unescape
  | eval
  | jsonParse
  | jsonStringify
  | errorToText
  | isError
  | captureStack
  | weakTarget
  | register
  | unregister
  | iteratorFrom
  | proxyRevocable
  | performanceNow

namespace GlobalFunction

def globals : MethodTable GlobalFunction :=
  [("parseInt", 2, parseInt), ("parseFloat", 1, parseFloat), ("isNaN", 1, isNaN),
    ("isFinite", 1, isFinite), ("queueMicrotask", 1, queueMicrotask),
    ("decodeURI", 1, decode false), ("decodeURIComponent", 1, decode true),
    ("encodeURI", 1, encode false), ("encodeURIComponent", 1, encode true), ("escape", 1, escape),
    ("unescape", 1, unescape)]

end GlobalFunction

/-! ### All of them -/

/-- What a constructor makes. -/
inductive Constructor
  | object
  | function
  | error (c : ErrorClass)
  | array
  | number
  | boolean
  | text
  | symbol
  | bigint
  | collection (c : CollectionClass)
  | promise
  | date
  | regexp
  /-- Buffers; those that several threads may share have a class of their own. -/
  | buffer (shared : Bool)
  /-- Lists of numbers; those of no special kind cannot be made. -/
  | elements (t : Option ElementType)
  | view
  | proxy
  | iterator
  | weakRef
  | finalizationRegistry

/-- A built-in function. -/
inductive Builtin
  | construct (c : Constructor)
  | object (f : ObjectMethod)
  | function (f : FunctionMethod)
  | array (f : ArrayMethod)
  | text (f : TextMethod)
  | primitive (f : PrimitiveMethod)
  | math (f : MathFunction)
  | reflect (f : ReflectFunction)
  | collection (c : CollectionClass) (f : CollectionMethod)
  | iteration (f : IteratorMethod)
  | buffer (shared : Bool) (f : BufferMethod)
  | elements (f : ElementMethod)
  | view (f : ViewMethod)
  | atomic (f : AtomicFunction)
  | date (f : DateMethod)
  | pattern (f : PatternMethod)
  | promise (f : PromiseMethod)
  | global (f : GlobalFunction)
  /-- Puts the values that an object gives into a map by what a function says of them. -/
  | groupEntries
  /-- The function that gives its receiver. -/
  | receiver
  /-- Reads a property of a namespace of capabilities; one that it lacks is an error that lists
  `available`, unless it is in the set `passthrough`. -/
  | gate (namespaceName available : String) (passthrough : Nat)
  /-- Takes the proxy at a place out of use. -/
  | revoke (proxy : Nat)
  /-- A function that is there to be looked at, and gives undefined when it is called. -/
  | inert

/-- Whether a function makes objects. -/
def Builtin.constructs : Builtin → Bool
  | construct _ => true
  | _ => false

end ScriptHost
