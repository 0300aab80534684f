import ScriptHost.Json.Decoder

/-!
# Resource limits

* `Limits`: the ceilings of a session;
* `Limits.check`: what is wrong with ceilings that no session can run under;
* `LimitOverrides`: ceilings of which some are left open.
-/

namespace ScriptHost

/-- The ceilings of a session. -/
structure Limits where
  /-- Bytes of heap. -/
  memoryBytes : Nat
  /-- Bytes of stack. -/
  maxStackBytes : Nat
  /-- Milliseconds for one evaluation. -/
  timeoutMs : Nat
  deriving DecidableEq, Repr

namespace Limits

def default : Limits := ⟨64 * 1024 * 1024, 512 * 1024, 5000⟩

/-- Tighter ceilings, for scripts that nobody vouches for. -/
def strict : Limits := ⟨16 * 1024 * 1024, 256 * 1024, 1000⟩

/-- The smallest heap that a session starts in. -/
def minMemoryBytes : Nat := 1024 * 1024
def minStackBytes : Nat := 64 * 1024

end Limits

/-- Why no session can run under given ceilings. -/
inductive LimitsFault
  | memoryTooSmall (got : Nat)
  | stackTooSmall (got : Nat)
  | noTime
  deriving DecidableEq, Repr

def LimitsFault.message : LimitsFault → String
  | memoryTooSmall n =>
    "memory-bytes must be at least " ++ toString Limits.minMemoryBytes
      ++ " (got " ++ toString n ++ ")"
  | stackTooSmall n =>
    "max-stack-bytes must be at least " ++ toString Limits.minStackBytes
      ++ " (got " ++ toString n ++ ")"
  | noTime => "timeout-ms must be greater than zero"

namespace Limits

/-- The first ceiling that is too low, if any. -/
def fault? (l : Limits) : Option LimitsFault :=
  if l.memoryBytes < minMemoryBytes then some (.memoryTooSmall l.memoryBytes)
  else if l.maxStackBytes < minStackBytes then some (.stackTooSmall l.maxStackBytes)
  else if l.timeoutMs = 0 then some .noTime
  else none

/-- The document of ceilings. -/
def toJson (l : Limits) : Json :=
  .obj [("max-stack-bytes", .nat l.maxStackBytes), ("memory-bytes", .nat l.memoryBytes),
    ("timeout-ms", .nat l.timeoutMs)]

end Limits

/-! ### Overrides -/

/-- Ceilings of which some are left open. -/
structure LimitOverrides where
  memoryBytes : Option Nat := none
  maxStackBytes : Option Nat := none
  timeoutMs : Option Nat := none
  deriving DecidableEq, Repr

namespace LimitOverrides

/-- The ceilings of `base`, where nothing else is said. -/
def applyTo (o : LimitOverrides) (base : Limits) : Limits where
  memoryBytes := o.memoryBytes.getD base.memoryBytes
  maxStackBytes := o.maxStackBytes.getD base.maxStackBytes
  timeoutMs := o.timeoutMs.getD base.timeoutMs

/-- The ceilings of both, those of the second winning. -/
def merged (a b : LimitOverrides) : LimitOverrides where
  memoryBytes := b.memoryBytes.or a.memoryBytes
  maxStackBytes := b.maxStackBytes.or a.maxStackBytes
  timeoutMs := b.timeoutMs.or a.timeoutMs

/-- The document of the overrides; a ceiling that is left open is null. -/
def toJson (o : LimitOverrides) : Json :=
  let field (n : Option Nat) : Json := (n.map Json.nat).getD .null
  .obj [("max-stack-bytes", field o.maxStackBytes), ("memory-bytes", field o.memoryBytes),
    ("timeout-ms", field o.timeoutMs)]

/-! ### Strict reading -/

def fieldNames : List String := ["memory-bytes", "max-stack-bytes", "timeout-ms"]

/-- The shape of overrides, whose lists may be too long if `long` says so. -/
def shape (long : Bool) : Decoder.Shape where
  name := "LimitOverrides"
  fields := fieldNames
  lenient := false
  short := false
  long := long

def memoryDecoder : Decoder Nat := Decoder.unsigned 64 "usize"
def stackDecoder : Decoder Nat := Decoder.unsigned 64 "usize"
def timeoutDecoder : Decoder Nat := Decoder.unsigned 64 "u64"

/-- Reads one ceiling, where `wrap` says how a document leaves a ceiling open. -/
def fill (wrap : Decoder Nat → Decoder (Option Nat)) (key : String) (o : LimitOverrides) :
    Decoder LimitOverrides := fun j =>
  if key = "memory-bytes" then (wrap memoryDecoder j).map fun n => { o with memoryBytes := n }
  else if key = "max-stack-bytes" then
    (wrap stackDecoder j).map fun n => { o with maxStackBytes := n }
  else (wrap timeoutDecoder j).map fun n => { o with timeoutMs := n }

/-- The strict reading of overrides: no other fields. -/
def decoder (long : Bool) : Decoder LimitOverrides :=
  Decoder.record (shape long) (fill Decoder.nullable) {}

end LimitOverrides

/-- The strict reading of ceilings: all three are there. -/
def Limits.decoder : Decoder Limits := fun j => do
  let shape : Decoder.Shape :=
    { name := "ResourceLimits", fields := LimitOverrides.fieldNames, lenient := true,
      short := false,
      long := false }
  let o ← Decoder.record shape (LimitOverrides.fill fun d j => (d j).map some) {} j
  let memoryBytes ← Decoder.required "memory-bytes" o.memoryBytes
  let maxStackBytes ← Decoder.required "max-stack-bytes" o.maxStackBytes
  let timeoutMs ← Decoder.required "timeout-ms" o.timeoutMs
  .ok { memoryBytes, maxStackBytes, timeoutMs }

end ScriptHost
