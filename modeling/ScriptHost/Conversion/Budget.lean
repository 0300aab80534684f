import ScriptHost.Engine.Machine
import ScriptHost.Limits

/-!
# Conversions and their budgets

* `Budget`: how much output a conversion may make, and until when;
* `EngineError`: what the engine reported to a conversion;
* `ConversionError`: why a value could not be converted;
* `Conversion`: a computation that converts values, with its effects on the machine.
-/

namespace ScriptHost

/-- How much output a conversion may make, and until when. -/
structure Budget where
  /-- The bytes of output, counted as `Json.size` counts them. -/
  maxBytes : Nat
  /-- The reading of the machine's clock at which the time is up, if there is such a time. -/
  deadline : Option Nat := none
  deriving DecidableEq, Repr

namespace Budget

/-- The budget that a default heap gives. -/
def default : Budget := ⟨Limits.default.memoryBytes, none⟩

/-- The same deadline with at most so many bytes. -/
def capped (b : Budget) (maxBytes : Nat) : Budget := { b with maxBytes := min b.maxBytes maxBytes }

/-- How far the clock runs in a millisecond. -/
def clockRate : Nat := 20000

/-- The budget of a session under limits: a heap's worth of output, until the time is up. -/
def ofLimits (l : Limits) : Budget := ⟨l.memoryBytes, some (l.timeoutMs * clockRate)⟩

end Budget

/-! ### Errors -/

/-- What the engine reported to a conversion. -/
inductive EngineError
  /-- The script halted while it was asked for a value. -/
  | halted (h : Halt)
  /-- A text has a surrogate that stands alone after so many bytes. -/
  | brokenText (index : Nat)
  /-- A value of another type stands where a text belongs. -/
  | wrongType (found : String)
  deriving DecidableEq, Repr

namespace EngineError

def message : EngineError → String
  | halted _ => "Exception generated by QuickJS"
  | brokenText i =>
    "Conversion from string failed: invalid utf-8 sequence of 1 bytes from index " ++ toString i
  | wrongType found => "Error converting from js '" ++ found ++ "' into type 'string'"

/-- The value that a script threw, if it threw one. -/
def thrown? : EngineError → Option Value
  | halted (.thrown v) => some v
  | _ => none

end EngineError

/-- The levels below the root of a value at which a conversion gives up. -/
def maxDepth : Nat := 64

/-- Why a value could not be converted. -/
inductive ConversionError
  | tooDeep
  | tooLarge (maxBytes : Nat)
  | deadlineExpired
  | engine (e : EngineError)
  deriving DecidableEq, Repr

def ConversionError.message : ConversionError → String
  | tooDeep => "value nested deeper than " ++ toString maxDepth ++ " levels (cyclic value?)"
  | tooLarge n => "value exceeds the " ++ toString n ++ "-byte conversion budget"
  | deadlineExpired => "deadline expired while converting a value"
  | engine e => "script engine error: " ++ e.message

/-- A computation that converts values. -/
abbrev Conversion (α : Type) := Computation ConversionError α

namespace Conversion

/-- What a script does, as part of a conversion. -/
def ofScript {α : Type} (s : Script α) : Conversion α :=
  s.sequel .give fun h => .fail (.engine (.halted h))

/-- The Unicode text of a script's text. -/
def unicode (t : Text) : Conversion String :=
  match t.toUnicode with
  | .ok s => return s
  | .error i => throw (.engine (.brokenText i))

end Conversion

end ScriptHost
