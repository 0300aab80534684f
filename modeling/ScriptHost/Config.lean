import ScriptHost.Limits
import ScriptHost.Permission
import ScriptHost.Toml.Report

/-!
# Configurations

A configuration decides some permissions and some limits; the rest is left to the defaults.

* `Config`: the decisions;
* `Config.merged`: one configuration on top of another;
* `Config.resolve`: the permissions and limits of a session, unless no session can run under them;
* `Config.decoder`, `Config.toJson`: configurations as documents;
* `Config.ofToml`: configurations as text.
-/

namespace ScriptHost

/-- Decisions on permissions and limits. -/
structure Config where
  permissions : Overrides
  limits : LimitOverrides

namespace Config

/-- No decisions. -/
def empty : Config := ⟨.empty, {}⟩

/-! ### Layers -/

def withPermission (c : Config) (p : Permission) (granted : Bool) : Config :=
  { c with permissions := c.permissions.set p granted }

def withTimeout (c : Config) (ms : Nat) : Config :=
  { c with limits := { c.limits with timeoutMs := some ms } }

def withMemory (c : Config) (bytes : Nat) : Config :=
  { c with limits := { c.limits with memoryBytes := some bytes } }

def withStack (c : Config) (bytes : Nat) : Config :=
  { c with limits := { c.limits with maxStackBytes := some bytes } }

/-- The decisions of both, those of the second winning. -/
def merged (a b : Config) : Config :=
  ⟨a.permissions.merged b.permissions, a.limits.merged b.limits⟩

/-- The permissions and limits of a session. -/
def resolve (c : Config) : Except LimitsFault (Permissions × Limits) :=
  let limits := c.limits.applyTo .default
  match limits.fault? with
  | some fault => .error fault
  | none => .ok (Permissions.defaults.withOverrides c.permissions, limits)

/-! ### Documents -/

/-- The document of a configuration. -/
def toJson (c : Config) : Json :=
  .obj [("limits", c.limits.toJson), ("permissions", c.permissions.toJson)]

def shape (long : Bool) : Decoder.Shape where
  name := "SandboxConfig"
  fields := ["permissions", "limits"]
  lenient := false
  short := true
  long := long

def fill (long : Bool) (key : String) (c : Config) : Decoder Config := fun j =>
  if key = "permissions" then (Overrides.decoder j).map fun o => { c with permissions := o }
  else (LimitOverrides.decoder long j).map fun o => { c with limits := o }

/-- The strict reading of a configuration; lists may be too long if `long` says so. -/
def decoderWith (long : Bool) : Decoder Config := Decoder.record (shape long) (fill long) empty

/-- The strict reading of a configuration. -/
def decoder : Decoder Config := decoderWith false

end Config

/-! ### Text -/

/-- Why a text is no configuration. -/
inductive ConfigTextFault
  /-- It stops being TOML at a byte. -/
  | notToml (position : Nat)
  /-- It is TOML, but something in it does not fit. -/
  | mismatch (span : Toml.Span) (cause : Mismatch)
  deriving DecidableEq, Repr

namespace Config

/-- The configuration that a text spells. -/
def ofToml (text : String) : Except ConfigTextFault Config :=
  match Toml.read text with
  | .error position => .error (.notToml position)
  | .ok tree =>
    match decoderWith true tree.toJson with
    | .ok c => .ok c
    | .error e =>
      .error (.mismatch ((tree.locate e.atKey e.path none).getD ⟨0, 0⟩) e.mismatch)

end Config

/-- The complaint about a text that is no configuration. -/
def ConfigTextFault.message (text : String) : ConfigTextFault → String
  | notToml position => Toml.report text ⟨position, position⟩ "invalid TOML"
  | mismatch span cause => Toml.report text span (cause.message Toml.numbers)

end ScriptHost
