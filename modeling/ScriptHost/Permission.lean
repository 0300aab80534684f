import ScriptHost.Json.Decoder

/-!
# Permissions

One permission gates one namespace of capabilities.  By default scripts may do everything that
only reads or presents data.

* `Permission`, `Permission.key`: the permissions and the namespaces they gate;
* `Permissions`: a set of permissions, as its characteristic function;
* `Permissions.granted`: the members in their fixed order;
* `Overrides`, `Permissions.withOverrides`: decisions key by key on top of a set.
-/

namespace ScriptHost

/-- A permission. -/
inductive Permission
  | model
  | query
  | viewer
  | mutate
  | lens
  | exports
  deriving DecidableEq, Repr

namespace Permission

/-- All permissions, in their order. -/
def all : List Permission := [model, query, viewer, mutate, lens, exports]

/-- The namespace that the permission gates. -/
def key : Permission → String
  | model => "model"
  | query => "query"
  | viewer => "viewer"
  | mutate => "mutate"
  | lens => "lens"
  | exports => "export"

theorem mem_all (p : Permission) : p ∈ all := by cases p <;> decide

theorem key_injective {p q : Permission} (h : p.key = q.key) : p = q := by
  cases p <;> cases q <;> first | rfl | exact absurd h (by decide)

/-- The name of the permission where a session describes itself. -/
def title : Permission → String
  | model => "Model"
  | query => "Query"
  | viewer => "Viewer"
  | mutate => "Mutate"
  | lens => "Lens"
  | exports => "Export"

/-- Whether a session has the permission when nothing is said about it. -/
def grantedByDefault (p : Permission) : Bool := p != mutate

/-- The permission that gates a namespace. -/
def ofKey? (key : String) : Option Permission := all.find? fun p => p.key == key

/-- The complaint about a name that no permission has. -/
def unknownMessage (name : String) : String := "unknown permission '" ++ name ++ "'"

/-- The permissions with their keys. -/
def choices : List (String × Permission) := all.map fun p => (p.key, p)

def decoder : Decoder Permission := Decoder.variant choices

end Permission

/-! ### Decisions -/

/-- Decisions on single permissions: granted, denied, or left open. -/
structure Overrides where
  decision : Permission → Option Bool

namespace Overrides

def empty : Overrides := ⟨fun _ => none⟩

/-- The decisions with one more, which wins over an earlier one. -/
def set (o : Overrides) (p : Permission) (granted : Bool) : Overrides :=
  ⟨fun q => if q = p then some granted else o.decision q⟩

/-- The decisions of both, those of the second winning. -/
def merged (a b : Overrides) : Overrides := ⟨fun p => (b.decision p).or (a.decision p)⟩

def ofList (ds : List (Permission × Bool)) : Overrides := ds.foldl (fun o (p, g) => o.set p g) empty

/-- The decisions in the order of the permissions. -/
def toList (o : Overrides) : List (Permission × Bool) :=
  Permission.all.filterMap fun p => (o.decision p).map (p, ·)

/-- The document of the decisions. -/
def toJson (o : Overrides) : Json := .ofFields (o.toList.map fun (p, g) => (p.key, .bool g))

def decoder : Decoder Overrides := fun j =>
  (Decoder.mapping (Decoder.named Permission.choices) Decoder.bool j).map ofList

end Overrides

/-! ### Sets -/

/-- A set of permissions. -/
structure Permissions where
  isGranted : Permission → Bool

namespace Permissions

def defaults : Permissions := ⟨Permission.grantedByDefault⟩
def full : Permissions := ⟨fun _ => true⟩
def nothing : Permissions := ⟨fun _ => false⟩

def grant (s : Permissions) (p : Permission) : Permissions := ⟨fun q => q = p || s.isGranted q⟩
def deny (s : Permissions) (p : Permission) : Permissions := ⟨fun q => q ≠ p && s.isGranted q⟩

/-- The set with the decisions on top. -/
def withOverrides (s : Permissions) (o : Overrides) : Permissions :=
  ⟨fun p => (o.decision p).getD (s.isGranted p)⟩

/-- The members in their order. -/
def granted (s : Permissions) : List Permission := Permission.all.filter s.isGranted

/-- The keys of the members in their order. -/
def keys (s : Permissions) : List String := s.granted.map Permission.key

def ofList (ps : List Permission) : Permissions := ⟨fun p => ps.contains p⟩

/-- The document of a set. -/
def toJson (s : Permissions) : Json := .obj [("granted", .strings s.keys)]

/-- Whether the set has exactly the members that it has by default. -/
def isDefault (s : Permissions) : Bool := s.granted == defaults.granted

def shape : Decoder.Shape where
  name := "Permissions"
  fields := ["granted"]
  lenient := true
  short := false
  long := false

/-- The strict reading of a set: the list of its members under `granted`. -/
def decoder : Decoder Permissions := fun j => do
  let fill (_ : String) (_ : Option (List Permission)) : Decoder (Option (List Permission)) :=
    fun j => (Decoder.list Permission.decoder j).map some
  let members ← Decoder.record shape fill .none j
  (Decoder.required "granted" members).map ofList

end Permissions

end ScriptHost
