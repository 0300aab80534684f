import ScriptHost.Json.Decoder

/-!
# References to entities

* `EntityRef`: an entity, by the model it lives in and its number there;
* `EntityRef.ofJson?`: the reference that a loosely shaped document carries;
* `EntityRef.toJson`: the document of a reference;
* `EntityRef.decoder`: the strict reading of a reference;
* `EntityRef.sortDistinct`: references in order, each once.
-/

namespace ScriptHost

/-- An entity, by the model it lives in and its number there. -/
structure EntityRef where
  modelId : String
  expressId : UInt32
  deriving DecidableEq, Repr

/-- The entity number that a whole number is, if it fits 32 bits. -/
def expressIdOfInt? (n : Int) : Option UInt32 :=
  if 0 ≤ n && n < twoTo 32 then some (UInt32.ofNat n.toNat) else none

/-- The entity number that a double is exactly. -/
def Double.expressId? (d : Double) : Option UInt32 := d.toInt?.bind expressIdOfInt?

namespace EntityRef

/-- The entity number that a document holds: a whole number, or a double with a whole value. -/
def expressIdOf? : Json → Option UInt32
  | .int n => expressIdOfInt? n
  | .double d => d.expressId?
  | _ => none

/-- The reference whose two fields stand in the document itself. -/
def ofBare? (j : Json) : Option EntityRef := do
  let modelId ← (← j.field? "modelId").asString?
  let expressId ← expressIdOf? (← j.field? "expressId")
  some ⟨modelId, expressId⟩

/-- The reference that a document carries, under its field `ref` or in its own fields. -/
def ofJson? (j : Json) : Option EntityRef :=
  ((j.field? "ref").bind ofBare?).or (ofBare? j)

/-- The document of a reference. -/
def toJson (r : EntityRef) : Json :=
  .obj [("expressId", .nat r.expressId.toNat), ("modelId", .str r.modelId)]

/-- A reference on one line. -/
def display (r : EntityRef) : String := r.modelId ++ "#" ++ toString r.expressId

/-! ### Strict reading -/

/-- A reference whose fields are not all read yet. -/
structure Draft where
  modelId : Option String := none
  expressId : Option Nat := none

def shape : Decoder.Shape where
  name := "EntityRef"
  fields := ["modelId", "expressId"]
  lenient := true
  short := false
  long := false

def Draft.fill (key : String) (d : Draft) : Decoder Draft := fun j =>
  if key = "modelId" then (Decoder.string j).map fun s => { d with modelId := some s }
  else (Decoder.unsigned 32 "u32" j).map fun n => { d with expressId := some n }

/-- The strict reading of a reference: both fields are there and have their types. -/
def decoder : Decoder EntityRef := fun j => do
  let d ← Decoder.record shape Draft.fill {} j
  let modelId ← Decoder.required "modelId" d.modelId
  let expressId ← Decoder.required "expressId" d.expressId
  .ok ⟨modelId, UInt32.ofNat expressId⟩

/-! ### Order -/

/-- Order by model, then by number. -/
def le (a b : EntityRef) : Bool :=
  a.modelId < b.modelId || (a.modelId == b.modelId && a.expressId ≤ b.expressId)

/-- A list without the items that repeat the one before them. -/
def dropRepeats : List EntityRef → List EntityRef
  | a :: b :: rest => if a = b then dropRepeats (b :: rest) else a :: dropRepeats (b :: rest)
  | short => short

/-- References in order, each once. -/
def sortDistinct (rs : List EntityRef) : List EntityRef := dropRepeats (rs.mergeSort le)

end EntityRef

end ScriptHost
