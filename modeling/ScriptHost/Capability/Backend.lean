import ScriptHost.Capability.Argument
import ScriptHost.Json.Printer

/-!
# The capability backend

What the host does for a script.  The backend of this library records every call and answers from
canned responses, so that a script can be run without touching anything.

* `CapabilityError`: why a capability did not do what it was asked;
* `Call`: one call as the backend received it;
* `Backend`: canned responses and failures, and the calls so far;
* `Backend.ofFixtures`: a backend with the responses that a document lists;
* `Capability`: an action on a backend that may fail; the calls it made stay recorded if it does;
* one action for each capability, in the namespace of its name.
-/

namespace ScriptHost

/-- Why a capability did not do what it was asked. -/
inductive CapabilityError
  | invalidArgument (what : String)
  | notFound (what : String)
  | unsupported (what : String)
  | backend (what : String)
  deriving DecidableEq, Repr

def CapabilityError.message : CapabilityError → String
  | invalidArgument what => "invalid argument: " ++ what
  | notFound what => "not found: " ++ what
  | unsupported what => "not supported: " ++ what
  | backend what => what

/-- One call as the backend received it. -/
structure Call where
  namespaceName : String
  method : String
  args : List Json
  deriving Repr

/-- Canned responses and failures by qualified method name, and the calls so far. -/
structure Backend where
  responses : List (String × Json) := []
  failures : List (String × CapabilityError) := []
  calls : Array Call := #[]

/-- The name of a method with its namespace. -/
def qualifiedName (namespaceName method : String) : String := namespaceName ++ "." ++ method

/-- Why a document is no list of responses. -/
inductive FixtureFault
  | notObject
  | unqualifiedKey (key : String)
  deriving DecidableEq, Repr

def FixtureFault.message : FixtureFault → String
  | notObject => "fixtures must be an object keyed by \"namespace.method\""
  | unqualifiedKey key => "fixture key '" ++ key ++ "' is not of the form namespace.method"

namespace Backend

def empty : Backend := {}

/-- The backend with one more response, which replaces an earlier one. -/
def withResponse (b : Backend) (name : String) (response : Json) : Backend :=
  { b with responses := (name, response) :: b.responses }

/-- The backend with one more failure, which replaces an earlier one. -/
def withFailure (b : Backend) (name : String) (error : CapabilityError) : Backend :=
  { b with failures := (name, error) :: b.failures }

/-- Adds the responses of a list of fields. -/
def addFixtures : Backend → List (String × Json) → Except FixtureFault Backend
  | b, [] => .ok b
  | b, (k, j) :: rest =>
    if k.contains '.' then addFixtures (b.withResponse k j) rest else .error (.unqualifiedKey k)

/-- The backend with the responses that a document lists by qualified name. -/
def ofFixtures : Json → Except FixtureFault Backend
  | .obj fields => addFixtures empty fields
  | _ => .error .notObject

/-- The calls to one method. -/
def callsTo (b : Backend) (namespaceName method : String) : List Call :=
  b.calls.toList.filter fun c => c.namespaceName = namespaceName && c.method = method

def clearCalls (b : Backend) : Backend := { b with calls := #[] }

end Backend

/-! ### Actions -/

/-- An action on a backend that may fail. -/
abbrev Capability (α : Type) := EStateM CapabilityError Backend α

namespace Capability

/-- Records a call and answers it: with the failure set for the method, else with the response set
for it, else with `default`. -/
def respond (namespaceName method : String) (args : List Json) (default : Json) : Capability Json :=
  fun b =>
    let name := qualifiedName namespaceName method
    let b := { b with calls := b.calls.push ⟨namespaceName, method, args⟩ }
    match b.failures.lookup name with
    | some e => .error e b
    | none => .ok ((b.responses.lookup name).getD default) b

/-- Records a call whose response is of no interest. -/
def acknowledge (namespaceName method : String) (args : List Json) : Capability Unit := do
  let _ ← respond namespaceName method args .null

def refsToJson (refs : List EntityRef) : Json := .arr (refs.map EntityRef.toJson)

/-! ### Models -/

def modelList : Capability Json := respond "model" "list" [] (.arr [])
def modelActive : Capability Json := respond "model" "active" [] .null

def modelActiveId : Capability (Option String) := do
  let j ← respond "model" "activeId" [] .null
  return j.asString?

/-! ### Queries -/

def queryAll : Capability Json := respond "query" "all" [] (.arr [])

def queryByType (types : List String) : Capability Json :=
  respond "query" "byType" (types.map .str) (.arr [])

def queryEntity (modelId : String) (expressId : UInt32) : Capability Json :=
  respond "query" "entity" [.str modelId, .nat expressId.toNat] .null

def queryAttributes (entity : Json) : Capability Json :=
  respond "query" "attributes" [entity] (.obj [])

def queryProperties (entity : Json) : Capability Json :=
  respond "query" "properties" [entity] (.arr [])

def queryQuantities (entity : Json) : Capability Json :=
  respond "query" "quantities" [entity] (.arr [])

def queryRelated (entity : Json) (relationship direction : String) : Capability Json :=
  respond "query" "related" [entity, .str relationship, .str direction] (.arr [])

/-! ### The viewer -/

def viewerColorize (refs : List EntityRef) (color : String) : Capability Unit :=
  acknowledge "viewer" "colorize" [refsToJson refs, .str color]

def viewerColorizeAll (batches : Json) : Capability Unit :=
  acknowledge "viewer" "colorizeAll" [batches]

def viewerHide (refs : List EntityRef) : Capability Unit :=
  acknowledge "viewer" "hide" [refsToJson refs]

def viewerShow (refs : List EntityRef) : Capability Unit :=
  acknowledge "viewer" "show" [refsToJson refs]

def viewerIsolate (refs : List EntityRef) : Capability Unit :=
  acknowledge "viewer" "isolate" [refsToJson refs]

def viewerSelect (refs : List EntityRef) : Capability Unit :=
  acknowledge "viewer" "select" [refsToJson refs]

def viewerFlyTo (refs : List EntityRef) : Capability Unit :=
  acknowledge "viewer" "flyTo" [refsToJson refs]

def viewerResetColors : Capability Unit := acknowledge "viewer" "resetColors" []
def viewerResetVisibility : Capability Unit := acknowledge "viewer" "resetVisibility" []

/-! ### Edits -/

def mutateSetProperty (entity : Json) (pset property : String) (value : Json) : Capability Unit :=
  acknowledge "mutate" "setProperty" [entity, .str pset, .str property, value]

def mutateDeleteProperty (entity : Json) (pset property : String) : Capability Unit :=
  acknowledge "mutate" "deleteProperty" [entity, .str pset, .str property]

def mutateUndo (modelId : String) : Capability Json :=
  respond "mutate" "undo" [.str modelId] (.bool false)

def mutateRedo (modelId : String) : Capability Json :=
  respond "mutate" "redo" [.str modelId] (.bool false)

/-! ### Lenses -/

def lensPresets : Capability Json := respond "lens" "presets" [] (.arr [])
def lensCreate (config : Json) : Capability Json := respond "lens" "create" [config] config
def lensActivate (id : String) : Capability Unit := acknowledge "lens" "activate" [.str id]
def lensClear : Capability Unit := acknowledge "lens" "clear" []

/-! ### Exports -/

/-- The table as text; a response that is no string is written as document text. -/
def exportCsv (refs : List EntityRef) (options : Json) : Capability String := do
  let j ← respond "export" "csv" [refsToJson refs, options] (.str "")
  match j with
  | .str s => return s
  | j => return j.render

def exportJson (refs : List EntityRef) (columns : List String) : Capability Json :=
  respond "export" "json" [refsToJson refs, .strings columns] (.arr [])

def exportDownload (content filename mimeType : String) : Capability Unit :=
  acknowledge "export" "download" [.str content, .str filename, .str mimeType]

end Capability

end ScriptHost
