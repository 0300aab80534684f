import ScriptHost.Capability.Registry

/-!
# The built-in capabilities

* `Registry.builtin`: the table of capabilities that scripts find under `bim`.

Each row picks its arguments out of the list and forwards them to the action of its name.
-/

namespace ScriptHost

namespace Registry

/-! ### Arguments that have to be there -/

/-- The text of an argument; `what` names it in the complaint. -/
def requireText (a : Argument) (what : String) : Capability String :=
  match a.text? with
  | some s => return s
  | none => throw (.invalidArgument (what ++ " is required"))

/-- The entity number of an argument: a whole number that fits 32 bits. -/
def requireExpressId (a : Argument) : Capability UInt32 :=
  match a.number? with
  | none => throw (.invalidArgument "expressId is required")
  | some d =>
    match d.expressId? with
    | some n => return n
    | none =>
      throw (.invalidArgument
        ("expressId must be a non-negative integer (got " ++ d.render .message ++ ")"))

/-- An action without a result. -/
def silent (action : Capability Unit) : Capability Json := do
  action
  return .null

/-! ### Rows -/

def modelNamespace : Namespace where
  name := "model"
  permission := .model
  methods := [
    ⟨"list", [], .genericValue, .nullary .modelList⟩,
    ⟨"active", [], .genericValue, .nullary .modelActive⟩,
    ⟨"activeId", [], .string, .nullary do return .ofOption (← .modelActiveId)⟩]

def queryNamespace : Namespace where
  name := "query"
  permission := .query
  methods := [
    ⟨"all", [], .genericValue, .nullary .queryAll⟩,
    ⟨"byType", [.restStrings], .genericValue, .unary fun types => .queryByType types.texts⟩,
    ⟨"entity", [.string, .number], .genericValue, .binary fun modelId expressId => do
      let modelId ← requireText modelId "modelId"
      .queryEntity modelId (← requireExpressId expressId)⟩,
    ⟨"attributes", [.genericValue], .genericValue, .unary fun e => .queryAttributes e.value⟩,
    ⟨"properties", [.genericValue], .genericValue, .unary fun e => .queryProperties e.value⟩,
    ⟨"quantities", [.genericValue], .genericValue, .unary fun e => .queryQuantities e.value⟩,
    ⟨"related", [.genericValue, .string, .string], .genericValue,
      .ternary fun entity relationship direction => do
        let relationship ← requireText relationship "relationship"
        .queryRelated entity.value relationship (← requireText direction "direction")⟩]

def viewerNamespace : Namespace where
  name := "viewer"
  permission := .viewer
  methods := [
    ⟨"colorize", [.entityRefList, .string], .void, .binary fun refs color => do
      silent (.viewerColorize refs.entityRefs (← requireText color "color"))⟩,
    ⟨"colorizeAll", [.genericValue], .void, .unary fun b => silent (.viewerColorizeAll b.value)⟩,
    ⟨"hide", [.entityRefList], .void, .unary fun refs => silent (.viewerHide refs.entityRefs)⟩,
    ⟨"show", [.entityRefList], .void, .unary fun refs => silent (.viewerShow refs.entityRefs)⟩,
    ⟨"isolate", [.entityRefList], .void,
      .unary fun refs => silent (.viewerIsolate refs.entityRefs)⟩,
    ⟨"select", [.entityRefList], .void, .unary fun refs => silent (.viewerSelect refs.entityRefs)⟩,
    ⟨"flyTo", [.entityRefList], .void, .unary fun refs => silent (.viewerFlyTo refs.entityRefs)⟩,
    ⟨"resetColors", [], .void, .nullary (silent .viewerResetColors)⟩,
    ⟨"resetVisibility", [], .void, .nullary (silent .viewerResetVisibility)⟩]

def mutateNamespace : Namespace where
  name := "mutate"
  permission := .mutate
  methods := [
    ⟨"setProperty", [.genericValue, .string, .string, .genericValue], .void,
      .quaternary fun entity pset property value => do
        let pset ← requireText pset "psetName"
        let property ← requireText property "propName"
        silent (.mutateSetProperty entity.value pset property value.value)⟩,
    ⟨"deleteProperty", [.genericValue, .string, .string], .void,
      .ternary fun entity pset property => do
        let pset ← requireText pset "psetName"
        let property ← requireText property "propName"
        silent (.mutateDeleteProperty entity.value pset property)⟩,
    ⟨"undo", [.string], .genericValue, .unary fun modelId => do
      .mutateUndo (← requireText modelId "modelId")⟩,
    ⟨"redo", [.string], .genericValue, .unary fun modelId => do
      .mutateRedo (← requireText modelId "modelId")⟩]

def lensNamespace : Namespace where
  name := "lens"
  permission := .lens
  methods := [
    ⟨"presets", [], .genericValue, .nullary .lensPresets⟩,
    ⟨"create", [.genericValue], .genericValue, .unary fun config => .lensCreate config.value⟩,
    ⟨"activate", [.string], .void, .unary fun id => do
      silent (.lensActivate (← requireText id "lensId"))⟩,
    ⟨"clear", [], .void, .nullary (silent .lensClear)⟩]

def exportNamespace : Namespace where
  name := "export"
  permission := .exports
  methods := [
    ⟨"csv", [.entityRefList, .genericValue], .string, .binary fun refs options => do
      return .str (← .exportCsv refs.entityRefs options.value)⟩,
    ⟨"json", [.entityRefList, .restStrings], .genericValue, .binary fun refs columns =>
      .exportJson refs.entityRefs columns.texts⟩,
    ⟨"download", [.string, .string, .string], .void, .ternary fun content filename mimeType => do
      let content ← requireText content "content"
      let filename ← requireText filename "filename"
      silent (.exportDownload content filename (mimeType.text?.getD "text/plain"))⟩]

/-- The capabilities that scripts find under `bim`. -/
def builtin : Registry :=
  [modelNamespace, queryNamespace, viewerNamespace, mutateNamespace, lensNamespace, exportNamespace]

end Registry

end ScriptHost
