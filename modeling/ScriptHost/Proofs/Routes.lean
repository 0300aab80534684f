import Mathlib.Data.List.Forall2
import ScriptHost.Capability.Builtin
import ScriptHost.Log
import ScriptHost.Proofs.Rows

/-!
# The routes of the built-in rows

* `Slot`: what a row makes of one of its arguments; `Slot.complaint?`, `Slot.documents`: what it
  objects to, and what it passes on;
* `Route`, `Registry.routes`: the rows of the built-in table by what they ask for and pass on;
* `Route.action`, `Route.DoneBy`: a route as a capability, and the rows that do just that;
* `Registry.doneBy_builtin`: each row of the built-in table does what a route says;
* `Registry.asks_builtin`: so the rows do nothing but ask the backend, each under its own names;
* `Registry.faithful_builtin`: so they record only calls of their own.
-/

namespace ScriptHost

/-! ### Slots -/

/-- What a row makes of one of its arguments. -/
inductive Slot
  /-- A text that must be there, under the name that a complaint gives it. -/
  | text (what : String)
  /-- A text, with another one for a missing text. -/
  | textOr (missing : String)
  /-- The number of an entity, which must be there. -/
  | expressId
  | document
  | refs
  /-- All texts of a group, as one list. -/
  | texts
  /-- All texts of a group, each as an argument of its own. -/
  | eachText

/-- The integer that a number is, if it is one that an entity can have. -/
def Double.entityNumber? (d : Double) : Option Int :=
  d.toInt?.filter fun n => 0 ≤ n ∧ n < twoTo 32

namespace Slot

/-- How the values of a script are read for a slot. -/
def type : Slot → ArgumentType
  | text _ | textOr _ => .string
  | expressId => .number
  | document => .genericValue
  | refs => .entityRefList
  | texts | eachText => .restStrings

/-- What a row objects to in an argument. -/
def complaint? : Slot → Argument → Option String
  | text _, .text (some _) => none
  | text what, _ => some (what ++ " is required")
  | expressId, .number (some d) =>
    if d.entityNumber?.isSome then none
    else some ("expressId must be a non-negative integer (got " ++ d.render .message ++ ")")
  | expressId, _ => some "expressId is required"
  | _, _ => none

/-- The documents that a row passes on for an argument. -/
def documents : Slot → Argument → List Json
  | text _, .text (some s) => [.str s]
  | textOr _, .text (some s) => [.str s]
  | textOr missing, _ => [.str missing]
  | expressId, .number (some d) => d.entityNumber?.toList.map .int
  | document, .document j => [j]
  | document, _ => [.null]
  | refs, .refs rs => [.arr (rs.map EntityRef.toJson)]
  | refs, _ => [.arr []]
  | texts, .strings ss => [.arr (ss.map .str)]
  | texts, _ => [.arr []]
  | eachText, .strings ss => ss.map .str
  | _, _ => []

/-- What a slot asks of an argument, as a part of a capability. -/
def demand (slot : Slot) (a : Argument) : Capability (List Json) :=
  match slot.complaint? a with
  | some what => throw (.invalidArgument what)
  | none => return slot.documents a

@[simp] theorem demand_text (what : String) (a : Argument) :
    (text what).demand a = (fun s => [.str s]) <$> Registry.requireText a what := by
  cases a with
  | text s => cases s <;> rfl
  | _ => rfl

@[simp] theorem demand_textOr (missing : String) (a : Argument) :
    (textOr missing).demand a = pure [.str (a.text?.getD missing)] := by
  cases a with
  | text s => cases s <;> rfl
  | _ => rfl

@[simp] theorem demand_document (a : Argument) : document.demand a = pure [a.value] := by
  cases a <;> rfl

@[simp] theorem demand_refs (a : Argument) : refs.demand a = pure [Capability.refsToJson a.entityRefs] := by
  cases a <;> rfl

@[simp] theorem demand_texts (a : Argument) : texts.demand a = pure [.strings a.texts] := by
  cases a <;> rfl

@[simp] theorem demand_eachText (a : Argument) : eachText.demand a = pure (a.texts.map .str) := by
  cases a <;> rfl

/-- The rule for the numbers of entities is the one that the rows apply. -/
theorem entityNumber?_eq (d : Double) :
    d.entityNumber? = d.expressId?.map fun n => (n.toNat : Int) := by
  unfold Double.expressId? Double.entityNumber? expressIdOfInt?
  cases d.toInt? with
  | none => rfl
  | some n =>
    by_cases h : 0 ≤ n ∧ n < twoTo 32
    · -- within these bounds a number of 32 bits is the integer that it was made of
      have size : twoTo 32 = 2 ^ 32 := rfl
      have small : n.toNat < 2 ^ 32 := by omega
      have same : ((UInt32.ofNat n.toNat).toNat : Int) = n := by
        rw [UInt32.toNat_ofNat', Nat.mod_eq_of_lt small]
        exact Int.toNat_of_nonneg h.1
      simp only [Option.filter_some, Option.bind_some, Bool.and_eq_true, decide_eq_true_eq,
        if_pos h, Option.map_some, same]
    · simp only [Option.filter_some, Option.bind_some, Bool.and_eq_true, decide_eq_true_eq,
        if_neg h, Option.map_none]

@[simp] theorem demand_expressId (a : Argument) :
    expressId.demand a = (fun n => [.nat n.toNat]) <$> Registry.requireExpressId a := by
  cases a with
  | number n =>
    cases n with
    | none => rfl
    | some d =>
      simp only [demand, complaint?, documents, Registry.requireExpressId, Argument.number?,
        entityNumber?_eq]
      cases d.expressId? <;> rfl
  | _ => rfl

end Slot

/-! ### Routes -/

/-- A row by what it asks of its arguments and passes on. -/
structure Route where
  namespaceName : String
  method : String
  slots : List Slot
  /-- The response if the backend has none, from what was passed on. -/
  default : List Json → Json

namespace Registry

def modelRoutes : List Route := [
  ⟨"model", "list", [], fun _ => .arr []⟩,
  ⟨"model", "active", [], fun _ => .null⟩,
  ⟨"model", "activeId", [], fun _ => .null⟩]

def queryRoutes : List Route := [
  ⟨"query", "all", [], fun _ => .arr []⟩,
  ⟨"query", "byType", [.eachText], fun _ => .arr []⟩,
  ⟨"query", "entity", [.text "modelId", .expressId], fun _ => .null⟩,
  ⟨"query", "attributes", [.document], fun _ => .obj []⟩,
  ⟨"query", "properties", [.document], fun _ => .arr []⟩,
  ⟨"query", "quantities", [.document], fun _ => .arr []⟩,
  ⟨"query", "related", [.document, .text "relationship", .text "direction"], fun _ => .arr []⟩]

def viewerRoutes : List Route := [
  ⟨"viewer", "colorize", [.refs, .text "color"], fun _ => .null⟩,
  ⟨"viewer", "colorizeAll", [.document], fun _ => .null⟩,
  ⟨"viewer", "hide", [.refs], fun _ => .null⟩,
  ⟨"viewer", "show", [.refs], fun _ => .null⟩,
  ⟨"viewer", "isolate", [.refs], fun _ => .null⟩,
  ⟨"viewer", "select", [.refs], fun _ => .null⟩,
  ⟨"viewer", "flyTo", [.refs], fun _ => .null⟩,
  ⟨"viewer", "resetColors", [], fun _ => .null⟩,
  ⟨"viewer", "resetVisibility", [], fun _ => .null⟩]

def mutateRoutes : List Route := [
  ⟨"mutate", "setProperty", [.document, .text "psetName", .text "propName", .document],
    fun _ => .null⟩,
  ⟨"mutate", "deleteProperty", [.document, .text "psetName", .text "propName"], fun _ => .null⟩,
  ⟨"mutate", "undo", [.text "modelId"], fun _ => .bool false⟩,
  ⟨"mutate", "redo", [.text "modelId"], fun _ => .bool false⟩]

def lensRoutes : List Route := [
  ⟨"lens", "presets", [], fun _ => .arr []⟩,
  ⟨"lens", "create", [.document], fun args => args.headD .null⟩,
  ⟨"lens", "activate", [.text "lensId"], fun _ => .null⟩,
  ⟨"lens", "clear", [], fun _ => .null⟩]

def exportRoutes : List Route := [
  ⟨"export", "csv", [.refs, .document], fun _ => .str ""⟩,
  ⟨"export", "json", [.refs, .texts], fun _ => .arr []⟩,
  ⟨"export", "download", [.text "content", .text "filename", .textOr "text/plain"],
    fun _ => .null⟩]

/-- The rows of the built-in table. -/
def routes : List Route :=
  [modelRoutes, queryRoutes, viewerRoutes, mutateRoutes, lensRoutes, exportRoutes].flatten

end Registry

namespace Route

/-- What becomes of a response: nothing of it is left if nothing is handed back, the identifier of a
model is a text or null, and a table is a text. -/
def handed (route : Route) (returns : ResultType) (response : Json) : Json :=
  if returns = .void then .null
  else if (route.namespaceName, route.method) = ("model", "activeId") then
    .ofOption response.asString?
  else if (route.namespaceName, route.method) = ("export", "csv") then .str response.plainText
  else response

/-- What the slots ask of their arguments, one after the other. -/
def demandAll : List (Slot × Argument) → Capability (List Json)
  | [] => return []
  | (slot, a) :: rest => do
    let j ← slot.demand a
    return j ++ (← demandAll rest)

/-- A row as a capability. -/
def action (route : Route) (returns : ResultType) (given : List Argument) : Capability Json := do
  let args ← demandAll (route.slots.zip given)
  let response ←
    Capability.respond route.namespaceName route.method args (route.default args)
  return route.handed returns response

theorem asks_demandAll {ns method : String} (asked : List (Slot × Argument)) :
    (demandAll asked).Asks ns method := by
  induction asked with
  | nil => exact .pure _
  | cons first rest ih =>
    refine .bind ?_ fun _ => .bind ih fun _ => .pure _
    unfold Slot.demand
    split
    · exact .throw _
    · exact .pure _

/-- A route asks the backend under its own names. -/
theorem asks_action (route : Route) (returns : ResultType) (given : List Argument) :
    (route.action returns given).Asks route.namespaceName route.method :=
  .bind (asks_demandAll _) fun _ => .bind (.respond _ _) fun _ => .pure _

/-- A row that does what a route says. -/
structure DoneBy (route : Route) (ns : Namespace) (row : Method) : Prop where
  named : route.namespaceName = ns.name ∧ route.method = row.name
  types : route.slots.map Slot.type = row.args
  arity : row.invoke.arity = row.args.length
  acts : ∀ given, given.length = row.args.length →
    row.invoke.call given = route.action row.returns given

/-- A row refuses a wrong number of arguments. -/
theorem DoneBy.call_of_miscounted {route : Route} {ns : Namespace} {row : Method}
    (done : route.DoneBy ns row) {given : List Argument} (differs : given.length ≠ row.args.length) :
    row.invoke.call given =
      throw (.invalidArgument ("expected " ++ toString row.args.length
        ++ " argument group(s), got " ++ toString given.length)) := by
  rw [Invoke.call, dif_neg (by rwa [done.arity]), done.arity]

/-- A row that does what a route says asks the backend under its own names. -/
theorem DoneBy.asks {route : Route} {ns : Namespace} {row : Method} (done : route.DoneBy ns row)
    (given : List Argument) : (row.invoke.call given).Asks ns.name row.name := by
  by_cases count : given.length = row.args.length
  · rw [done.acts given count, ← done.named.1, ← done.named.2]
    exact route.asks_action row.returns given
  · rw [done.call_of_miscounted count]
    exact .throw _

end Route

namespace Invoke

@[simp] theorem call_nullary (f : Capability Json) : (nullary f).call [] = f := rfl

@[simp] theorem call_unary (f : Argument → Capability Json) (a : Argument) :
    (unary f).call [a] = f a := rfl

@[simp] theorem call_binary (f : Argument → Argument → Capability Json) (a b : Argument) :
    (binary f).call [a, b] = f a b := rfl

@[simp] theorem call_ternary (f : Argument → Argument → Argument → Capability Json)
    (a b c : Argument) : (ternary f).call [a, b, c] = f a b c := rfl

@[simp] theorem call_quaternary (f : Argument → Argument → Argument → Argument → Capability Json)
    (a b c d : Argument) : (quaternary f).call [a, b, c, d] = f a b c d := rfl

end Invoke

namespace Route

/-! Rows by the number of their arguments. -/

section Counts

variable {route : Route} {ns : Namespace} {row : Method}
  (named : route.namespaceName = ns.name ∧ route.method = row.name)
  (types : route.slots.map Slot.type = row.args) (arity : row.invoke.arity = row.args.length)

include named types arity

theorem doneBy_none (count : row.args.length = 0)
    (acts : row.invoke.call [] = route.action row.returns []) : route.DoneBy ns row := by
  refine ⟨named, types, arity, fun given counted => ?_⟩
  obtain rfl := List.length_eq_zero_iff.1 (counted.trans count)
  exact acts

theorem doneBy_one (count : row.args.length = 1)
    (acts : ∀ a, row.invoke.call [a] = route.action row.returns [a]) : route.DoneBy ns row := by
  refine ⟨named, types, arity, fun given counted => ?_⟩
  obtain ⟨a, rfl⟩ := List.length_eq_one_iff.1 (counted.trans count)
  exact acts a

theorem doneBy_two (count : row.args.length = 2)
    (acts : ∀ a b, row.invoke.call [a, b] = route.action row.returns [a, b]) :
    route.DoneBy ns row := by
  refine ⟨named, types, arity, fun given counted => ?_⟩
  match given, counted.trans count with
  | [a, b], _ => exact acts a b

theorem doneBy_three (count : row.args.length = 3)
    (acts : ∀ a b c, row.invoke.call [a, b, c] = route.action row.returns [a, b, c]) :
    route.DoneBy ns row := by
  refine ⟨named, types, arity, fun given counted => ?_⟩
  match given, counted.trans count with
  | [a, b, c], _ => exact acts a b c

theorem doneBy_four (count : row.args.length = 4)
    (acts : ∀ a b c d, row.invoke.call [a, b, c, d] = route.action row.returns [a, b, c, d]) :
    route.DoneBy ns row := by
  refine ⟨named, types, arity, fun given counted => ?_⟩
  match given, counted.trans count with
  | [a, b, c, d], _ => exact acts a b c d

end Counts

end Route

namespace Registry

/-! ### The built-in table -/

open Route

theorem doneBy_model : List.Forall₂ (fun row route => route.DoneBy modelNamespace row)
    modelNamespace.methods modelRoutes := by
  refine .cons (doneBy_none ⟨rfl, rfl⟩ rfl rfl rfl ?_) <|
    .cons (doneBy_none ⟨rfl, rfl⟩ rfl rfl rfl ?_) <|
    .cons (doneBy_none ⟨rfl, rfl⟩ rfl rfl rfl ?_) .nil
  · simp [action, demandAll, handed, Capability.modelList]
  · simp [action, demandAll, handed, Capability.modelActive]
  · simp [action, demandAll, handed, Capability.modelActiveId]

theorem doneBy_query : List.Forall₂ (fun row route => route.DoneBy queryNamespace row)
    queryNamespace.methods queryRoutes := by
  refine .cons (doneBy_none ⟨rfl, rfl⟩ rfl rfl rfl ?_) <|
    .cons (doneBy_one ⟨rfl, rfl⟩ rfl rfl rfl fun types => ?_) <|
    .cons (doneBy_two ⟨rfl, rfl⟩ rfl rfl rfl fun modelId expressId => ?_) <|
    .cons (doneBy_one ⟨rfl, rfl⟩ rfl rfl rfl fun entity => ?_) <|
    .cons (doneBy_one ⟨rfl, rfl⟩ rfl rfl rfl fun entity => ?_) <|
    .cons (doneBy_one ⟨rfl, rfl⟩ rfl rfl rfl fun entity => ?_) <|
    .cons (doneBy_three ⟨rfl, rfl⟩ rfl rfl rfl fun entity relationship direction => ?_) .nil
  · simp [action, demandAll, handed, Capability.queryAll]
  · simp [action, demandAll, handed, Capability.queryByType]
  · simp [action, demandAll, handed, Capability.queryEntity]
  · simp [action, demandAll, handed, Capability.queryAttributes]
  · simp [action, demandAll, handed, Capability.queryProperties]
  · simp [action, demandAll, handed, Capability.queryQuantities]
  · simp [action, demandAll, handed, Capability.queryRelated]

theorem doneBy_viewer : List.Forall₂ (fun row route => route.DoneBy viewerNamespace row)
    viewerNamespace.methods viewerRoutes := by
  refine .cons (doneBy_two ⟨rfl, rfl⟩ rfl rfl rfl fun refs color => ?_) <|
    .cons (doneBy_one ⟨rfl, rfl⟩ rfl rfl rfl fun batches => ?_) <|
    .cons (doneBy_one ⟨rfl, rfl⟩ rfl rfl rfl fun refs => ?_) <|
    .cons (doneBy_one ⟨rfl, rfl⟩ rfl rfl rfl fun refs => ?_) <|
    .cons (doneBy_one ⟨rfl, rfl⟩ rfl rfl rfl fun refs => ?_) <|
    .cons (doneBy_one ⟨rfl, rfl⟩ rfl rfl rfl fun refs => ?_) <|
    .cons (doneBy_one ⟨rfl, rfl⟩ rfl rfl rfl fun refs => ?_) <|
    .cons (doneBy_none ⟨rfl, rfl⟩ rfl rfl rfl ?_) <|
    .cons (doneBy_none ⟨rfl, rfl⟩ rfl rfl rfl ?_) .nil
  · simp [action, demandAll, handed, silent, Capability.acknowledge, Capability.viewerColorize]
  · simp [action, demandAll, handed, silent, Capability.acknowledge, Capability.viewerColorizeAll]
  · simp [action, demandAll, handed, silent, Capability.acknowledge, Capability.viewerHide]
  · simp [action, demandAll, handed, silent, Capability.acknowledge, Capability.viewerShow]
  · simp [action, demandAll, handed, silent, Capability.acknowledge, Capability.viewerIsolate]
  · simp [action, demandAll, handed, silent, Capability.acknowledge, Capability.viewerSelect]
  · simp [action, demandAll, handed, silent, Capability.acknowledge, Capability.viewerFlyTo]
  · simp [action, demandAll, handed, silent, Capability.acknowledge, Capability.viewerResetColors]
  · simp [action, demandAll, handed, silent, Capability.acknowledge,
      Capability.viewerResetVisibility]

theorem doneBy_mutate : List.Forall₂ (fun row route => route.DoneBy mutateNamespace row)
    mutateNamespace.methods mutateRoutes := by
  refine .cons (doneBy_four ⟨rfl, rfl⟩ rfl rfl rfl fun entity pset property value => ?_) <|
    .cons (doneBy_three ⟨rfl, rfl⟩ rfl rfl rfl fun entity pset property => ?_) <|
    .cons (doneBy_one ⟨rfl, rfl⟩ rfl rfl rfl fun modelId => ?_) <|
    .cons (doneBy_one ⟨rfl, rfl⟩ rfl rfl rfl fun modelId => ?_) .nil
  · simp [action, demandAll, handed, silent, Capability.acknowledge, Capability.mutateSetProperty]
  · simp [action, demandAll, handed, silent, Capability.acknowledge, Capability.mutateDeleteProperty]
  · simp [action, demandAll, handed, Capability.mutateUndo]
  · simp [action, demandAll, handed, Capability.mutateRedo]

theorem doneBy_lens : List.Forall₂ (fun row route => route.DoneBy lensNamespace row)
    lensNamespace.methods lensRoutes := by
  refine .cons (doneBy_none ⟨rfl, rfl⟩ rfl rfl rfl ?_) <|
    .cons (doneBy_one ⟨rfl, rfl⟩ rfl rfl rfl fun config => ?_) <|
    .cons (doneBy_one ⟨rfl, rfl⟩ rfl rfl rfl fun id => ?_) <|
    .cons (doneBy_none ⟨rfl, rfl⟩ rfl rfl rfl ?_) .nil
  · simp [action, demandAll, handed, Capability.lensPresets]
  · simp [action, demandAll, handed, Capability.lensCreate]
  · simp [action, demandAll, handed, silent, Capability.acknowledge, Capability.lensActivate]
  · simp [action, demandAll, handed, silent, Capability.acknowledge, Capability.lensClear]

theorem exportCsv_eq (refs : List EntityRef) (options : Json) :
    Capability.exportCsv refs options = Json.plainText <$>
      Capability.respond "export" "csv" [Capability.refsToJson refs, options] (.str "") := by
  rw [Capability.exportCsv, map_eq_pure_bind]
  refine bind_congr fun j => ?_
  cases j <;> rfl

theorem doneBy_export : List.Forall₂ (fun row route => route.DoneBy exportNamespace row)
    exportNamespace.methods exportRoutes := by
  refine .cons (doneBy_two ⟨rfl, rfl⟩ rfl rfl rfl fun refs options => ?_) <|
    .cons (doneBy_two ⟨rfl, rfl⟩ rfl rfl rfl fun refs columns => ?_) <|
    .cons (doneBy_three ⟨rfl, rfl⟩ rfl rfl rfl fun content filename mimeType => ?_) .nil
  · simp [action, demandAll, handed, exportCsv_eq]
  · simp [action, demandAll, handed, Capability.exportJson]
  · simp [action, demandAll, handed, silent, Capability.acknowledge, Capability.exportDownload]

/-- Each row of the built-in table does what a route says. -/
theorem doneBy_builtin {ns : Namespace} (hns : ns ∈ builtin) {row : Method}
    (hrow : row ∈ ns.methods) : ∃ route ∈ routes, route.DoneBy ns row := by
  have found {part : List Route}
      (inside : part ∈ [modelRoutes, queryRoutes, viewerRoutes, mutateRoutes, lensRoutes, exportRoutes])
      (done : List.Forall₂ (fun row route => route.DoneBy ns row) ns.methods part) :
      ∃ route ∈ routes, route.DoneBy ns row := by
    obtain ⟨i, inRows, rfl⟩ := List.getElem_of_mem hrow
    have inPart : i < part.length := done.length_eq ▸ inRows
    exact ⟨part[i], List.mem_flatten.2 ⟨part, inside, List.getElem_mem inPart⟩,
      done.get inRows inPart⟩
  simp only [builtin, List.mem_cons, List.not_mem_nil, or_false] at hns
  rcases hns with rfl | rfl | rfl | rfl | rfl | rfl
  · exact found (by simp) doneBy_model
  · exact found (by simp) doneBy_query
  · exact found (by simp) doneBy_viewer
  · exact found (by simp) doneBy_mutate
  · exact found (by simp) doneBy_lens
  · exact found (by simp) doneBy_export

/-- The rows of the built-in table do nothing but ask the backend under their own names. -/
theorem asks_builtin : ∀ ns ∈ builtin, ns.Asks := by
  intro ns hns m hm given
  obtain ⟨route, _, done⟩ := doneBy_builtin hns hm
  exact done.asks given

/-- The rows of the built-in table record nothing but calls of their own. -/
theorem faithful_builtin : builtin.Faithful := fun ns hns m hm given =>
  (asks_builtin ns hns m hm given).records

end Registry

end ScriptHost
