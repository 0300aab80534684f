import ScriptHost.Proofs.Routes

/-!
# What the built-in rows forward

* `Route.complaint?`, `Route.documents`: the first complaint about some arguments, and what is passed
  on for them;
* `Route.answered`: all of what comes of a call that nothing is said against;
* `Route.Describes`: what a row does with every list of arguments and every backend;
* `Registry.forwards_builtin`: each row of the built-in table does what its route says.
-/

namespace ScriptHost

namespace Route

/-- The first complaint about some arguments, in the order of the slots. -/
def complaint? (route : Route) (given : List Argument) : Option String :=
  (route.slots.zip given).findSome? fun (slot, a) => slot.complaint? a

/-- The documents that are passed on for some arguments. -/
def documents (route : Route) (given : List Argument) : List Json :=
  (route.slots.zip given).flatMap fun (slot, a) => slot.documents a

/-- All of what comes of a call with arguments that nothing is said against: the call is recorded, and
answered with the failure set for the method, else with the response set for it, else with the
default. -/
def answered (route : Route) (returns : ResultType) (given : List Argument) (b : Backend) :
    EStateM.Result CapabilityError Backend Json :=
  let name := qualifiedName route.namespaceName route.method
  let call : Call := ⟨route.namespaceName, route.method, route.documents given⟩
  let after := { b with calls := b.calls.push call }
  match b.failures.lookup name with
  | some e => .error e after
  | none =>
    .ok (route.handed returns ((b.responses.lookup name).getD (route.default call.args))) after

theorem run_demandAll (asked : List (Slot × Argument)) (b : Backend) :
    demandAll asked b =
      match asked.findSome? fun (slot, a) => slot.complaint? a with
      | some what => .error (.invalidArgument what) b
      | none => .ok (asked.flatMap fun (slot, a) => slot.documents a) b := by
  induction asked with
  | nil => rfl
  | cons first rest ih =>
    obtain ⟨slot, a⟩ := first
    simp only [demandAll, Slot.demand, List.findSome?_cons, List.flatMap_cons]
    cases slot.complaint? a with
    | some what => rfl
    | none =>
      simp only [bind, EStateM.bind, pure, EStateM.pure, ih]
      cases rest.findSome? fun (slot, a) => slot.complaint? a <;> rfl

/-- What a row as a capability does. -/
theorem run_action (route : Route) (returns : ResultType) (given : List Argument) (b : Backend) :
    route.action returns given b =
      match route.complaint? given with
      | some what => .error (.invalidArgument what) b
      | none => route.answered returns given b := by
  simp only [action, bind, EStateM.bind, run_demandAll, complaint?]
  cases (route.slots.zip given).findSome? fun (slot, a) => slot.complaint? a with
  | some what => rfl
  | none =>
    simp only [Capability.respond, answered, documents]
    cases b.failures.lookup (qualifiedName route.namespaceName route.method) <;> rfl

theorem calls_answered (route : Route) (returns : ResultType) (given : List Argument) (b : Backend) :
    (stateAfter (route.answered returns given b)).calls =
      b.calls.push ⟨route.namespaceName, route.method, route.documents given⟩ := by
  dsimp only [answered]
  cases b.failures.lookup (qualifiedName route.namespaceName route.method) <;> rfl

/-- What a row does with every list of arguments and every backend. -/
structure Describes (route : Route) (ns : Namespace) (row : Method) : Prop where
  named : route.namespaceName = ns.name ∧ route.method = row.name
  types : route.slots.map Slot.type = row.args
  arity : row.invoke.arity = row.args.length
  /-- A wrong number of arguments is refused, and nothing is recorded. -/
  miscounted : ∀ given b, given.length ≠ row.args.length →
    row.invoke.call given b =
      .error (.invalidArgument ("expected " ++ toString row.args.length ++ " argument group(s), got "
        ++ toString given.length)) b
  /-- So is one that the row objects to, with the first complaint. -/
  refused : ∀ given b what, given.length = row.args.length → route.complaint? given = some what →
    row.invoke.call given b = .error (.invalidArgument what) b
  /-- All others are passed on, in a single call under the names of the row. -/
  forwarded : ∀ given b, given.length = row.args.length → route.complaint? given = none →
    row.invoke.call given b = route.answered row.returns given b
  /-- Nothing is recorded just if the arguments are refused. -/
  silent : ∀ given b, (stateAfter (row.invoke.call given b)).calls = b.calls ↔
    given.length ≠ row.args.length ∨ ∃ x ∈ route.slots.zip given, x.1.complaint? x.2 ≠ none

theorem complaint?_ne_none_iff (route : Route) (given : List Argument) :
    route.complaint? given ≠ none ↔ ∃ x ∈ route.slots.zip given, x.1.complaint? x.2 ≠ none := by
  rw [complaint?, Ne, List.findSome?_eq_none_iff]
  simp only [not_forall, exists_prop]

namespace DoneBy

variable {route : Route} {ns : Namespace} {row : Method} (done : route.DoneBy ns row)
  {given : List Argument} (b : Backend)

include done

theorem run_call_of_miscounted (differs : given.length ≠ row.args.length) :
    row.invoke.call given b =
      .error (.invalidArgument ("expected " ++ toString row.args.length ++ " argument group(s), got "
        ++ toString given.length)) b := by
  rw [done.call_of_miscounted differs]
  rfl

theorem run_call_of_complaint {what : String} (count : given.length = row.args.length)
    (complains : route.complaint? given = some what) :
    row.invoke.call given b = .error (.invalidArgument what) b := by
  rw [done.acts given count, run_action, complains]

theorem run_call_of_quiet (count : given.length = row.args.length)
    (quiet : route.complaint? given = none) :
    row.invoke.call given b = route.answered row.returns given b := by
  rw [done.acts given count, run_action, quiet]

/-- Nothing is recorded just if the arguments are refused. -/
theorem calls_eq_iff : (stateAfter (row.invoke.call given b)).calls = b.calls ↔
    given.length ≠ row.args.length ∨ ∃ x ∈ route.slots.zip given, x.1.complaint? x.2 ≠ none := by
  rw [← complaint?_ne_none_iff]
  by_cases count : given.length = row.args.length
  · cases complains : route.complaint? given with
    | some what =>
      rw [done.run_call_of_complaint b count complains]
      exact ⟨fun _ => .inr (Option.some_ne_none what), fun _ => rfl⟩
    | none =>
      rw [done.run_call_of_quiet b count complains, calls_answered]
      constructor
      · -- what is passed on makes one call more
        intro same
        have longer := congrArg Array.size same
        rw [Array.size_push] at longer
        omega
      · rintro (differs | found)
        · exact absurd count differs
        · exact absurd rfl found
  · rw [done.run_call_of_miscounted b count]
    exact ⟨fun _ => .inl count, fun _ => rfl⟩

/-- A row that does what a route says is described by it. -/
theorem describes : route.Describes ns row where
  named := done.named
  types := done.types
  arity := done.arity
  miscounted _ b := done.run_call_of_miscounted b
  refused _ b _ := done.run_call_of_complaint b
  forwarded _ b := done.run_call_of_quiet b
  silent _ b := done.calls_eq_iff b

end DoneBy

end Route

namespace Registry

/-- Each row of the built-in table does what its route says, with every list of arguments and every
backend. -/
theorem forwards_builtin {ns : Namespace} (hns : ns ∈ builtin) {row : Method}
    (hrow : row ∈ ns.methods) : ∃ route ∈ routes, route.Describes ns row := by
  obtain ⟨route, listed, done⟩ := doneBy_builtin hns hrow
  exact ⟨route, listed, done.describes⟩

/-- What the row of entities does. -/
theorem forwards_entity :
    ∃ row, queryNamespace ∈ builtin ∧ row ∈ queryNamespace.methods ∧ row.name = "entity" ∧
      ∃ route ∈ routes, route.Describes queryNamespace row := by
  have there : queryNamespace ∈ builtin := by simp [builtin]
  have row : queryNamespace.methods[2] ∈ queryNamespace.methods := List.getElem_mem _
  exact ⟨_, there, row, rfl, forwards_builtin there row⟩

end Registry

end ScriptHost
