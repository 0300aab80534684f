import ScriptHost.Proofs.Computation
import ScriptHost.Proofs.Rules
import ScriptHost.Script.Run

/-!
# The rows of a table

* `Registry.Lists`: whether a table has a row under the names of a namespace and a method;
* `Registry.row?_of_mem`, `Registry.arity_of_mem`: in a table that keeps the rules each row is found
  under its names, and its action takes as many argument groups as it declares;
* `Registry.mem_installed_of_name`: in a table that keeps the rules the name of a namespace tells
  whether it is granted;
* `Registry.Serves`: the backends that the actions of the rows lead to;
* `Capability.Asks`, `Capability.Records`: actions that do nothing but ask the backend under some
  names, so that they record only calls under these;
* `Registry.Faithful`: whether each action records only calls of its own row; then the calls of
  `Registry.Serves` are those of rows.
-/

namespace ScriptHost

/-- Whether a table has a row under the names of a namespace and a method. -/
def Registry.Lists (rows : Registry) (namespaceName method : String) : Prop :=
  ∃ ns ∈ rows, ns.name = namespaceName ∧ ∃ m ∈ ns.methods, m.name = method

/-! ### Names -/

/-- The name of a namespace that a permission gates is no index and has no meaning of its own. -/
theorem Permission.key_named (p : Permission) :
    (Key.named p.key).index? = none ∧ p.key ≠ "__proto__" := by
  cases p <;> decide

namespace Registry

variable {rows : Registry}

/-- In a table that keeps the rules each namespace has the name of the permission that gates it. -/
theorem permission_of_fault? (valid : rows.fault? = none) {ns : Namespace} (hns : ns ∈ rows) :
    ns.permission.key = ns.name :=
  ((rows.fault?_eq_none_iff.1 valid).namespaces ns hns).gate

theorem mem_installed {permissions : Permissions} {ns : Namespace} :
    ns ∈ rows.installed permissions ↔ ns ∈ rows ∧ permissions.isGranted ns.permission = true := by
  simp [installed]

theorem installed_cons_of_granted {permissions : Permissions} {ns : Namespace}
    (granted : permissions.isGranted ns.permission = true) :
    installed (ns :: rows) permissions = ns :: rows.installed permissions := by
  simp [installed, granted]

theorem installed_cons_of_denied {permissions : Permissions} {ns : Namespace}
    (denied : permissions.isGranted ns.permission = false) :
    installed (ns :: rows) permissions = rows.installed permissions := by
  simp [installed, denied]

/-- In a table that keeps the rules the name of a namespace tells whether it is granted. -/
theorem mem_installed_of_name (valid : rows.fault? = none) {permissions : Permissions}
    {ns granted : Namespace} (hns : ns ∈ rows) (hgranted : granted ∈ rows.installed permissions)
    (name : ns.name = granted.name) : ns ∈ rows.installed permissions := by
  rw [mem_installed] at hgranted ⊢
  have same : ns.permission = granted.permission := Permission.key_injective (by
    rw [permission_of_fault? valid hns, permission_of_fault? valid hgranted.1, name])
  exact ⟨hns, same ▸ hgranted.2⟩

/-- Scripts find the namespace of a permission if the table has it and the permission is granted. -/
theorem key_mem_installed (valid : rows.fault? = none) {permissions : Permissions}
    {gate : Permission} :
    gate.key ∈ (rows.installed permissions).map Namespace.name ↔
      gate.key ∈ rows.map Namespace.name ∧ permissions.isGranted gate = true := by
  have gated {ns : Namespace} (hns : ns ∈ rows) (name : ns.name = gate.key) : ns.permission = gate :=
    Permission.key_injective ((permission_of_fault? valid hns).trans name)
  constructor
  · intro there
    obtain ⟨ns, hns, name⟩ := List.mem_map.1 there
    obtain ⟨inTable, granted⟩ := mem_installed.1 hns
    exact ⟨name ▸ List.mem_map_of_mem inTable, gated inTable name ▸ granted⟩
  · rintro ⟨there, granted⟩
    obtain ⟨ns, hns, name⟩ := List.mem_map.1 there
    exact name ▸ List.mem_map_of_mem (mem_installed.2 ⟨hns, (gated hns name).symm ▸ granted⟩)

/-- What a script calls under a name is a row of that name. -/
theorem mem_of_row? {host : Host} {namespaceName method : String} {row : Method}
    (found : host.row? namespaceName method = some row) :
    ∃ ns ∈ host.registry, ns.name = namespaceName ∧ row ∈ ns.methods ∧ row.name = method := by
  obtain ⟨ns, hns, hrow⟩ := Option.bind_eq_some_iff.1 found
  have name := List.find?_some hns
  have rowName := List.find?_some hrow
  exact ⟨ns, List.mem_of_find?_eq_some hns, by simpa using name,
    List.mem_of_find?_eq_some hrow, by simpa using rowName⟩

/-- No two namespaces of a table that keeps the rules share a name. -/
theorem nodup_of_fault? (valid : rows.fault? = none) : (rows.map Namespace.name).Nodup :=
  List.pairwise_map.2 (rows.fault?_eq_none_iff.1 valid).distinct

/-- In a table that keeps the rules each row is found under its names. -/
theorem row?_of_mem {host : Host} (valid : host.registry.fault? = none) {ns : Namespace}
    (hns : ns ∈ host.registry) {row : Method} (hrow : row ∈ ns.methods) :
    host.row? ns.name row.name = some row := by
  have wellFormed := host.registry.fault?_eq_none_iff.1 valid
  have found : host.registry.namespace? ns.name = some ns :=
    find?_of_distinct wellFormed.distinct hns
  rw [Host.row?, found]
  exact find?_of_distinct (wellFormed.namespaces ns hns).distinct hrow

/-- In a table that keeps the rules each action takes as many argument groups as its row declares. -/
theorem arity_of_mem (valid : rows.fault? = none) {ns : Namespace} (hns : ns ∈ rows) {row : Method}
    (hrow : row ∈ ns.methods) : row.invoke.arity = row.args.length :=
  (((rows.fault?_eq_none_iff.1 valid).namespaces ns hns).methods row hrow).arity

/-! ### Actions -/

/-- The backends that the actions of the rows of a table lead to, one after the other. -/
inductive Serves (rows : Registry) (b : Backend) : Backend → Prop
  | refl : Serves rows b b
  | step {b' : Backend} (served : Serves rows b b') {ns : Namespace} (hns : ns ∈ rows) {m : Method}
    (hm : m ∈ ns.methods) (given : List Argument) :
    Serves rows b (stateAfter (m.invoke.call given b'))

theorem Serves.trans {b b' b'' : Backend} (first : rows.Serves b b') (second : rows.Serves b' b'') :
    rows.Serves b b'' := by
  induction second with
  | refl => exact first
  | step _ hns hm given ih => exact ih.step hns hm given

end Registry

/-- Whether an action does nothing with the backend but ask it for answers under the given names. -/
inductive Capability.Asks (namespaceName method : String) : {α : Type} → Capability α → Prop
  | pure {α : Type} (a : α) : Asks namespaceName method (pure a : Capability α)
  | throw {α : Type} (e : CapabilityError) : Asks namespaceName method (throw e : Capability α)
  | respond (args : List Json) (default : Json) :
    Asks namespaceName method (respond namespaceName method args default)
  | bind {α β : Type} {x : Capability α} {next : α → Capability β}
    (hx : Asks namespaceName method x) (hnext : ∀ a, Asks namespaceName method (next a)) :
    Asks namespaceName method (x >>= next)

/-- Whether an action records nothing but calls under the given names. -/
def Capability.Records {α : Type} (namespaceName method : String) (x : Capability α) : Prop :=
  ∀ b, ∃ more : List Call, (stateAfter (x b)).calls = b.calls ++ more.toArray ∧
    ∀ c ∈ more, c.namespaceName = namespaceName ∧ c.method = method

/-- An action that only asks under some names records nothing but calls under them. -/
theorem Capability.Asks.records {α : Type} {ns method : String} {x : Capability α}
    (asks : x.Asks ns method) : x.Records ns method := by
  induction asks with
  | pure a => exact fun b => ⟨[], (Array.append_empty).symm, by simp⟩
  | throw e => exact fun b => ⟨[], (Array.append_empty).symm, by simp⟩
  | respond args default =>
    intro b
    refine ⟨[⟨ns, method, args⟩], ?_, by simp⟩
    cases h : b.failures.lookup (qualifiedName ns method) <;>
      simp [Capability.respond, h, stateAfter]
  | @bind _ _ x next _ _ ihx ihnext =>
    intro b
    obtain ⟨first, calls, own⟩ := ihx b
    simp only [Bind.bind, EStateM.bind]
    cases h : x b with
    | error e b' =>
      rw [h] at calls
      exact ⟨first, calls, own⟩
    | ok a b' =>
      rw [h] at calls
      obtain ⟨second, calls', own'⟩ := ihnext a b'
      refine ⟨first ++ second, ?_, fun c hc => (List.mem_append.1 hc).elim (own c) (own' c)⟩
      show (stateAfter (next a b')).calls = _
      rw [calls', show b'.calls = _ from calls]
      simp

/-- Whether each action of a namespace does nothing but ask the backend under the names of its own
row. -/
def Namespace.Asks (ns : Namespace) : Prop :=
  ∀ m ∈ ns.methods, ∀ given, (m.invoke.call given).Asks ns.name m.name

/-- Whether each action of a namespace records nothing but calls of its own row. -/
def Namespace.Faithful (ns : Namespace) : Prop :=
  ∀ m ∈ ns.methods, ∀ given, (m.invoke.call given).Records ns.name m.name

namespace Registry

/-- Whether each action of a table records nothing but calls of its own row. -/
def Faithful (rows : Registry) : Prop := ∀ ns ∈ rows, ns.Faithful

/-- What the actions of faithful rows record are calls of rows. -/
theorem Serves.calls {rows : Registry} (faithful : rows.Faithful) {b b' : Backend}
    (served : rows.Serves b b') :
    ∃ more : List Call, b'.calls = b.calls ++ more.toArray ∧
      ∀ c ∈ more, rows.Lists c.namespaceName c.method := by
  induction served with
  | refl => exact ⟨[], by simp, by simp⟩
  | @step b' _ ns hns m hm given ih =>
    obtain ⟨first, calls, listed⟩ := ih
    obtain ⟨second, calls', own⟩ := faithful ns hns m hm given b'
    refine ⟨first ++ second, by rw [calls', calls]; simp, fun c hc => ?_⟩
    rcases List.mem_append.1 hc with early | late
    · exact listed c early
    · obtain ⟨name, method⟩ := own c late
      exact ⟨ns, hns, name.symm, m, hm, method.symm⟩

end Registry

end ScriptHost
