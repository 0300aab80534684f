import ScriptHost.Proofs.Fixtures

/-!
# Namespaces on the heap

A namespace is a proxy before an object that holds the capabilities.  The handler of the proxy has
one function, which guards all reading.

* `Gate`: where the objects of a namespace lie;
* `Heap.Erected`: they are there and refer to each other;
* `Building.erected_addNamespaces`: each granted namespace gets such objects;
* `Heap.Stands`, `Heap.Stands.reaches`: no change of a script takes them apart;
* `Heap.Asked`, `Heap.LeavesAlone`: the other objects that reading asks, and heaps on which they are
  as they were;
* `Heap.Minds`: all that reading asks is as it is when a session starts;
* `Heap.minds_install`, `Heap.Minds.reaches`: it is so when a session starts, and after all that
  leaves it alone.
-/

namespace ScriptHost

/-! ### Objects -/

/-- Where the objects of a namespace lie. -/
structure Gate where
  /-- What scripts see. -/
  proxy : Nat
  handler : Nat
  /-- The function of the handler. -/
  guard : Nat
  /-- What holds the capabilities. -/
  target : Nat
  /-- The names that may be missing without complaint. -/
  passthrough : Nat

/-- The handler of a namespace. -/
def handlerObject (guard : Ref) : Object where
  kind := .plain
  prototype := some Family.object.prototype
  properties := [("get", .plain (.object guard))]

/-- The set of the names that a namespace may lack without complaint. -/
def passthroughObject : Object where
  kind := .collection .set #[some (.ofString "toJSON", .ofString "toJSON"),
    some (.ofString "then", .ofString "then")]
  prototype := some (Family.collection .set).prototype

/-- The objects of a namespace are there. -/
structure Heap.Erected (h : Heap) (ns : Namespace) (g : Gate) : Prop where
  target : globalRef < g.target ∧ g.target < g.proxy
  guarded : globalRef < g.guard ∧ g.guard < g.proxy
  inside : g.proxy < h.objects.size
  proxy : (h.object g.proxy).kind = .proxy g.target g.handler false
  guard : (h.object g.guard).kind =
    .function (.builtin (.gate ns.name ns.available g.passthrough))
  closed : (h.object g.target).Sealed
  parent : (h.object g.target).prototype = some Family.object.prototype
  keys : (h.object g.target).properties.map Prod.fst = ns.methods.map fun m => Key.named m.name
  functions : ∀ e ∈ (h.object g.target).properties, ∃ m ∈ ns.methods, e.1 = Key.named m.name ∧
    ∃ f : Nat, globalRef < f ∧ f < h.objects.size ∧ e.2 = frozenProperty (.object f) ∧
      (h.object f).kind = .function (.capability ns.name m.name)

/-- They stay where the objects stay. -/
theorem Heap.Erected.kept {h h' : Heap} {ns : Namespace} {g : Gate} (erected : h.Erected ns g)
    (size : h.objects.size ≤ h'.objects.size)
    (object : ∀ r : Nat, r < h.objects.size → r ≠ globalRef → h'.object r = h.object r) :
    h'.Erected ns g := by
  obtain ⟨newTarget, beforeTarget⟩ := erected.target
  obtain ⟨newGuard, beforeGuard⟩ := erected.guarded
  have proxy : h'.object g.proxy = h.object g.proxy :=
    object g.proxy erected.inside (Nat.ne_of_gt (Nat.lt_trans newTarget beforeTarget))
  have guard : h'.object g.guard = h.object g.guard :=
    object g.guard (Nat.lt_trans beforeGuard erected.inside) (Nat.ne_of_gt newGuard)
  have target : h'.object g.target = h.object g.target :=
    object g.target (Nat.lt_trans beforeTarget erected.inside) (Nat.ne_of_gt newTarget)
  exact {
    target := erected.target
    guarded := erected.guarded
    inside := Nat.lt_of_lt_of_le erected.inside size
    proxy := by rw [proxy, erected.proxy]
    guard := by rw [guard, erected.guard]
    closed := by rw [target]; exact erected.closed
    parent := by rw [target, erected.parent]
    keys := by rw [target, erected.keys]
    functions := by
      rw [target]
      intro e he
      obtain ⟨m, hm, key, f, beyond, there, property, kind⟩ := erected.functions e he
      refine ⟨m, hm, key, f, beyond, Nat.lt_of_lt_of_le there size, property, ?_⟩
      rw [object f there (Nat.ne_of_gt beyond), kind] }

/-! ### Building -/

namespace Building

variable {ns : Namespace} {passthrough : Ref} {p : Permissions} {r : Registry}

/-- New functions for methods are the properties under their names. -/
theorem addCapabilities_properties (name : String) {methods : List Method}
    (named : ∀ m ∈ methods, m.name ≠ "__proto__") {h : Heap} (ground : globalRef < h.objects.size) :
    (addCapabilities name methods h).1.map Prod.fst = methods.map (fun m => Key.named m.name) ∧
      ∀ e ∈ (addCapabilities name methods h).1, ∃ m ∈ methods, e.1 = Key.named m.name ∧
        ∃ f : Nat, globalRef < f ∧ f < (addCapabilities name methods h).2.objects.size ∧
          e.2 = frozenProperty (.object f) ∧
          ((addCapabilities name methods h).2.object f).kind =
            .function (.capability name m.name) := by
  induction methods generalizing h with
  | nil => exact ⟨rfl, List.forall_mem_nil _⟩
  | cons m rest ih =>
    let o := functionObject (.capability name m.name) (.unicode m.name) 0
    let k := (h.allocate o).2
    have size : k.objects.size = h.objects.size + 1 := h.size_allocate o
    have made : addCapabilities name (m :: rest) h =
        ((Key.named m.name, frozenProperty (.object h.objects.size)) ::
          (addCapabilities name rest k).1, (addCapabilities name rest k).2) := by
      have other := named m (List.mem_cons_self ..)
      simp only [addCapabilities, if_neg other]
      rfl
    obtain ⟨keys, functions⟩ :=
      ih (h := k) (fun m' hm => named m' (List.mem_cons_of_mem _ hm))
        (Nat.lt_of_lt_of_le ground (by omega))
    have grown := Adds.addCapabilities name rest k
    rw [made]
    refine ⟨by simp [keys], fun e he => ?_⟩
    rcases List.mem_cons.1 he with rfl | he
    · refine ⟨m, List.mem_cons_self .., rfl, h.objects.size, ground, ?_, rfl, ?_⟩
      · rw [grown.size]
        omega
      · rw [grown.object h.objects.size (by omega), h.object_allocate_self]
        rfl
    · obtain ⟨m', hm, rest⟩ := functions e he
      exact ⟨m', List.mem_cons_of_mem _ hm, rest⟩

/-- A new namespace gets its objects. -/
theorem erected_addNamespace (passthrough : Ref) (named : ∀ m ∈ ns.methods, m.name ≠ "__proto__")
    {h : Heap} (ground : globalRef < h.objects.size) :
    ∃ g : Gate, (addNamespace passthrough ns h).1 = g.proxy ∧ g.passthrough = passthrough ∧
      (globalRef < g.handler ∧ g.handler < g.proxy) ∧ h.objects.size ≤ g.proxy ∧
      (addNamespace passthrough ns h).2.Erected ns g ∧
      (addNamespace passthrough ns h).2.object g.handler = handlerObject g.guard := by
  obtain ⟨keys, functions⟩ := addCapabilities_properties ns.name named ground
  have grown := Adds.addCapabilities ns.name ns.methods h
  generalize made : addCapabilities ns.name ns.methods h = capabilities at keys functions grown
  obtain ⟨ps, k⟩ := capabilities
  -- the four objects of the namespace, one after the other
  let target : Object :=
    { kind := .plain, prototype := some Family.object.prototype, properties := ps
      extensible := false }
  let guard := functionObject (.builtin (.gate ns.name ns.available passthrough)) (.unicode "get") 3
  let k₁ := (k.allocate target).2
  let k₂ := (k₁.allocate guard).2
  let k₃ := (k₂.allocate (handlerObject k₁.objects.size)).2
  let proxy : Object := { kind := .proxy k.objects.size k₂.objects.size false, prototype := none }
  let k₄ := (k₃.allocate proxy).2
  have whole : addNamespace passthrough ns h = (k₃.objects.size, k₄) := by
    simp only [addNamespace, bind, StateT.bind, made]
    rfl
  have size : k.objects.size = h.objects.size + ns.methods.length := grown.size
  have size₁ : k₁.objects.size = k.objects.size + 1 := k.size_allocate _
  have size₂ : k₂.objects.size = k₁.objects.size + 1 := k₁.size_allocate _
  have size₃ : k₃.objects.size = k₂.objects.size + 1 := k₂.size_allocate _
  have size₄ : k₄.objects.size = k₃.objects.size + 1 := k₃.size_allocate _
  have last : Heap.Extends 1 k₃ k₄ := k₃.extends_allocate _
  have last₂ : Heap.Extends 2 k₂ k₄ := (k₂.extends_allocate _).trans last
  have last₃ : Heap.Extends 3 k₁ k₄ := (k₁.extends_allocate _).trans last₂
  have last₄ : Heap.Extends 4 k k₄ := (k.extends_allocate _).trans last₃
  have proxyMade : k₄.object k₃.objects.size = proxy := k₃.object_allocate_self _
  have handlerMade : k₄.object k₂.objects.size = handlerObject k₁.objects.size :=
    (last.object k₂.objects.size (by omega)).trans (k₂.object_allocate_self _)
  have guardMade : k₄.object k₁.objects.size = guard :=
    (last₂.object k₁.objects.size (by omega)).trans (k₁.object_allocate_self _)
  have targetMade : k₄.object k.objects.size = target :=
    (last₃.object k.objects.size (by omega)).trans (k.object_allocate_self _)
  have ordered : h.objects.size ≤ k.objects.size ∧ k.objects.size < k₁.objects.size ∧
      k₁.objects.size < k₂.objects.size ∧ k₂.objects.size < k₃.objects.size ∧
      k₃.objects.size < k₄.objects.size := by omega
  obtain ⟨old, before₁, before₂, before₃, before₄⟩ := ordered
  have newTarget := Nat.lt_of_lt_of_le ground old
  have newGuard := Nat.lt_trans newTarget before₁
  have newHandler := Nat.lt_trans newGuard before₂
  rw [whole]
  refine ⟨⟨k₃.objects.size, k₂.objects.size, k₁.objects.size, k.objects.size, passthrough⟩, rfl, rfl,
    ⟨newHandler, before₃⟩, Nat.le_of_lt (Nat.lt_of_le_of_lt old
      (Nat.lt_trans before₁ (Nat.lt_trans before₂ before₃))), ?_, handlerMade⟩
  exact {
    target := ⟨newTarget, Nat.lt_trans before₁ (Nat.lt_trans before₂ before₃)⟩
    guarded := ⟨newGuard, Nat.lt_trans before₂ before₃⟩
    inside := before₄
    proxy := congrArg Object.kind proxyMade
    guard := congrArg Object.kind guardMade
    closed := by
      rw [targetMade]
      refine ⟨rfl, rfl, rfl, fun e he => ?_⟩
      obtain ⟨m, -, -, f, -, -, property, -⟩ := functions e he
      exact ⟨f, by rw [property]; exact ⟨rfl, rfl, rfl⟩⟩
    parent := congrArg Object.prototype targetMade
    keys := by rw [targetMade]; exact keys
    functions := by
      rw [targetMade]
      intro e he
      obtain ⟨m, hm, key, f, beyond, there, property, kind⟩ := functions e he
      refine ⟨m, hm, key, f, beyond, Nat.lt_of_lt_of_le there last₄.size_le, property, ?_⟩
      rw [last₄.object f there]
      exact kind }

/-- Each granted namespace gets its objects.  The induction is on the namespaces before it. -/
theorem erected_addNamespaces (passthrough : Ref) (named : ∀ ns ∈ r, ns.name ≠ "__proto__")
    (nodup : (r.map Namespace.name).Nodup) (hns : ns ∈ r)
    (granted : p.isGranted ns.permission = true) (methods : ∀ m ∈ ns.methods, m.name ≠ "__proto__")
    {h : Heap} (ground : globalRef < h.objects.size) :
    ∃ g : Gate, (addNamespaces passthrough p r h).1.lookup (Key.named ns.name) =
        some (frozenProperty (.object g.proxy)) ∧ g.passthrough = passthrough ∧
      (globalRef < g.handler ∧ g.handler < g.proxy) ∧ h.objects.size ≤ g.proxy ∧
      (addNamespaces passthrough p r h).2.Erected ns g ∧
      (addNamespaces passthrough p r h).2.object g.handler = handlerObject g.guard := by
  induction r generalizing h with
  | nil => exact absurd hns List.not_mem_nil
  | cons ns' rest ih =>
    have named' : ∀ ns ∈ rest, ns.name ≠ "__proto__" := fun ns hns =>
      named ns (List.mem_cons_of_mem _ hns)
    obtain ⟨fresh, nodup'⟩ := List.nodup_cons.1 nodup
    rcases List.mem_cons.1 hns with rfl | hns
    · obtain ⟨g, place, passed, handler, newer, erected, made⟩ :=
        erected_addNamespace passthrough methods ground
      have grown := extends_addNamespaces passthrough p named' (addNamespace passthrough ns h).2
      rw [addNamespaces_of_granted granted (named ns (List.mem_cons_self ..)), place]
      refine ⟨g, List.lookup_cons_self, passed, handler, newer,
        erected.kept grown.size_le fun r inside _ => grown.object r inside, ?_⟩
      exact (grown.object g.handler (Nat.lt_trans handler.2 erected.inside)).trans made
    · have other : (Key.named ns.name == Key.named ns'.name) = false := by
        refine beq_eq_false_iff_ne.2 fun same => fresh ?_
        rw [← Key.named_inj.1 same]
        exact List.mem_map_of_mem hns
      have go {k : Heap} (grown : Heap.Extends ns'.objectCount h k) :=
        ih named' nodup' hns (Nat.lt_of_lt_of_le ground grown.size_le)
      cases granted' : p.isGranted ns'.permission with
      | true =>
        have grown := Adds.addNamespace passthrough ns' h
        obtain ⟨g, found, passed, handler, newer, rest⟩ := go grown
        rw [addNamespaces_of_granted granted' (named ns' (List.mem_cons_self ..))]
        refine ⟨g, ?_, passed, handler, Nat.le_trans grown.size_le newer, rest⟩
        rw [List.lookup_cons, other]
        exact found
      | false =>
        have grown := Adds.reserve ns'.objectCount h
        obtain ⟨g, found, passed, handler, newer, rest⟩ := go grown
        rw [addNamespaces_of_denied granted']
        exact ⟨g, found, passed, handler, Nat.le_trans grown.size_le newer, rest⟩

theorem addPassthrough_fst (h : Heap) : (addPassthrough h).1 = h.objects.size := rfl

theorem object_addPassthrough (h : Heap) :
    (addPassthrough h).2.object h.objects.size = passthroughObject := h.object_allocate_self _

/-- What was there before the root stays as it was, but for the global variables. -/
theorem object_addRoot_of_namespaces {h : Heap} {s : Nat}
    (inside : s < (addNamespaces (addPassthrough h).1 p r (addPassthrough h).2).2.objects.size)
    (other : s ≠ globalRef) :
    (addRoot r p h).2.object s =
      (addNamespaces (addPassthrough h).1 p r (addPassthrough h).2).2.object s := by
  rw [addRoot_eq, Heap.object_modify_of_ne _ other, Heap.object_allocate_of_lt _ inside]

theorem size_addRoot (h : Heap) : (addRoot r p h).2.objects.size =
    (addNamespaces (addPassthrough h).1 p r (addPassthrough h).2).2.objects.size + 1 := by
  rw [addRoot_eq, Heap.size_modify, Heap.size_allocate]

end Building

namespace Heap

/-! ### Sessions -/

/-- The objects of a namespace are there, and nothing takes the proxy out of use. -/
structure Stands (h : Heap) (ns : Namespace) (g : Gate) : Prop extends h.Erected ns g where
  inUse : ∀ f, (h.object f).kind ≠ .function (.builtin (.revoke g.proxy))

/-- What takes objects out of use when a session starts takes none out of use that came later than
what all sessions have. -/
theorem not_revoker_install (r : Registry) (p : Permissions) {q : Nat}
    (newer : initial.objects.size ≤ q) (f : Nat) :
    ((install r p).object f).kind ≠ .function (.builtin (.revoke q)) := by
  intro hf
  -- on the bare heap no function takes anything out of use that is not there yet
  have old : ∀ f q : Nat, (bare.object f).kind = .function (.builtin (.revoke q)) →
      q < bare.objects.size := by
    intro f q hf
    rcases object_bare f with ⟨family, same⟩ | ⟨plain, -⟩
    · rw [same] at hf
      cases family <;> cases hf
    · rw [plain] at hf
      cases hf
  rcases (initial_furnished r p).function f _ hf with first | made
  · exact absurd ((bare.reaches_after _).revoked_inside old f q first) (Nat.not_lt.2 newer)
  · cases made

/-- What is there in every session and plain is so when a session starts. -/
theorem plain_install (r : Registry) (p : Permissions) {q : Nat} (first : q ≤ globalRef)
    (plain : (bare.object q).kind = .plain) : ((install r p).object q).kind = .plain := by
  have inside : q < bare.objects.size := Nat.lt_of_le_of_lt first grounded_bare.size
  exact (initial_furnished r p).plain _ (Nat.lt_of_lt_of_le inside (bare.reaches_after _).size_le)
    ((bare.reaches_after _).plain inside plain)

/-- No change of a script takes the objects of a namespace apart. -/
theorem Stands.reaches {h h' : Heap} {ns : Namespace} {g : Gate} (stands : h.Stands ns g)
    (reached : h.Reaches h') : h'.Stands ns g := by
  obtain ⟨newTarget, beforeTarget⟩ := stands.target
  have insideTarget := Nat.lt_trans beforeTarget stands.inside
  have insideGuard := Nat.lt_trans stands.guarded.2 stands.inside
  have target := reached.eq_of_sealed insideTarget stands.closed (Nat.ne_of_gt newTarget)
  have guard : (h.object g.guard).kind.isSimple = true := by rw [stands.guard]; rfl
  exact {
    target := stands.target
    guarded := stands.guarded
    inside := Nat.lt_of_lt_of_le stands.inside reached.size_le
    proxy := reached.proxy stands.inside stands.proxy stands.inUse
    guard := (reached.kind_of_isSimple insideGuard guard).trans stands.guard
    closed := by rw [target]; exact stands.closed
    parent := by rw [target, stands.parent]
    keys := by rw [target, stands.keys]
    functions := by
      rw [target]
      intro e he
      obtain ⟨m, hm, key, f, beyond, there, property, kind⟩ := stands.functions e he
      have simple : (h.object f).kind.isSimple = true := by rw [kind]; rfl
      exact ⟨m, hm, key, f, beyond, Nat.lt_of_lt_of_le there reached.size_le, property,
        (reached.kind_of_isSimple there simple).trans kind⟩
    inUse := reached.not_revoker stands.inside stands.inUse }

/-! ### What reading asks besides -/

/-- The properties that reading some namespace asks for besides those that nothing changes. -/
inductive Asked (h : Heap) : Nat → String → Prop
  | fixture (x : Fixture) : h.Asked x.place x.name
  /-- What reads properties. -/
  | reading {f : Ref} (held : h.HasObject globalRef "Reflect" f) : h.Asked f "get"
  /-- All objects would inherit it, and handlers with them. -/
  | testing : h.Asked Family.object.prototype "has"

/-- The objects that belong to the namespaces and that a script could get hold of and change. -/
inductive Kept (h : Heap) : Nat → Prop
  /-- The set of names that a guard knows. -/
  | passthrough {guard names : Ref} {namespaceName available : String}
    (kind : (h.object guard).kind = .function (.builtin (.gate namespaceName available names))) :
    h.Kept names
  | handler {proxy target handler : Ref} {revoked : Bool}
    (kind : (h.object proxy).kind = .proxy target handler revoked) : h.Kept handler

/-- All that reading asks is as it was. -/
structure LeavesAlone (h h' : Heap) : Prop where
  property : ∀ r name, h.Asked r name →
    (h'.object r).properties.lookup (Key.named name) =
      (h.object r).properties.lookup (Key.named name)
  object : ∀ r, h.Kept r → h'.object r = h.object r

/-- All that reading a namespace asks is as it is when a session starts. -/
structure Minds (h : Heap) (ns : Namespace) (g : Gate) : Prop where
  ground : h.Grounded
  stands : h.Stands ns g
  handler : h.object g.handler = handlerObject g.guard
  passthrough : h.object g.passthrough = passthroughObject
  gives : ∀ x, h.Gives x
  plain : (h.object (Family.collection .set).prototype).kind = .plain
  untested : h.own? (h.object Family.object.prototype) (Key.named "has") = none

/-- When a session starts, each granted namespace stands under its name, and all is as it is then. -/
theorem minds_install {r : Registry} (valid : r.fault? = none) {p : Permissions} {ns : Namespace}
    (hns : ns ∈ r.installed p) (methods : ∀ row ∈ ns.methods, row.name ≠ "__proto__") :
    ∃ g : Gate, ((install r p).object (r.part ns.permission).root).properties.lookup
        (Key.named ns.name) = some (frozenProperty (.object g.proxy)) ∧
      (install r p).Minds ns g := by
  obtain ⟨inTable, granted⟩ := Registry.mem_installed.1 hns
  have named : ∀ ns ∈ r, ns.name ≠ "__proto__" := fun _ => Registry.named_of_fault? valid
  let h := (Building.addConsole initial).2
  have ground : globalRef < h.objects.size := grounded_addConsole.size
  have first : Extends 1 h prepared.2 := h.extends_allocate _
  have prepared_ : globalRef < prepared.2.objects.size := Nat.lt_of_lt_of_le ground first.size_le
  obtain ⟨g, found, passed, handler, newer, erected, made⟩ := Building.erected_addNamespaces
    prepared.1 named (Registry.nodup_of_fault? valid) inTable granted methods prepared_
  let k := (Building.addNamespaces prepared.1 p r prepared.2).2
  have grown : Extends r.objectCount prepared.2 k := Building.extends_addNamespaces _ p named _
  have size : k.objects.size ≤ (install r p).objects.size :=
    Nat.le_of_lt (Nat.lt_of_lt_of_eq (Nat.lt_succ_self _) (Building.size_addRoot h).symm)
  have kept : ∀ s : Nat, s < k.objects.size → s ≠ globalRef → (install r p).object s = k.object s :=
    fun _ inside other => Building.object_addRoot_of_namespaces inside other
  have root := object_root_part valid p ns.permission
  -- the names that may be missing come right before all namespaces
  have passthrough : prepared.1 = h.objects.size := Building.addPassthrough_fst h
  have before : g.passthrough < prepared.2.objects.size := by
    rw [passed, passthrough, first.size]
    exact Nat.lt_succ_self _
  have newPassthrough : globalRef < g.passthrough := by
    rw [passed, passthrough]
    exact ground
  have console : initial.objects.size ≤ h.objects.size :=
    (Building.Keeps.addConsole initial : Furnished [] initial _).size
  refine ⟨g, by rw [root]; exact found, {
    ground := grounded_install
    stands := ⟨erected.kept size kept, not_revoker_install r p ?_⟩
    handler := ?_
    passthrough := ?_
    gives := gives_install valid p
    plain := plain_install r p (by decide) rfl
    untested := own?_prototype_install_of_reserved valid p (by decide) (by decide) }⟩
  · exact Nat.le_trans console (Nat.le_trans first.size_le newer)
  · rw [kept _ (Nat.lt_trans handler.2 erected.inside) (Nat.ne_of_gt handler.1), made]
  · rw [kept _ (Nat.lt_of_lt_of_le before grown.size_le) (Nat.ne_of_gt newPassthrough),
      grown.object _ before, passed, passthrough]
    exact Building.object_addPassthrough h

/-- They are so after all that leaves them alone. -/
theorem Minds.reaches {h h' : Heap} {ns : Namespace} {g : Gate} (minds : h.Minds ns g)
    (reached : h.Reaches h') (alone : h.LeavesAlone h') : h'.Minds ns g := by
  have ground := minds.ground.reaches reached
  have indexless : (Key.named "has").index? = none := by decide
  refine {
    ground
    stands := minds.stands.reaches reached
    handler := (alone.object _ (.handler minds.stands.proxy)).trans minds.handler
    passthrough := (alone.object _ (.passthrough minds.stands.guard)).trans minds.passthrough
    gives := fun x => ?_
    plain := reached.plain (Nat.lt_of_le_of_lt (by decide) minds.ground.size) minds.plain
    untested := ?_ }
  · obtain ⟨f, newer, inside, held, is⟩ := minds.gives x
    obtain ⟨a, found⟩ := held
    refine ⟨f, newer, Nat.lt_of_lt_of_le inside reached.size_le,
      ⟨a, (alone.property _ _ (.fixture x)).trans found⟩, is.reaches inside reached ?_⟩
    rintro rfl
    exact alone.property f "get" (.reading ⟨a, found⟩)
  · have untested := minds.untested
    rw [own?_of_plain _ minds.ground.base, Object.stored?_of_index?_none _ _ indexless] at untested
    rw [own?_of_plain _ ground.base, Object.stored?_of_index?_none _ _ indexless,
      alone.property _ _ .testing, untested]

end Heap

end ScriptHost
