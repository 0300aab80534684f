import ScriptHost.Proofs.Reading
import ScriptHost.Proofs.Session

/-!
# Confinement

* `Heap.Exposes`: what scripts find under the global name of the root;
* `Heap.Confined`: the heaps whose capabilities are rows of a table, all of them below the root;
* `Session.Confined`: what the permissions of a session confine it to;
* `Session.confined`: they do so after every row of operations.
-/

namespace ScriptHost

/-! ### What scripts see -/

theorem foldl_of_fixed {α β : Type} {f : β → α → β} {xs : List α}
    (hf : ∀ b, ∀ a ∈ xs, f b a = b) (b : β) : xs.foldl f b = b := by
  induction xs with
  | nil => rfl
  | cons a rest ih =>
    rw [List.foldl_cons, hf b a (List.mem_cons_self ..)]
    exact ih fun b a h => hf b a (List.mem_cons_of_mem _ h)

/-- The keys of names that are no indices are listed as they stand. -/
theorem Key.arrange_named {names : List String} (named : ∀ n ∈ names, (Key.named n).index? = none) :
    Key.arrange (names.map Key.named) = names.map Key.named := by
  have indexless : ∀ k ∈ names.map Key.named, k.index? = none := by
    intro k hk
    obtain ⟨n, hn, rfl⟩ := List.mem_map.1 hk
    exact named n hn
  have texts : ∀ k ∈ names.map Key.named, k.isText = true := by
    intro k hk
    obtain ⟨n, _, rfl⟩ := List.mem_map.1 hk
    rfl
  rw [Key.arrange, foldl_of_fixed fun acc k hk => by rw [indexless k hk],
    List.filter_eq_self.2 fun k hk => by rw [texts k hk, indexless k hk]; rfl,
    List.filter_eq_nil_iff.2 fun k hk => by rw [texts k hk]; exact Bool.noConfusion]
  simp

/-- What scripts find under the global name of the root, whatever calls may do: the object at
`root`, which has the given names and no others, in their order.  Under another name it has what
all objects inherit under it. -/
structure Heap.Exposes (h : Heap) (names : List String) (root : Ref) : Prop where
  held : ∀ (apply : Apply) (m : Machine), m.heap = h →
    (readVariable [] rootName).run apply m = .ok (.object root) m
  keys : ∀ (apply : Apply) (m : Machine), m.heap = h →
    (ownKeysOf root).run apply m = .ok (names.map Key.named) m
  granted : ∀ name ∈ names, ∃ r : Ref, ∀ (apply : Apply) (m : Machine), m.heap = h →
    (getProperty (.object root) (Key.named name)).run apply m = .ok (.object r) m
  denied : ∀ name ∉ names, ∀ (apply : Apply) (m : Machine), m.heap = h →
    (getProperty (.object root) (Key.named name)).run apply m =
      match h.own? (h.object Family.object.prototype) (Key.named name) with
      | none => .ok .undefined m
      | some p => (readContent p (.object root)).run apply m

namespace Heap

variable {h : Heap} {names : List String} {root : Nat}

/-- A property that the root has is pinned; it has no others. -/
theorem Rooted.own (rooted : h.Rooted names root) (name : String) :
    (∃ p, h.own? (h.object root) (Key.named name) = some p ∧ name ∈ names ∧ ∃ r, p.Pins r) ∨
      h.own? (h.object root) (Key.named name) = none ∧ name ∉ names := by
  have listed : name ∈ names ↔ Key.named name ∈ (h.object root).properties.map Prod.fst := by
    rw [rooted.keys]
    constructor
    · exact fun hn => List.mem_map_of_mem hn
    · intro hn
      obtain ⟨n, hn, same⟩ := List.mem_map.1 hn
      injection same with same
      injection same with same
      exact same ▸ hn
  cases own : h.own? (h.object root) (Key.named name) with
  | some p =>
    obtain ⟨kept, pinned⟩ := rooted.closed.own h own
    refine .inl ⟨p, rfl, listed.2 ?_, pinned⟩
    obtain ⟨before, after, he, _⟩ := List.lookup_eq_some_iff.1 kept
    simp [he]
  | none =>
    refine .inr ⟨rfl, fun hn => ?_⟩
    rw [h.own?_of_plain rooted.closed.plain, Object.stored?_of_no_elements _ _ rooted.closed.elements,
      List.lookup_eq_none_iff] at own
    obtain ⟨e, he, same⟩ := List.mem_map.1 (listed.1 hn)
    simpa [same] using own e he

/-- What scripts find on a heap where the namespaces lie at a root. -/
theorem Rooted.exposes (hh : h.Grounded) (rooted : h.Rooted names root)
    (named : ∀ n ∈ names, (Key.named n).index? = none) : h.Exposes names root where
  held apply m hm := by
    obtain ⟨p, hl, content, _⟩ := rooted.held
    have direct := Object.isProxy_of_plain hh.global
    have own : h.own? (h.object globalRef) (Key.named rootName) = some p := by
      rw [h.own?_of_plain hh.global, Object.stored?_of_index?_none _ _ index?_rootName, hl]
    have read : readVariable [] rootName = readGlobal rootName := rfl
    rw [read, readGlobal]
    simp only [hasProperty, chainLimit, Computation.run_bind, Computation.run_look,
      Computation.run_pure, hasFrom_of_own apply hm direct own, run_getOf apply hm direct own,
      ↓reduceIte, readContent, content]
  keys apply m hm := by
    rw [run_ownKeysOf apply hm (Object.isProxy_of_plain rooted.closed.plain)]
    simp only [ownKeys, rooted.closed.plain, Object.elementKeys, rooted.closed.elements,
      rooted.keys, Key.arrange_named named]
    rfl
  granted name hn := by
    rcases rooted.own name with ⟨p, own, _, r, content, _⟩ | ⟨_, absent⟩
    · refine ⟨r, fun apply m hm => ?_⟩
      rw [run_getProperty apply hm (Object.isProxy_of_plain rooted.closed.plain) own, readContent,
        content]
      rfl
    · exact absurd hn absent
  denied name hn apply m hm := by
    rcases rooted.own name with ⟨p, _, present, _⟩ | ⟨own, _⟩
    · exact absurd present hn
    · obtain ⟨size, some_⟩ : ∃ n, h.objects.size = n + 1 :=
        Nat.exists_eq_succ_of_ne_zero (Nat.ne_of_gt (Nat.lt_of_le_of_lt (Nat.zero_le _) hh.size))
      simp only [getProperty, getSettled, chainLimit, Computation.run_bind, Computation.run_look,
        Computation.run_pure, Look.ask, hm,
        getFrom_of_inherited apply hm rooted.closed.plain own rooted.parent, some_]
      cases inherited : h.own? (h.object Family.object.prototype) (Key.named name) with
      | none => rw [getFrom_of_absent apply hm hh.base inherited hh.top]
      | some p => rw [getFrom_of_own apply hm (Object.isProxy_of_plain hh.base) inherited]

end Heap

/-! ### Heaps -/

/-- A heap with the namespaces of a table at a root, whose capabilities are all rows of the table. -/
structure Heap.Confined (rows : Registry) (h : Heap) : Prop where
  ground : h.Grounded
  rooted : ∃ root, h.Rooted (rows.map Namespace.name) root
  capability : ∀ (r : Nat) (namespaceName method : String),
    (h.object r).kind = .function (.capability namespaceName method) →
      rows.Lists namespaceName method

namespace Heap

variable {rows : Registry} {h h' : Heap}

/-- No change of a script lets it see or call more. -/
theorem Confined.reaches (hh : h.Confined rows) (reached : h.Reaches h') : h'.Confined rows where
  ground := hh.ground.reaches reached
  rooted := hh.rooted.imp fun _ rooted => rooted.reaches hh.ground reached
  capability r ns method hr := hh.capability r ns method (reached.host_function rfl hr)

theorem confined_install {table : Registry} {p : Permissions}
    (named : ∀ ns ∈ table.installed p, ns.name ≠ "__proto__") :
    (install table p).Confined (table.installed p) where
  ground := grounded_install
  rooted := rooted_install named
  capability _ _ _ := capability_install

end Heap

/-! ### Machines -/

/-- What runs on a machine with a confined heap makes the backend act for rows of the table only. -/
def Machine.Serves (rows : Registry) (m m' : Machine) : Prop :=
  m.heap.Reaches m'.heap ∧ (m.heap.Confined rows → rows.Serves m.backend m'.backend)

theorem Machine.stepwise_serves (rows : Registry) : Stepwise (Machine.Serves rows) where
  refl _ := ⟨.refl, fun _ => .refl⟩
  trans first second :=
    ⟨first.1.trans second.1, fun hm => (first.2 hm).trans (second.2 (hm.reaches first.1))⟩
  change c _ := ⟨.step .refl c, fun _ => .refl⟩
  time _ _ _ _ := ⟨.refl, fun _ => .refl⟩

/-- However deep calls nest, the backend acts for granted rows only. -/
theorem callAt_serves {host : Host} (valid : host.registry.fault? = none) (permissions : Permissions)
    (f : Value) (how : Invocation) (args : List Value) (m : Machine) :
    m.Serves (host.registry.installed permissions)
      (stateAfter (callAt host host.callDepth f how args m)) := by
  refine callAt_preserves (Machine.stepwise_serves _) host ?_ ?_ _ f how args m
  · intro m m' f namespaceName method row given held found before
    refine ⟨before.1, fun hm => ?_⟩
    obtain ⟨r, rfl, hr⟩ := held
    obtain ⟨granted, hgranted, grantedName, _⟩ := hm.capability r namespaceName method hr
    obtain ⟨ns, hns, name, hrow, _⟩ := Registry.mem_of_row? found
    have allowed : ns ∈ host.registry.installed permissions :=
      Registry.mem_installed_of_name valid hns hgranted (name.trans grantedName.symm)
    exact (before.2 hm).step allowed hrow given
  · exact fun m m' e before => before

/-! ### Sessions -/

/-- What the permissions of a session confine it to, when it has come from a session to another. -/
structure Session.Confined (start s : Session) : Prop where
  /-- Scripts see the granted namespaces and no others. -/
  shown : ∀ vm ∈ s.sandbox.state.vm?, ∃ root, vm.heap.Exposes start.sandbox.installedNames root
  /-- The session tells the same namespaces. -/
  told : s.sandbox.state.vm?.isSome → s.sandbox.namespaces = start.sandbox.installedNames
  /-- The backend has acted for rows of granted namespaces only. -/
  served : start.sandbox.granted.Serves start.backend s.backend
  /-- If rows record only calls of their own, the new calls are those of rows of granted
  namespaces. -/
  calls : start.sandbox.registry.Faithful → ∃ more : List Call,
    s.backend.calls = start.backend.calls ++ more.toArray ∧
      ∀ c ∈ more, ∃ ns ∈ start.sandbox.registry,
        start.sandbox.permissions.isGranted ns.permission = true ∧ ns.name = c.namespaceName ∧
          ∃ m ∈ ns.methods, m.name = c.method

namespace Session

/-- What every operation keeps of a session that began with the given one. -/
structure Keeps (start s : Session) : Prop where
  settings : start.sandbox.Like s.sandbox
  heap : ∀ vm ∈ s.sandbox.state.vm?, vm.heap.Confined start.sandbox.granted ∧
    vm.namespaces = start.sandbox.installedNames
  served : start.sandbox.granted.Serves start.backend s.backend

variable {start s : Session}

/-- The names of the namespaces of a valid table make properties. -/
theorem named_of_valid {s : Sandbox} (valid : s.registry.fault? = none) {ns : Namespace}
    (hns : ns ∈ s.granted) :
    (Key.named ns.name).index? = none ∧ ns.name ≠ "__proto__" := by
  have gated := Registry.permission_of_fault? valid (Registry.mem_installed.1 hns).1
  exact gated ▸ ns.permission.key_named

/-- What a source leaves that runs on a machine with a confined heap. -/
theorem keeps_conclude (valid : start.sandbox.registry.fault? = none) (hs : start.Keeps s) {vm : Vm}
    (hvm : vm ∈ s.sandbox.state.vm?) (source : Source) (filename : String) :
    start.Keeps ⟨(s.sandbox.evalReady vm s.backend source filename).sandbox,
      (s.sandbox.evalReady vm s.backend source filename).backend⟩ := by
  obtain ⟨confined, names⟩ := hs.heap vm hvm
  have validHost : s.sandbox.host.registry.fault? = none := by
    rw [hs.settings.host]
    exact valid
  have granted : s.sandbox.host.registry.installed start.sandbox.permissions =
      start.sandbox.granted := by
    rw [hs.settings.host]
    rfl
  have run := runSource_preserves (Machine.stepwise_serves start.sandbox.granted) s.sandbox.host
    (granted ▸ callAt_serves validHost start.sandbox.permissions) source
    (s.sandbox.machine vm s.backend)
  unfold Sandbox.evalReady
  generalize runSource s.sandbox.host source (s.sandbox.machine vm s.backend) = ran at run ⊢
  obtain ⟨result, m⟩ := ran
  refine ⟨hs.settings.trans (Sandbox.conclude_like _ _ _ _ _), fun vm' hvm' => ?_, ?_⟩
  · rw [Sandbox.vm?_conclude] at hvm'
    cases hvm'
    exact ⟨confined.reaches run.1, names⟩
  · rw [Sandbox.backend_conclude]
    exact hs.served.trans (run.2 confined)

theorem Keeps.step (valid : start.sandbox.registry.fault? = none) (hs : start.Keeps s)
    {op : Operation} {reply : Reply} {t : Session} (step : s.Step op reply t) : start.Keeps t := by
  have like := hs.settings.trans step.like
  cases step with
  | misused | again | failed => exact hs
  | started =>
    refine ⟨like, fun vm hvm => ?_, hs.served⟩
    obtain rfl : s.sandbox.firstVm = vm := Option.some.inj hvm
    rw [hs.settings.firstVm]
    exact ⟨Heap.confined_install fun ns hns => (named_of_valid valid hns).2, rfl⟩
  | unprepared => exact ⟨like, hs.heap, hs.served⟩
  | ran ready => exact keeps_conclude valid hs (ready ▸ rfl) _ _
  | disposed => exact ⟨like, fun vm hvm => (nomatch hvm), hs.served⟩

/-- What confines a session after every row of operations, from a sandbox that was never used. -/
theorem confined (start : Session) (fresh : start.sandbox.state = .uninitialized)
    (valid : start.sandbox.registry.fault? = none) (ops : List Operation) :
    start.Confined (start.after ops) := by
  have begins : start.Keeps start :=
    ⟨.refl, fun vm hvm => (by rw [fresh] at hvm; cases hvm), .refl⟩
  have kept : start.Keeps (start.after ops) :=
    Session.after_induction (fun s op hs => hs.step valid (s.step op)) ops begins
  refine ⟨fun vm hvm => ?_, fun hvm => ?_, kept.served, fun faithful => ?_⟩
  · obtain ⟨root, rooted⟩ := (kept.heap vm hvm).1.rooted
    refine ⟨root, rooted.exposes (kept.heap vm hvm).1.ground fun name hn => ?_⟩
    obtain ⟨ns, hns, rfl⟩ := List.mem_map.1 hn
    exact (named_of_valid valid hns).1
  · obtain ⟨vm, hvm⟩ := Option.isSome_iff_exists.1 hvm
    rw [← (kept.heap vm hvm).2, Sandbox.namespaces_of_vm? hvm]
  · have granted : start.sandbox.granted.Faithful := fun ns hns =>
      faithful ns (Registry.mem_installed.1 hns).1
    obtain ⟨more, calls, listed⟩ := kept.served.calls granted
    refine ⟨more, calls, fun c hc => ?_⟩
    obtain ⟨ns, hns, name, row⟩ := listed c hc
    obtain ⟨inTable, allowed⟩ := Registry.mem_installed.1 hns
    exact ⟨ns, inTable, allowed, name, row⟩

/-- What confines a session with the default settings that runs an empty text. -/
theorem confined_ofDefaults :
    Sandbox.ofDefaults.state = .uninitialized ∧ Sandbox.ofDefaults.registry.fault? = none ∧
      Confined ⟨.ofDefaults, {}⟩
        ((⟨.ofDefaults, {}⟩ : Session).after [.init, .eval (.text "") {}]) :=
  have valid : Sandbox.ofDefaults.registry.fault? = none := by decide +kernel
  ⟨rfl, valid, confined ⟨.ofDefaults, {}⟩ rfl valid _⟩

end Session

end ScriptHost
