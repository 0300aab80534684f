import ScriptHost.Proofs.Evolution
import ScriptHost.Proofs.Rows

/-!
# The heap that a session starts with

* `Heap.Furnished`: what the host may do to a heap while it builds it;
* `Building.Keeps`: parts of the building that do no more;
* `Heap.install_furnished`: the capabilities of an installed heap are those of its table;
* `Heap.root_install`: where the namespaces lie on it.
-/

namespace ScriptHost

/-! ### Building -/

/-- The functions that the host makes for a table: those that only it makes, where capabilities are
of the table. -/
def Registry.Makes (rows : Registry) : Callable → Prop
  | .capability namespaceName method => rows.Lists namespaceName method
  | c => c.isHost = true

/-- What the host may do to a heap while it builds it: it makes functions for its table only. -/
structure Heap.Furnished (rows : Registry) (h h' : Heap) : Prop where
  size : h.objects.size ≤ h'.objects.size
  plain : ∀ r : Nat, r < h.objects.size → (h.object r).kind = .plain → (h'.object r).kind = .plain
  prototype : ∀ r : Nat, r < h.objects.size → (h'.object r).prototype = (h.object r).prototype
  function : ∀ (r : Nat) (c : Callable), (h'.object r).kind = .function c →
    (h.object r).kind = .function c ∨ rows.Makes c

namespace Heap.Furnished

variable {rows : Registry} {h h' h'' : Heap}

theorem refl : Furnished rows h h where
  size := Nat.le_refl _
  plain _ _ hr := hr
  prototype _ _ := rfl
  function _ _ hr := .inl hr

theorem trans (first : Furnished rows h h') (second : Furnished rows h' h'') :
    Furnished rows h h'' where
  size := Nat.le_trans first.size second.size
  plain r inside hr :=
    second.plain r (Nat.lt_of_lt_of_le inside first.size) (first.plain r inside hr)
  prototype r inside :=
    (second.prototype r (Nat.lt_of_lt_of_le inside first.size)).trans (first.prototype r inside)
  function r c hr := by
    rcases second.function r c hr with h | h
    · exact first.function r c h
    · exact .inr h

end Heap.Furnished

/-- A part of the building of a heap that makes functions for a table only. -/
def Building.Keeps {α : Type} (rows : Registry) (x : Building α) : Prop :=
  ∀ h, Heap.Furnished rows h (x h).2

namespace Building

variable {α β : Type} {rows : Registry}

theorem Keeps.pure (a : α) : Keeps rows (pure a : Building α) := fun _ => .refl

theorem Keeps.bind {x : Building α} {next : α → Building β} (hx : Keeps rows x)
    (hnext : ∀ a, Keeps rows (next a)) : Keeps rows (x >>= next) := fun h =>
  (hx h).trans (hnext _ _)

theorem Keeps.forM {xs : List α} {f : α → Building Unit} (hf : ∀ a, Keeps rows (f a)) :
    Keeps rows (xs.forM f) := by
  induction xs with
  | nil => exact Keeps.pure ()
  | cons a xs ih => exact (hf a).bind fun _ => ih

theorem Keeps.add {o : Object} (ho : ∀ c, o.kind = .function c → rows.Makes c) :
    Keeps rows (add o) := fun h => {
  size := by
    show _ ≤ (h.allocate o).2.objects.size
    rw [h.size_allocate]
    exact Nat.le_succ _
  plain r inside hr := by
    show ((h.allocate o).2.object r).kind = .plain
    rw [h.object_allocate_of_lt inside, hr]
  prototype r inside := by
    show ((h.allocate o).2.object r).prototype = _
    rw [h.object_allocate_of_lt inside]
  function r c hr := by
    change ((h.allocate o).2.object r).kind = _ at hr
    rcases Nat.lt_trichotomy r h.objects.size with inside | rfl | outside
    · rw [h.object_allocate_of_lt inside] at hr
      exact .inl hr
    · rw [h.object_allocate_self] at hr
      exact .inr (ho c hr)
    · rw [Heap.kind_of_size_le _ (by rw [h.size_allocate]; exact outside)] at hr
      cases hr }

/-- A property changes neither what an object inherits from nor whether it is a function. -/
theorem Keeps.define (r : Ref) (key : Key) (p : Property) : Keeps rows (define r key p) := by
  intro h
  have object (s : Nat) (inside : s < h.objects.size) :
      (h.modify r fun o => o.put key p).object s = h.object s ∨
        (h.modify r fun o => o.put key p).object s = (h.object s).put key p := by
    by_cases hs : s = r
    · subst hs
      exact .inr (h.object_modify_self inside _)
    · exact .inl (h.object_modify_of_ne hs _)
  exact {
    size := Nat.le_of_eq (h.size_modify r _).symm
    plain := fun s inside hs => by
      rcases object s inside with same | put
      · exact same ▸ hs
      · show ((h.modify r fun o => o.put key p).object s).kind = .plain
        rw [put, Object.put_kind _ _ _ (Object.isArray_of_plain hs), hs]
    prototype := fun s inside => by
      rcases object s inside with same | put
      · exact congrArg Object.prototype same
      · exact (congrArg Object.prototype put).trans (Object.put_prototype _ _ _)
    function := fun s c hs => by
      change ((h.modify r fun o => o.put key p).object s).kind = _ at hs
      left
      by_cases inside : s < h.objects.size
      · rcases object s inside with same | put
        · rw [← same, hs]
        · rw [put] at hs
          rcases Object.kind_put (h.object s) key p with kind | ⟨_, varies⟩
          · rw [← kind, hs]
          · simp [hs, Kind.varies] at varies
      · rw [Heap.kind_of_size_le _ (by rw [h.size_modify]; exact Nat.le_of_not_lt inside)] at hs
        cases hs }

/-- An object that is no function may always be added. -/
theorem Keeps.add_other {o : Object} (ho : ∀ c, o.kind ≠ .function c) : Keeps rows (Building.add o) :=
  .add fun c hk => absurd hk (ho c)

theorem Keeps.add_function (c : Callable) (made : rows.Makes c) (shown : Text) (parameters : Nat) :
    Keeps rows (Building.add (functionObject c shown parameters)) :=
  .add fun _ hk => Kind.function.inj hk ▸ made

/-! ### Namespaces -/

theorem Keeps.addCapabilities {name : String} {methods : List Method}
    (listed : ∀ m ∈ methods, rows.Lists name m.name) :
    Keeps rows (addCapabilities name methods) := by
  induction methods with
  | nil => exact .pure _
  | cons m rest ih =>
    refine .bind (.add_function (.capability name m.name) (listed m (List.mem_cons_self ..)) _ _) fun f => ?_
    exact .bind (ih fun m' hm' => listed m' (List.mem_cons_of_mem _ hm')) fun ps => .pure _

theorem Keeps.addNamespace {ns : Namespace} (passthrough : Ref)
    (listed : ∀ m ∈ ns.methods, rows.Lists ns.name m.name) :
    Keeps rows (addNamespace passthrough ns) := by
  refine .bind (.addCapabilities listed) fun ps => ?_
  refine .bind (.add_other (by simp)) fun target => ?_
  refine .bind (.add_function (.builtin (.gate ..)) rfl _ _) fun gate => ?_
  exact .bind (.add_other (by simp)) fun handler => .add_other (by simp)

theorem Keeps.reserve (n : Nat) : Keeps rows (reserve n) := by
  induction n with
  | zero => exact .pure ()
  | succ n ih => exact .bind (.add_other (by simp)) fun _ => ih

theorem Keeps.addNamespaces {p : Permissions} {namespaces : List Namespace} (passthrough : Ref)
    (listed : ∀ ns ∈ Registry.installed namespaces p, ∀ m ∈ ns.methods,
      rows.Lists ns.name m.name) :
    Keeps rows (addNamespaces passthrough p namespaces) := by
  induction namespaces with
  | nil => exact .pure _
  | cons ns rest ih =>
    unfold Building.addNamespaces
    cases granted : p.isGranted ns.permission with
    | true =>
      rw [Registry.installed_cons_of_granted granted] at listed
      refine .bind (.addNamespace passthrough (listed ns (List.mem_cons_self ..))) fun r => ?_
      exact .bind (ih fun ns' h => listed ns' (List.mem_cons_of_mem _ h)) fun ps => .pure _
    | false =>
      rw [Registry.installed_cons_of_denied granted] at listed
      exact .bind (.reserve _) fun _ => ih listed

theorem Keeps.addPassthrough : Keeps rows addPassthrough := .add_other (by simp)

theorem Keeps.addConsole : Keeps rows addConsole := by
  refine .bind (.add_other (by simp)) fun r => ?_
  refine .bind (.forM fun level => ?_) fun _ => .define _ _ _
  exact .bind (.add_function (.console level) rfl _ _) fun f => .define _ _ _

theorem Keeps.addRoot (r : Registry) (p : Permissions) :
    Keeps (r.installed p) (addRoot r p) := by
  refine .bind .addPassthrough fun passthrough => ?_
  refine .bind (.addNamespaces passthrough fun ns hns m hm => ⟨ns, hns, rfl, m, hm, rfl⟩) fun ps => ?_
  exact .bind (.add_other (by simp [rootObject])) fun root => .define _ _ _

end Building

theorem Heap.initial_furnished (r : Registry) (p : Permissions) :
    Furnished (r.installed p) initial (install r p) :=
  Furnished.trans (Building.Keeps.addConsole initial) (Building.Keeps.addRoot r p _)

/-! ### The ground of every heap -/

/-- What the heaps of all sessions have in common: a plain object for the global variables, and one
that all others inherit from. -/
structure Heap.Grounded (h : Heap) : Prop where
  size : globalRef < h.objects.size
  global : (h.object globalRef).kind = .plain
  base : (h.object Family.object.prototype).kind = .plain
  top : (h.object Family.object.prototype).prototype = none

namespace Heap

variable {rows table : Registry} {p : Permissions} {h h' : Heap}

theorem Grounded.base_inside (hh : h.Grounded) : Family.object.prototype < h.objects.size :=
  Nat.lt_of_le_of_lt (by decide) hh.size

theorem Grounded.reaches (hh : h.Grounded) (reached : h.Reaches h') : h'.Grounded where
  size := Nat.lt_of_lt_of_le hh.size reached.size_le
  global := reached.plain hh.size hh.global
  base := reached.plain hh.base_inside hh.base
  top := (reached.prototype hh.base_inside).trans hh.top

theorem Grounded.furnished (hh : h.Grounded) (built : Furnished rows h h') : h'.Grounded where
  size := Nat.lt_of_lt_of_le hh.size built.size
  global := built.plain _ hh.size hh.global
  base := built.plain _ hh.base_inside hh.base
  top := (built.prototype _ hh.base_inside).trans hh.top

theorem size_bare : bare.objects.size = globalRef + 1 := by
  have all : Family.all.length = globalRef := by
    rw [← List.length_map (f := Family.prototype), Family.map_prototype_all, List.length_range]
  simp [bare, all]

theorem grounded_bare : bare.Grounded where
  size := by rw [size_bare]; exact Nat.lt_succ_self _
  global := rfl
  base := rfl
  top := rfl

/-- Before anything is built there are the prototypes of the families, and plain objects without
properties. -/
theorem object_bare (r : Nat) :
    (∃ f, bare.object r = Realm.barePrototype f) ∨
      (bare.object r).kind = .plain ∧ (bare.object r).properties = [] := by
  simp only [object, bare, Array.getD_eq_getD_getElem?, Array.getElem?_push]
  by_cases inside : r < Family.all.length
  · left
    refine ⟨Family.all[r], ?_⟩
    rw [if_neg (by simpa using Nat.ne_of_lt inside)]
    simp [List.getElem?_eq_getElem inside]
  · right
    split
    · exact ⟨rfl, rfl⟩
    · simp [List.getElem?_eq_none (Nat.le_of_not_lt inside)]

/-- No prototype of a family is a function of the host. -/
theorem function_bare {r : Nat} {c : Callable} (hr : (bare.object r).kind = .function c) :
    c.isHost = false := by
  rcases object_bare r with ⟨f, hf⟩ | ⟨plain, -⟩
  · rw [hf] at hr
    cases f <;> cases hr
    rfl
  · rw [plain] at hr
    cases hr

theorem grounded_initial : initial.Grounded := grounded_bare.reaches (bare.reaches_after _)

theorem grounded_install : (install table p).Grounded :=
  grounded_initial.furnished (initial_furnished table p)

/-- The capabilities of an installed heap are those of the granted namespaces of its table. -/
theorem capability_install {r : Nat} {namespaceName method : String}
    (hr : ((install table p).object r).kind = .function (.capability namespaceName method)) :
    (table.installed p).Lists namespaceName method := by
  rcases (initial_furnished table p).function r _ hr with built | listed
  · have early := (bare.reaches_after Realm.addAll).host_function rfl built
    cases function_bare early
  · exact listed

/-! ### The root -/

/-- Where the namespaces of the given names lie on a heap, for good. -/
structure Rooted (h : Heap) (names : List String) (root : Nat) : Prop where
  inside : root < h.objects.size
  elsewhere : root ≠ globalRef
  held : ∃ p, (h.object globalRef).properties.lookup (Key.named rootName) = some p ∧ p.Pins root
  closed : (h.object root).Sealed
  parent : (h.object root).prototype = some Family.object.prototype
  keys : (h.object root).properties.map Prod.fst = names.map Key.named

theorem index?_rootName : (Key.named rootName).index? = none := by decide

theorem Rooted.reaches {names : List String} {root : Nat} (hh : h.Grounded)
    (rooted : h.Rooted names root) (reached : h.Reaches h') : h'.Rooted names root := by
  obtain ⟨p, hl, hp⟩ := rooted.held
  have same := reached.eq_of_sealed rooted.inside rooted.closed rooted.elsewhere
  exact {
    inside := Nat.lt_of_lt_of_le rooted.inside reached.size_le
    elsewhere := rooted.elsewhere
    held := ⟨p, reached.lookup_of_pins hh.size (Kind.isSimple_of_plain hh.global) index?_rootName hl hp, hp⟩
    closed := same ▸ rooted.closed
    parent := same ▸ rooted.parent
    keys := same ▸ rooted.keys }

end Heap

/-- A granted namespace gets its objects, and a property of the root. -/
theorem Building.addNamespaces_of_granted {passthrough : Ref} {p : Permissions} {ns : Namespace}
    (granted : p.isGranted ns.permission = true) (named : ns.name ≠ "__proto__")
    {rest : List Namespace} {h : Heap} :
    addNamespaces passthrough p (ns :: rest) h =
      ((Key.named ns.name, frozenProperty (.object (addNamespace passthrough ns h).1)) ::
          (addNamespaces passthrough p rest (addNamespace passthrough ns h).2).1,
        (addNamespaces passthrough p rest (addNamespace passthrough ns h).2).2) := by
  simp only [addNamespaces, granted, if_true, if_neg named]
  rfl

/-- A denied namespace gets its places only. -/
theorem Building.addNamespaces_of_denied {passthrough : Ref} {p : Permissions} {ns : Namespace}
    (denied : p.isGranted ns.permission = false) {rest : List Namespace} {h : Heap} :
    addNamespaces passthrough p (ns :: rest) h =
      addNamespaces passthrough p rest (reserve ns.objectCount h).2 := by
  simp only [addNamespaces, denied, Bool.false_eq_true, if_false]
  rfl

/-- The properties of new namespaces hold them for good, under their names. -/
theorem Building.addNamespaces_properties (passthrough : Ref) {p : Permissions}
    {namespaces : List Namespace}
    (named : ∀ ns ∈ Registry.installed namespaces p, ns.name ≠ "__proto__") (h : Heap) :
    (addNamespaces passthrough p namespaces h).1.map Prod.fst =
        ((Registry.installed namespaces p).map Namespace.name).map Key.named ∧
      ∀ e ∈ (addNamespaces passthrough p namespaces h).1, ∃ r, e.2.Pins r := by
  induction namespaces generalizing h with
  | nil => exact ⟨rfl, List.forall_mem_nil _⟩
  | cons ns rest ih =>
    cases granted : p.isGranted ns.permission with
    | true =>
      rw [Registry.installed_cons_of_granted granted] at named ⊢
      have head : ns.name ≠ "__proto__" := named ns (List.mem_cons_self ..)
      rw [addNamespaces_of_granted granted head]
      obtain ⟨keys, pinned⟩ := ih (fun ns' h => named ns' (List.mem_cons_of_mem _ h))
        (addNamespace passthrough ns h).2
      refine ⟨by simp [keys], fun e he => ?_⟩
      rcases List.mem_cons.1 he with rfl | he
      · exact ⟨_, rfl, rfl, rfl⟩
      · exact pinned e he
    | false =>
      rw [Registry.installed_cons_of_denied granted] at named ⊢
      rw [addNamespaces_of_denied granted]
      exact ih named _

/-- The root as it is made. -/
theorem Heap.object_root {h : Heap} (hh : h.Grounded) (ps : List (Key × Property)) :
    ((h.allocate (Building.rootObject ps)).2.modify globalRef fun o =>
      o.put rootName (frozenProperty (.object h.objects.size))).object h.objects.size =
        Building.rootObject ps := by
  rw [Heap.object_modify_of_ne _ (Nat.ne_of_gt hh.size), h.object_allocate_self]

/-- A sealed object that the global name of the root holds for good is the root. -/
theorem Heap.rooted_of_added {h : Heap} (hh : h.Grounded) {names : List String}
    {ps : List (Key × Property)} (keys : ps.map Prod.fst = names.map Key.named)
    (pinned : ∀ e ∈ ps, ∃ r, e.2.Pins r) :
    ((h.allocate (Building.rootObject ps)).2.modify globalRef fun o =>
      o.put rootName (frozenProperty (.object h.objects.size))).Rooted names h.objects.size := by
  have inside : globalRef < (h.allocate (Building.rootObject ps)).2.objects.size := by
    rw [h.size_allocate]
    exact Nat.lt_succ_of_lt hh.size
  have root := Heap.object_root hh ps
  exact {
    inside := by rw [Heap.size_modify, h.size_allocate]; exact Nat.lt_succ_self _
    elsewhere := Nat.ne_of_gt hh.size
    held := by
      refine ⟨frozenProperty (.object h.objects.size), ?_, rfl, rfl, rfl⟩
      rw [Heap.object_modify_self _ inside, Object.put_of_index?_none _ _ _ index?_rootName]
      exact lookup_putIn_self
    closed := by
      rw [root]
      exact ⟨rfl, rfl, rfl, pinned⟩
    parent := by rw [root]; rfl
    keys := by rw [root]; exact keys }

/-- A heap with its namespaces. -/
theorem Building.grounded_addNamespaces {table : Registry} {p : Permissions} {h : Heap}
    (hh : h.Grounded) :
    (addNamespaces (addPassthrough h).1 p table (addPassthrough h).2).2.Grounded :=
  (hh.furnished (Keeps.addPassthrough h : Heap.Furnished (table.installed p) h _)).furnished
    (Keeps.addNamespaces (addPassthrough h).1 (fun ns hns m hm => ⟨ns, hns, rfl, m, hm, rfl⟩) _)

/-- The granted namespaces of a table come to lie under the global name of the root, which comes
right after them. -/
theorem Building.rooted_addRoot {table : Registry} {p : Permissions}
    (named : ∀ ns ∈ table.installed p, ns.name ≠ "__proto__") {h : Heap} (hh : h.Grounded) :
    (addRoot table p h).2.Rooted ((table.installed p).map Namespace.name)
      (addNamespaces (addPassthrough h).1 p table (addPassthrough h).2).2.objects.size := by
  obtain ⟨keys, pinned⟩ := addNamespaces_properties (addPassthrough h).1 named (addPassthrough h).2
  exact Heap.rooted_of_added (grounded_addNamespaces hh) keys pinned

/-- The heap with the console. -/
theorem Heap.grounded_addConsole : (Building.addConsole initial).2.Grounded :=
  grounded_initial.furnished (Building.Keeps.addConsole initial : Furnished [] initial _)

/-- An installed heap has its granted namespaces under the global name of the root. -/
theorem Heap.rooted_install {table : Registry} {p : Permissions}
    (named : ∀ ns ∈ table.installed p, ns.name ≠ "__proto__") :
    ∃ root, (install table p).Rooted ((table.installed p).map Namespace.name) root :=
  ⟨_, Building.rooted_addRoot named grounded_addConsole⟩

end ScriptHost
