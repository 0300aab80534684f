import ScriptHost.Proofs.Installation
import ScriptHost.Proofs.Parts

/-!
# Where namespaces lie

* `Registry.part`: the part of the heap of a session that belongs to the namespace of a permission;
* `Heap.Extends`, `Building.Same`: steps of the building that add objects, and steps that do the
  same to heaps that are the same but for a part;
* `Heap.install_sameBut`: the heaps of two sessions whose permissions differ in one of them are the
  same but for its part.
-/

namespace ScriptHost

/-! ### Places -/

/-- Where the objects of the namespace of a permission begin, in a row of namespaces whose objects
begin at a place, and how many they are. -/
def Registry.places (gate : Permission) : Ref → Registry → Ref × Nat
  | start, [] => (start, 0)
  | start, ns :: rest =>
    if ns.permission = gate then (start, ns.objectCount)
    else places gate (start + ns.objectCount) rest

/-- How many objects a row of namespaces takes. -/
def Registry.objectCount (r : Registry) : Nat := total (r.map Namespace.objectCount)

/-- The heap before there are namespaces on it, and where the names lie that they may lack. -/
def Heap.prepared : Ref × Heap :=
  Building.addPassthrough (Building.addConsole Heap.initial).2

/-- What belongs to the namespace of a permission on the heaps of a table: its objects, and its
property of the root. -/
def Registry.part (r : Registry) (gate : Permission) : Part where
  root := Heap.prepared.2.objects.size + r.objectCount
  key := .named gate.key
  first := (r.places gate Heap.prepared.2.objects.size).1
  count := (r.places gate Heap.prepared.2.objects.size).2

/-! ### Objects that are added -/

/-- A heap with so many objects more. -/
structure Heap.Extends (n : Nat) (h h' : Heap) : Prop where
  size : h'.objects.size = h.objects.size + n
  cells : h'.cells = h.cells
  symbols : h'.symbols = h.symbols
  object : ∀ r : Nat, r < h.objects.size → h'.object r = h.object r

namespace Heap

variable {h h' k k' : Heap} {n : Nat}

theorem extends_allocate (h : Heap) (o : Object) : Extends 1 h (h.allocate o).2 where
  size := h.size_allocate o
  cells := rfl
  symbols := rfl
  object _ inside := h.object_allocate_of_lt inside o

theorem Extends.trans {n m : Nat} {h'' : Heap} (first : Extends n h h')
    (second : Extends m h' h'') : Extends (n + m) h h'' where
  size := by rw [second.size, first.size, Nat.add_assoc]
  cells := second.cells.trans first.cells
  symbols := second.symbols.trans first.symbols
  object r inside := by
    have inside' : r < h'.objects.size := by rw [first.size]; omega
    rw [second.object r inside', first.object r inside]

theorem Extends.size_le (extends_ : Extends n h h') : h.objects.size ≤ h'.objects.size :=
  Nat.le_trans (Nat.le_add_right ..) (Nat.le_of_eq extends_.size.symm)

/-- Objects that are added to both heaps in the row of the part keep the heaps the same but for
it. -/
theorem SameBut.extends {p : Part} (same : SameBut p h h') (left : Extends n h k)
    (right : Extends n h' k') (first : p.first = h.objects.size) (count : p.count = n)
    (room : h.objects.size + n ≤ p.root) : SameBut p k k' := by
  have size : k'.objects.size = k.objects.size := by rw [right.size, left.size, same.size]
  have beyond {r : Ref} (hr : h.objects.size + n ≤ r) : k'.object r = k.object r := by
    rw [object_of_size_le _ (by rw [right.size, same.size]; exact hr),
      object_of_size_le _ (by rw [left.size]; exact hr)]
  refine ⟨size, ?_, ?_, fun r outside other => ?_, ?_⟩
  · rw [right.cells, left.cells, same.cells]
  · rw [right.symbols, left.symbols, same.symbols]
  · by_cases inside : r < h.objects.size
    · rw [right.object r (same.size ▸ inside), left.object r inside, same.object r outside other]
    · refine beyond (Nat.le_of_not_lt fun covered => outside ?_)
      exact ⟨first ▸ Nat.le_of_not_lt inside, by rw [first, count]; exact covered⟩
  · rw [beyond room]
    exact .refl _

end Heap

namespace Building

variable {α β : Type}

/-- A step of the building that adds so many objects. -/
def Adds (n : Nat) (x : Building α) : Prop := ∀ h, Heap.Extends n h (x h).2

theorem Adds.pure (a : α) : Adds 0 (pure a : Building α) := fun _ => ⟨rfl, rfl, rfl, fun _ _ => rfl⟩

theorem Adds.bind {n m : Nat} {x : Building α} {next : α → Building β} (hx : Adds n x)
    (hnext : ∀ a, Adds m (next a)) : Adds (n + m) (x >>= next) := fun h =>
  (hx h).trans (hnext _ _)

theorem Adds.add (o : Object) : Adds 1 (add o) := fun h => h.extends_allocate o

theorem Adds.addCapabilities (name : String) (methods : List Method) :
    Adds methods.length (addCapabilities name methods) := by
  induction methods with
  | nil => exact .pure _
  | cons m rest ih =>
    rw [List.length_cons, Nat.add_comm]
    exact .bind (.add _) fun _ => ih.bind fun _ => .pure _

theorem Adds.addNamespace (passthrough : Ref) (ns : Namespace) :
    Adds ns.objectCount (addNamespace passthrough ns) :=
  .bind (.addCapabilities ns.name ns.methods) fun _ => .bind (.add _) fun _ =>
    .bind (.add _) fun _ => .bind (.add _) fun _ => .add _

theorem Adds.reserve (n : Nat) : Adds n (reserve n) := by
  induction n with
  | zero => exact .pure ()
  | succ n ih =>
    have added : Adds (1 + n) (Building.reserve (n + 1)) := .bind (.add _) fun _ => ih
    rwa [Nat.add_comm 1 n] at added

/-! ### Steps on both heaps -/

/-- A step of the building gives the same on heaps that are the same but for a part, and keeps them
so. -/
def Same (p : Part) (x : Building α) : Prop :=
  ∀ h h', Heap.SameBut p h h' → (x h').1 = (x h).1 ∧ Heap.SameBut p (x h).2 (x h').2

variable {p : Part}

theorem Same.pure (a : α) : Same p (pure a : Building α) := fun _ _ same => ⟨rfl, same⟩

theorem Same.bind {x : Building α} {next : α → Building β} (hx : Same p x)
    (hnext : ∀ a, Same p (next a)) : Same p (x >>= next) := by
  intro h h' same
  obtain ⟨value, same⟩ := hx h h' same
  show (next (x h').1 (x h').2).1 = (next (x h).1 (x h).2).1 ∧
    Heap.SameBut p (next (x h).1 (x h).2).2 (next (x h').1 (x h').2).2
  rw [value]
  exact hnext _ _ _ same

theorem Same.add (o : Object) : Same p (add o) := fun _ _ same => ⟨same.size, same.allocate o⟩

theorem Same.addCapabilities (name : String) (methods : List Method) :
    Same p (addCapabilities name methods) := by
  induction methods with
  | nil => exact .pure _
  | cons m rest ih => exact .bind (.add _) fun _ => ih.bind fun _ => .pure _

theorem Same.addNamespace (passthrough : Ref) (ns : Namespace) :
    Same p (addNamespace passthrough ns) :=
  .bind (.addCapabilities ns.name ns.methods) fun _ => .bind (.add _) fun _ =>
    .bind (.add _) fun _ => .bind (.add _) fun _ => .add _

theorem Same.reserve (n : Nat) : Same p (reserve n) := by
  induction n with
  | zero => exact .pure ()
  | succ n ih => exact .bind (.add _) fun _ => ih

/-! ### Namespaces on both heaps -/

/-- A namespace adds its objects, whether it is granted or not, and no property under another name
than its own. -/
theorem addNamespaces_cons (passthrough : Ref) (permissions : Permissions) {ns : Namespace}
    (named : ns.name ≠ "__proto__") (rest : List Namespace) (h : Heap) :
    ∃ ps k, Heap.Extends ns.objectCount h k ∧ besides (.named ns.name) ps = [] ∧
      addNamespaces passthrough permissions (ns :: rest) h =
        (ps ++ (addNamespaces passthrough permissions rest k).1,
          (addNamespaces passthrough permissions rest k).2) := by
  cases granted : permissions.isGranted ns.permission with
  | true =>
    refine ⟨[(Key.named ns.name, frozenProperty (.object (addNamespace passthrough ns h).1))],
      (addNamespace passthrough ns h).2, Adds.addNamespace passthrough ns h, by simp [besides], ?_⟩
    rw [addNamespaces_of_granted granted named]
    rfl
  | false =>
    exact ⟨[], (reserve ns.objectCount h).2, Adds.reserve _ h, rfl, addNamespaces_of_denied granted⟩

theorem besides_append {key : Key} {ps qs : List (Key × Property)} :
    besides key (ps ++ qs) = besides key ps ++ besides key qs :=
  List.filter_append ..

/-- Permissions that differ in one of them make heaps that are the same but for the part of its
namespace.  The induction is on the namespaces: before that one and after it both heaps get the same
objects. -/
theorem addNamespaces_same {gate : Permission} {p q : Permissions}
    (agree : ∀ x, x ≠ gate → q.isGranted x = p.isGranted x) (passthrough : Ref) {r : Registry}
    (keyed : ∀ ns ∈ r, ns.permission.key = ns.name) (nodup : (r.map Namespace.name).Nodup)
    {part : Part} (hkey : part.key = .named gate.key) {h h' : Heap} (same : h.SameBut part h')
    (room : h.objects.size + r.objectCount ≤ part.root)
    (here : (∀ ns ∈ r, ns.permission ≠ gate) ∨
      r.places gate h.objects.size = (part.first, part.count)) :
    besides part.key (addNamespaces passthrough q r h').1 =
        besides part.key (addNamespaces passthrough p r h).1 ∧
      (addNamespaces passthrough p r h).2.SameBut part (addNamespaces passthrough q r h').2 := by
  induction r generalizing h h' with
  | nil => exact ⟨rfl, same⟩
  | cons ns rest ih =>
    have name : ns.permission.key = ns.name := keyed ns (List.mem_cons_self ..)
    have named : ns.name ≠ "__proto__" := name ▸ ns.permission.key_named.2
    have keyed' : ∀ ns ∈ rest, ns.permission.key = ns.name := fun ns' hns =>
      keyed ns' (List.mem_cons_of_mem _ hns)
    obtain ⟨fresh, nodup'⟩ := List.nodup_cons.1 nodup
    have taken : h.objects.size + (ns.objectCount + Registry.objectCount rest) ≤ part.root := room
    have go {k k' : Heap} (left : Heap.Extends ns.objectCount h k) (same' : k.SameBut part k')
        (here' : (∀ ns ∈ rest, ns.permission ≠ gate) ∨
          Registry.places gate k.objects.size rest = (part.first, part.count)) :=
      ih keyed' nodup' same' (by rw [left.size]; omega) here'
    by_cases gated : ns.permission = gate
    · -- Its own places: whatever either heap gets there, none of it is outside the part.
      have first : part.first = h.objects.size ∧ part.count = ns.objectCount := by
        rcases here with absent | place
        · exact absurd gated (absent ns (List.mem_cons_self ..))
        · simpa [Registry.places, gated, eq_comm] using place
      have later : ∀ ns' ∈ rest, ns'.permission ≠ gate := fun ns' hns again => fresh (by
        rw [← name, gated, ← again, keyed' ns' hns]
        exact List.mem_map_of_mem hns)
      have own : part.key = .named ns.name := by rw [hkey, ← gated, name]
      obtain ⟨ps, k, left, gone, made⟩ := addNamespaces_cons passthrough p named rest h
      obtain ⟨ps', k', right, gone', made'⟩ := addNamespaces_cons passthrough q named rest h'
      obtain ⟨properties, heaps⟩ := go left
        (same.extends left right first.1 first.2 (by omega)) (.inl later)
      rw [made, made', besides_append, besides_append, own, gone, gone', ← own]
      exact ⟨properties, heaps⟩
    · -- The places of another namespace: both permissions say the same of it.
      have here' {k : Heap} (left : Heap.Extends ns.objectCount h k) :
          (∀ ns ∈ rest, ns.permission ≠ gate) ∨
            Registry.places gate k.objects.size rest = (part.first, part.count) :=
        here.imp (fun absent ns' hns => absent ns' (List.mem_cons_of_mem _ hns)) fun place => by
          rw [left.size]
          simpa [Registry.places, gated] using place
      cases granted : p.isGranted ns.permission with
      | true =>
        obtain ⟨value, same'⟩ := Same.addNamespace passthrough ns h h' same
        have left := Adds.addNamespace passthrough ns h
        obtain ⟨properties, heaps⟩ := go left same' (here' left)
        rw [addNamespaces_of_granted granted named,
          addNamespaces_of_granted ((agree _ gated).trans granted) named, value]
        refine ⟨?_, heaps⟩
        show besides part.key ([_] ++ _) = besides part.key ([_] ++ _)
        rw [besides_append, besides_append, properties]
      | false =>
        have left := Adds.reserve ns.objectCount h
        rw [addNamespaces_of_denied granted,
          addNamespaces_of_denied ((agree _ gated).trans granted)]
        exact go left (Same.reserve _ h h' same).2 (here' left)

end Building

/-! ### Installation on both heaps -/

/-- The heaps are the same but for a property of the root, once both have one. -/
theorem Heap.SameBut.root_allocate {p : Part} {h h' : Heap} (same : h.SameBut p h')
    (place : p.root = h.objects.size) {ps ps' : List (Key × Property)}
    (properties : besides p.key ps' = besides p.key ps) :
    (h.allocate (Building.rootObject ps)).2.SameBut p
      (h'.allocate (Building.rootObject ps')).2 := by
  refine ⟨by simp [same.size], same.cells, same.symbols, fun r outside other => ?_, ?_⟩
  · rcases Nat.lt_or_gt_of_ne (place ▸ other) with inside | beyond
    · rw [h'.object_allocate_of_lt (same.size ▸ inside), h.object_allocate_of_lt inside,
        same.object r outside other]
    · rw [object_of_size_le _ (by rw [size_allocate, same.size]; exact beyond),
        object_of_size_le _ (by rw [size_allocate]; exact beyond)]
  · rw [place, h.object_allocate_self, ← same.size, h'.object_allocate_self]
    exact ⟨ps', rfl, properties⟩

theorem Building.addRoot_eq (r : Registry) (p : Permissions) (h : Heap) :
    (addRoot r p h).2 =
      (((addNamespaces (addPassthrough h).1 p r (addPassthrough h).2).2.allocate
        (rootObject (addNamespaces (addPassthrough h).1 p r (addPassthrough h).2).1)).2.modify
          globalRef fun o => o.put rootName (frozenProperty (.object
            (addNamespaces (addPassthrough h).1 p r (addPassthrough h).2).2.objects.size))) := rfl

theorem Building.object_addRoot (r : Registry) (p : Permissions) {h : Heap} (hh : h.Grounded) :
    (addRoot r p h).2.object
        (addNamespaces (addPassthrough h).1 p r (addPassthrough h).2).2.objects.size =
      rootObject (addNamespaces (addPassthrough h).1 p r (addPassthrough h).2).1 := by
  rw [addRoot_eq]
  exact Heap.object_root (grounded_addNamespaces hh) _

/-- No namespace lies before the first place. -/
theorem Registry.le_places (gate : Permission) (start : Ref) (r : Registry) :
    start ≤ (r.places gate start).1 := by
  induction r generalizing start with
  | nil => exact Nat.le_refl _
  | cons ns rest ih =>
    unfold Registry.places
    split
    · exact Nat.le_refl _
    · exact Nat.le_trans (Nat.le_add_right _ _) (ih _)

/-- A namespace lies before the end of all of them. -/
theorem Registry.places_le (gate : Permission) (start : Ref) (r : Registry) :
    (r.places gate start).1 + (r.places gate start).2 ≤ start + r.objectCount := by
  induction r generalizing start with
  | nil => exact Nat.le_refl _
  | cons ns rest ih =>
    have count : objectCount (ns :: rest) = ns.objectCount + objectCount rest := rfl
    rw [count]
    unfold Registry.places
    split
    · exact Nat.add_le_add_left (Nat.le_add_right ..) _
    · exact Nat.le_trans (ih _) (Nat.le_of_eq (Nat.add_assoc ..))

/-- The namespaces take as many places as the table says, whatever is granted. -/
theorem Building.extends_addNamespaces (passthrough : Ref) (p : Permissions) {r : Registry}
    (named : ∀ ns ∈ r, ns.name ≠ "__proto__") (h : Heap) :
    Heap.Extends r.objectCount h (addNamespaces passthrough p r h).2 := by
  induction r generalizing h with
  | nil => exact ⟨rfl, rfl, rfl, fun _ _ => rfl⟩
  | cons ns rest ih =>
    obtain ⟨ps, k, first, -, made⟩ :=
      addNamespaces_cons passthrough p (named ns (List.mem_cons_self ..)) rest h
    rw [made]
    exact first.trans (ih (fun ns' hns => named ns' (List.mem_cons_of_mem _ hns)) k)

theorem Building.global_addPassthrough {h : Heap} (ground : globalRef < h.objects.size) :
    globalRef < (addPassthrough h).2.objects.size := by
  show globalRef < (h.allocate _).2.objects.size
  rw [h.size_allocate]
  exact Nat.lt_succ_of_lt ground

/-- The global variables do not belong to a namespace. -/
theorem Registry.global_outside (r : Registry) (gate : Permission) :
    ¬ (r.part gate).Covers globalRef ∧ globalRef ≠ (r.part gate).root := by
  have start : globalRef < Heap.prepared.2.objects.size :=
    Building.global_addPassthrough Heap.grounded_addConsole.size
  constructor
  · exact fun covered => Nat.not_le_of_lt start
      (Nat.le_trans (Registry.le_places gate _ r) covered.1)
  · exact Nat.ne_of_lt (Nat.lt_of_lt_of_le start (Nat.le_add_right ..))

/-- Nor does the root, but for its property. -/
theorem Registry.root_outside (r : Registry) (gate : Permission) :
    ¬ (r.part gate).Covers (r.part gate).root := fun covered =>
  Nat.not_le_of_lt covered.2 (Registry.places_le gate _ r)

/-- What was there before the root stays as it was, but for the global variables. -/
theorem Building.object_addRoot_of_lt {r : Registry} (named : ∀ ns ∈ r, ns.name ≠ "__proto__")
    (p : Permissions) {h : Heap} {s : Nat} (inside : s < h.objects.size) (other : s ≠ globalRef) :
    (addRoot r p h).2.object s = h.object s := by
  have first : Heap.Extends 1 h (addPassthrough h).2 := h.extends_allocate _
  have made := first.trans (extends_addNamespaces (addPassthrough h).1 p named (addPassthrough h).2)
  rw [addRoot_eq, Heap.object_modify_of_ne _ other, Heap.object_allocate_of_lt,
    made.object s inside]
  rw [made.size]
  exact Nat.lt_of_lt_of_le inside (Nat.le_add_right ..)

section Tables

variable {r : Registry} (valid : r.fault? = none)

include valid

theorem Registry.named_of_fault? {ns : Namespace} (hns : ns ∈ r) : ns.name ≠ "__proto__" :=
  Registry.permission_of_fault? valid hns ▸ ns.permission.key_named.2

/-- Permissions that differ in one of them make roots that are the same but for its namespace. -/
theorem Building.addRoot_same {gate : Permission} {p q : Permissions}
    (agree : ∀ x, x ≠ gate → q.isGranted x = p.isGranted x) {h : Heap}
    (ground : globalRef < h.objects.size) {part : Part}
    (root : part.root = (addPassthrough h).2.objects.size + r.objectCount)
    (key : part.key = .named gate.key)
    (here : r.places gate (addPassthrough h).2.objects.size = (part.first, part.count)) :
    (addRoot r p h).2.SameBut part (addRoot r q h).2 := by
  have start := global_addPassthrough ground
  have first : (addPassthrough h).2.objects.size ≤ part.first := by
    have le := Registry.le_places gate (addPassthrough h).2.objects.size r
    rwa [here] at le
  obtain ⟨properties, heaps⟩ := addNamespaces_same agree (addPassthrough h).1
    (fun ns => Registry.permission_of_fault? valid) (Registry.nodup_of_fault? valid) key
    (.refl part (addPassthrough h).2) (Nat.le_of_eq root.symm) (.inr here)
  have size := (extends_addNamespaces (addPassthrough h).1 p
    (fun ns => Registry.named_of_fault? valid) (addPassthrough h).2).size
  rw [addRoot_eq, addRoot_eq, heaps.size]
  refine (heaps.root_allocate (root.trans size.symm) properties).modify ?_ ?_
  · exact fun covered => absurd (Nat.lt_of_lt_of_le start first) (Nat.not_lt.2 covered.1)
  · intro same
    exact absurd (Nat.lt_of_lt_of_le start (root ▸ Nat.le_add_right _ _))
      (Nat.not_lt.2 (Nat.le_of_eq same.symm))

/-- The heaps of two sessions whose permissions differ in one of them are the same but for its
part. -/
theorem Heap.install_sameBut {gate : Permission} {p q : Permissions}
    (agree : ∀ x, x ≠ gate → q.isGranted x = p.isGranted x) :
    (install r p).SameBut (r.part gate) (install r q) :=
  Building.addRoot_same valid agree grounded_addConsole.size rfl rfl rfl

/-! ### What belongs to a namespace -/

/-- Where the root lies. -/
theorem Heap.root_part (p : Permissions) (gate : Permission) :
    (Building.addNamespaces prepared.1 p r prepared.2).2.objects.size = (r.part gate).root :=
  (Building.extends_addNamespaces _ p (fun _ => Registry.named_of_fault? valid) _).size

/-- The root lies where the part says. -/
theorem Heap.rooted_part (p : Permissions) (gate : Permission) :
    (install r p).Rooted ((r.installed p).map Namespace.name) (r.part gate).root :=
  root_part valid p gate ▸ Building.rooted_addRoot
    (fun _ hns => Registry.named_of_fault? valid (Registry.mem_installed.1 hns).1)
    grounded_addConsole

/-- It is made of the namespaces that were added. -/
theorem Heap.object_root_part (p : Permissions) (gate : Permission) :
    (install r p).object (r.part gate).root =
      Building.rootObject (Building.addNamespaces prepared.1 p r prepared.2).1 :=
  root_part valid p gate ▸ Building.object_addRoot r p grounded_addConsole

end Tables

end ScriptHost
