import ScriptHost.Proofs.Names

/-!
# What is asked when a namespace is read

Reading a property of a namespace makes use of a few things that a session starts with: what reads
properties, what asks a set, and what makes errors of types.  One line of the script that makes all
that a session starts with puts each of them into its place, and the other lines leave it there.

* `Fixture`: these things, with their places;
* `Heap.Gives`: one of them is where it belongs;
* `Heap.Stage`: some are there, and the places of others are still free;
* `Computation.Brings`: computations that bring a heap from one stage to another;
* `Heap.gives_install`: when a session starts, all of them are there.
-/

namespace ScriptHost

variable {but : Ref → String → Prop} {ε α β : Type}

/-! ### Properties -/

namespace Heap

variable {h h' : Heap} {r : Nat} {name : String}

/-- An object holds another one as a property. -/
def HasObject (h : Heap) (r : Ref) (name : String) (f : Ref) : Prop :=
  ∃ a, (h.object r).properties.lookup (.named name) = some (.data (.object f) a)

theorem HasObject.spared {f : Ref} (held : h.HasObject r name f) (spared : h.SparedBut but h')
    (reserved : name ∈ Realm.reserved) (kept : ¬ but r name) : h'.HasObject r name f := by
  obtain ⟨a, found⟩ := held
  exact ⟨a, (spared.lookup name reserved r kept).trans found⟩

/-- A plain object has it as a property of its own. -/
theorem HasObject.own {f : Ref} (held : h.HasObject r name f) (plain : (h.object r).kind = .plain)
    (indexless : (Key.named name).index? = none) :
    ∃ a, h.own? (h.object r) (Key.named name) = some (.data (.object f) a) := by
  obtain ⟨a, found⟩ := held
  exact ⟨a, by rw [own?_of_plain _ plain, Object.stored?_of_index?_none _ _ indexless, found]⟩

theorem object_define_of_ne (h : Heap) {s : Nat} (other : s ≠ r) {key : Key} {d : Descriptor} :
    (h.define r key d).object s = h.object s := by
  unfold define
  dsimp only
  split
  · rfl
  · split
    · split
      · exact h.object_modify_of_ne other _
      · rfl
    · exact h.object_modify_of_ne other _

/-- A definition gives a simple object a new property. -/
theorem lookup_define (inside : r < h.objects.size) (simple : (h.object r).kind.isSimple = true)
    (extensible : (h.object r).extensible = true) (indexless : (Key.named name).index? = none)
    (absent : (h.object r).properties.lookup (.named name) = none) (v : Value) (a : Attributes) :
    ((h.define r name (.ofProperty (.data v a))).object r).properties.lookup (.named name) =
      some (.data v a) := by
  have own : h.own? (h.object r) name = none := by
    rw [own?_of_isSimple _ simple, Object.stored?_of_index?_none _ _ indexless, absent]
  have fault : h.definitionFault? r name (.ofProperty (.data v a)) = none := by
    cases kind : (h.object r).kind <;>
      simp_all [definitionFault?, Kind.isSimple]
  have defined : h.define r name (.ofProperty (.data v a)) =
      h.modify r fun o => o.put name (.data v a) := by
    simp only [define, fault, own]
    rfl
  rw [defined, h.object_modify_self inside, Object.put_of_index?_none _ _ _ indexless]
  exact lookup_putIn_self

end Heap

/-! ### Fixtures -/

/-- What reading a namespace makes use of: what makes errors of types, what reads properties, and
what asks a set. -/
inductive Fixture
  | typeErrors
  | reflection
  | sets
  deriving DecidableEq

namespace Fixture

/-- The object that it is a property of. -/
def place : Fixture → Ref
  | sets => (Family.collection .set).prototype
  | _ => globalRef

/-- Under which name it is there. -/
def name : Fixture → String
  | typeErrors => "TypeError"
  | reflection => "Reflect"
  | sets => "has"

/-- What it is. -/
def Is (h : Heap) (f : Nat) : Fixture → Prop
  | typeErrors => (h.object f).kind = .function (.builtin (.construct (.error .typeError))) ∧
      ∃ p, (h.object f).properties.lookup (Key.named "prototype") = some p ∧
        p.Pins (Family.error .typeError).prototype
  | reflection => (h.object f).kind = .plain ∧ ∃ g < h.objects.size, h.HasObject f "get" g ∧
      (h.object g).kind = .function (.builtin (.reflect .get))
  | sets => (h.object f).kind = .function (.builtin (.collection .set .has))

theorem reserved (x : Fixture) : x.name ∈ Realm.reserved := by
  cases x <;> decide

theorem indexless (x : Fixture) : (Key.named x.name).index? = none := by
  cases x <;> decide

theorem place_le (x : Fixture) : x.place ≤ globalRef := by
  cases x <;> decide

/-- No two of them are in one place under one name. -/
theorem eq_of_place {x y : Fixture} (place : x.place = y.place) (name : x.name = y.name) :
    x = y := by
  cases x <;> cases y <;> first | rfl | (revert place name; decide)

variable {h h' : Heap} {f : Nat} {x : Fixture}

/-- It stays what it is, if reflection keeps what it reads with. -/
theorem Is.reaches (is : x.Is h f) (inside : f < h.objects.size) (reached : h.Reaches h')
    (get : x = reflection → (h'.object f).properties.lookup (.named "get") =
      (h.object f).properties.lookup (.named "get")) : x.Is h' f := by
  cases x with
  | typeErrors =>
    obtain ⟨kind, p, found, pins⟩ := is
    have simple : (h.object f).kind.isSimple = true := by rw [kind]; rfl
    exact ⟨(reached.kind_of_isSimple inside simple).trans kind, p,
      reached.lookup_of_pins inside simple (by decide) found pins, pins⟩
  | reflection =>
    obtain ⟨plain, g, there, ⟨a, found⟩, kind⟩ := is
    have simple : (h.object g).kind.isSimple = true := by rw [kind]; rfl
    exact ⟨reached.plain inside plain, g, Nat.lt_of_lt_of_le there reached.size_le,
      ⟨a, (get rfl).trans found⟩, (reached.kind_of_isSimple there simple).trans kind⟩
  | sets =>
    have simple : (h.object f).kind.isSimple = true := by
      have kind : (h.object f).kind = _ := is
      rw [kind]
      rfl
    exact (reached.kind_of_isSimple inside simple).trans is

/-- So it does where that is spared. -/
theorem Is.stays (is : x.Is h f) (inside : f < h.objects.size) (spared : h.SparedBut but h')
    (reached : h.Reaches h') (get : x = reflection → ¬ but f "get") : x.Is h' f :=
  is.reaches inside reached fun here => spared.lookup "get" (by decide) f (get here)

end Fixture

/-- A fixture is where it belongs. -/
def Heap.Gives (h : Heap) (x : Fixture) : Prop :=
  ∃ f : Nat, globalRef < f ∧ f < h.objects.size ∧ h.HasObject x.place x.name f ∧ x.Is h f

/-- A heap on the way: some fixtures are there, and the places of others are free. -/
structure Heap.Stage (there due : List Fixture) (h : Heap) : Prop where
  ground : h.Grounded
  plain : ∀ x : Fixture, (h.object x.place).kind = .plain
  extensible : ∀ x : Fixture, (h.object x.place).extensible = true
  given : ∀ x ∈ there, h.Gives x
  absent : ∀ x ∈ due, (h.object x.place).properties.lookup (.named x.name) = none

namespace Heap.Stage

variable {there due : List Fixture} {h h' : Heap}

theorem inside (stage : h.Stage there due) (x : Fixture) : x.place < h.objects.size :=
  Nat.lt_of_le_of_lt x.place_le stage.ground.size

/-- What spares the fixtures leaves a heap where it is on the way. -/
theorem stays (stage : h.Stage there due) (spared : h.SparedBut but h') (reached : h.Reaches h')
    (free : ∀ x ∈ there ++ due, ¬ but x.place x.name)
    (get : .reflection ∈ there → ∀ r > globalRef, ¬ but r "get") : h'.Stage there due where
  ground := stage.ground.reaches reached
  plain x := reached.plain (stage.inside x) (stage.plain x)
  extensible x := (spared.extensible x.place).trans (stage.extensible x)
  given x hx := by
    obtain ⟨f, newer, inside, held, is⟩ := stage.given x hx
    refine ⟨f, newer, Nat.lt_of_lt_of_le inside reached.size_le,
      held.spared spared x.reserved (free x (List.mem_append_left _ hx)),
      is.stays inside spared reached ?_⟩
    rintro rfl
    exact get hx f newer
  absent x hx := by
    rw [spared.lookup x.name x.reserved x.place (free x (List.mem_append_right _ hx))]
    exact stage.absent x hx

section Filled

variable {x : Fixture} (f : Nat)

/-- What comes to the place of a fixture touches nothing else. -/
theorem spared_fill (h : Heap) (x : Fixture) :
    h.SparedBut (fun r name => r = x.place ∧ name = x.name)
      (h.define x.place x.name (.ofProperty (.hidden (.object f)))) :=
  .define x.place (Realm.allowed_of_but ⟨rfl, rfl⟩) _

/-- What reflection reads with is no fixture. -/
theorem get_kept {x : Fixture} : ∀ r > globalRef, ¬ (r = x.place ∧ "get" = x.name) := by
  rintro r beyond ⟨rfl, -⟩
  exact absurd x.place_le (Nat.not_le_of_lt beyond)

/-- Something comes to the place of a fixture. -/
theorem filled (stage : h.Stage there (x :: due)) (new : x ∉ there ++ due) :
    (h.define x.place x.name (.ofProperty (.hidden (.object f)))).Stage there due ∧
      (h.define x.place x.name (.ofProperty (.hidden (.object f)))).HasObject x.place x.name f := by
  have rest : h.Stage there due :=
    { stage with absent := fun y hy => stage.absent y (List.mem_cons_of_mem _ hy) }
  have found := lookup_define (stage.inside x) (Kind.isSimple_of_plain (stage.plain x))
    (stage.extensible x) x.indexless (stage.absent x (List.mem_cons_self ..)) (.object f) .hidden
  refine ⟨rest.stays (spared_fill f h x) (.step .refl (.define x.place x.name _)) ?_ ?_, _, found⟩
  · rintro y hy ⟨place, name⟩
    exact new (Fixture.eq_of_place place name ▸ hy)
  · exact fun _ => get_kept

/-- A fixture comes to its place. -/
theorem brought (stage : h.Stage there (x :: due)) (new : x ∉ there ++ due)
    (newer : globalRef < f) (inside : f < h.objects.size) (is : x.Is h f) :
    (h.define x.place x.name (.ofProperty (.hidden (.object f)))).Stage (x :: there) due := by
  obtain ⟨rest, held⟩ := stage.filled f new
  have reached : h.Reaches (h.define x.place x.name (.ofProperty (.hidden (.object f)))) :=
    .step .refl (.define x.place x.name _)
  refine { rest with given := fun y hy => ?_ }
  rcases List.mem_cons.1 hy with rfl | hy
  · exact ⟨f, newer, Nat.lt_of_lt_of_le inside reached.size_le, held,
      is.stays inside (spared_fill f h y) reached fun _ => get_kept f newer⟩
  · exact rest.given y hy

end Filled

end Heap.Stage

/-! ### Computations -/

namespace Computation

/-- A computation that calls nothing ends well and brings a heap of one sort to one of another. -/
def Brings (P : Heap → Prop) (x : Computation ε α) (Q : α → Heap → Prop) : Prop :=
  ∀ m : Machine, P m.heap → ∃ a m', x.run .none m = .ok a m' ∧ Q a m'.heap

namespace Brings

variable {P Q : Heap → Prop}

theorem pure {R : α → Heap → Prop} {a : α} (holds : ∀ h, P h → R a h) :
    Brings P (pure a : Computation ε α) R := fun m hm => ⟨a, m, rfl, holds _ hm⟩

theorem bind {x : Computation ε α} {next : α → Computation ε β} {S : α → Heap → Prop}
    {R : β → Heap → Prop} (hx : Brings P x S) (hnext : ∀ a, Brings (S a) (next a) R) :
    Brings P (x >>= next) R := by
  intro m hm
  obtain ⟨a, m₁, first, ha⟩ := hx m hm
  obtain ⟨b, m₂, second, hb⟩ := hnext a m₁ ha
  refine ⟨b, m₂, ?_, hb⟩
  rw [run_bind, first]
  exact second

/-- A row of computations of which one does it. -/
theorem forM {x : α → Computation ε PUnit} {items before after : List α} {a : α}
    (split : items = before ++ a :: after)
    (first : ∀ c ∈ before, Brings P (x c) fun _ => P) (here : Brings P (x a) fun _ => Q)
    (last : ∀ c ∈ after, Brings Q (x c) fun _ => Q) :
    Brings P (items.forM x) fun _ => Q := by
  subst split
  have rest : Brings Q (after.forM x) fun _ => Q := by
    clear here
    induction after with
    | nil => exact .pure fun _ hm => hm
    | cons c after ih =>
      exact .bind (last c (List.mem_cons_self ..)) fun _ =>
        ih fun d hd => last d (List.mem_cons_of_mem _ hd)
  induction before with
  | nil => exact .bind here fun _ => rest
  | cons c before ih =>
    exact .bind (first c (List.mem_cons_self ..)) fun _ =>
      ih fun d hd => first d (List.mem_cons_of_mem _ hd)

/-- The same as a loop. -/
theorem forIn {x : α → Computation ε (ForInStep PUnit)} {items before after : List α} {a : α}
    (split : items = before ++ a :: after)
    (first : ∀ c ∈ before, Brings P (x c) fun s h => s = .yield .unit ∧ P h)
    (here : Brings P (x a) fun s h => s = .yield .unit ∧ Q h)
    (last : ∀ c ∈ after, Brings Q (x c) fun s h => s = .yield .unit ∧ Q h) :
    Brings P (ForIn.forIn items PUnit.unit fun c _ => x c) fun _ => Q := by
  subst split
  have goesOn : ∀ {P' Q' : Heap → Prop} {c : α} {rest : List α},
      (Brings P' (x c) fun s h => s = .yield .unit ∧ Q' h) →
      (Brings Q' (ForIn.forIn rest PUnit.unit fun c _ => x c) fun _ => Q) →
      Brings P' (ForIn.forIn (c :: rest) PUnit.unit fun c _ => x c) fun _ => Q := by
    intro P' Q' c rest one others
    rw [List.forIn_cons]
    refine .bind one fun s m hm => ?_
    obtain ⟨rfl, hm⟩ := hm
    exact others m hm
  have rest : Brings Q (ForIn.forIn after PUnit.unit fun c _ => x c) fun _ => Q := by
    clear here
    induction after with
    | nil => exact .pure fun _ hm => hm
    | cons c after ih =>
      exact goesOn (last c (List.mem_cons_self ..))
        (ih fun d hd => last d (List.mem_cons_of_mem _ hd))
  induction before with
  | nil => exact goesOn here rest
  | cons c before ih =>
    exact goesOn (first c (List.mem_cons_self ..))
      (ih fun d hd => first d (List.mem_cons_of_mem _ hd))

variable {there due : List Fixture}

/-- What spares the fixtures leaves a heap where it is on the way. -/
theorem stays (but : Ref → String → Prop) {x : Computation ε α} (spares : x.Spares but)
    (free : ∀ x ∈ there ++ due, ¬ but x.place x.name)
    (get : .reflection ∈ there → ∀ r > globalRef, ¬ but r "get") :
    Brings (Heap.Stage there due) x fun _ => Heap.Stage there due := by
  intro m stage
  obtain ⟨a, m', ran⟩ := spares.ends m
  have spared := spares.keeps m stage.ground.size
  have reached := reaches_none x m
  rw [ran] at spared reached
  exact ⟨a, m', ran, stage.stays spared reached free get⟩

/-- So does what sets no property under a reserved name at all. -/
theorem passes {x : Computation ε α} (spares : x.Spares fun _ _ => False) :
    Brings (Heap.Stage there due) x fun _ => Heap.Stage there due :=
  stays _ spares (fun _ _ => id) fun _ _ _ => id

end Brings

end Computation

/-! ### The lines that bring fixtures -/

namespace Realm

open ScriptHost.Computation (Spares Brings)

variable {there due : List Fixture}

/-- A method that is a fixture comes to its place. -/
theorem brings_sets (new : .sets ∉ there ++ due) :
    Brings (Heap.Stage there (.sets :: due))
      (addMethod (Family.collection .set).prototype "has" 1 (.collection .set .has))
      fun _ => Heap.Stage (.sets :: there) due := by
  intro m stage
  let f : Nat := m.heap.objects.size
  let h := (m.heap.allocate
    (functionObject (.builtin (.collection .set .has)) (.unicode "has") 1)).2
  have made : h.object f = functionObject (.builtin (.collection .set .has)) (.unicode "has") 1 :=
    m.heap.object_allocate_self _
  have size : h.objects.size = f + 1 := m.heap.size_allocate _
  have spared : m.heap.SparedBut (fun _ _ => False) h := .allocate rfl (lookup_function _ _ _)
  have reached : m.heap.Reaches h := .step .refl (.allocate _ rfl)
  have stage' : h.Stage there (.sets :: due) :=
    stage.stays spared reached (fun _ _ => id) fun _ _ _ => id
  have inside : f < h.objects.size := by omega
  have is : Fixture.sets.Is h f := congrArg Object.kind made
  exact ⟨(), _, rfl, stage'.brought _ new stage.ground.size inside is⟩

/-- The constructor of the errors of types comes to its place. -/
theorem brings_typeErrors (new : .typeErrors ∉ there ++ due) (parameters : Nat) (parent : Ref) :
    Brings (Heap.Stage there (.typeErrors :: due))
      (addSubclass (.error .typeError) "TypeError" parameters (.error .typeError) parent)
      fun _ => Heap.Stage (.typeErrors :: there) due := by
  intro m stage
  let o : Object := { functionObject (.builtin (.construct (.error .typeError)))
    (.unicode "TypeError") parameters with prototype := some parent }
  let prototype : Ref := (Family.error .typeError).prototype
  -- a new function, with a property for the prototype, which gets one for the function
  let f : Nat := m.heap.objects.size
  let h₁ := (m.heap.allocate o).2
  let h₂ := h₁.define f (Key.named "prototype") (.ofProperty (.data (.object prototype) .fixed))
  let h₃ := h₂.define prototype (Key.named "constructor") (.ofProperty (.hidden (.object f)))
  have made : h₁.object f = o := m.heap.object_allocate_self o
  have size : h₁.objects.size = f + 1 := m.heap.size_allocate o
  have spared : m.heap.SparedBut (fun _ _ => False) h₃ :=
    have first : m.heap.SparedBut (fun _ _ => False) h₁ :=
      .allocate rfl (lookup_function (.builtin (.construct (.error .typeError))) _ _)
    (first.trans (.define f (allowed_of_free (by decide) f) _)).trans
      (.define prototype (allowed_of_free (by decide) prototype) _)
  have reached₁ : h₁.Reaches h₂ := .step .refl (.define f _ _)
  have reached₂ : h₂.Reaches h₃ := .step .refl (.define prototype _ _)
  have reached : m.heap.Reaches h₃ :=
    (Heap.Reaches.step .refl (.allocate o rfl)).trans (reached₁.trans reached₂)
  have stage' : h₃.Stage there (.typeErrors :: due) :=
    stage.stays spared reached (fun _ _ => id) fun _ _ _ => id
  have inside : f < h₁.objects.size := by omega
  have inside₂ : f < h₂.objects.size := Nat.lt_of_lt_of_le inside reached₁.size_le
  have simple : (h₁.object f).kind.isSimple = true := by rw [made]; rfl
  have kind₂ := reached₁.kind_of_isSimple inside simple
  have found : (h₂.object f).properties.lookup (Key.named "prototype") =
      some (.data (.object prototype) .fixed) :=
    Heap.lookup_define inside simple (by rw [made]; rfl) (by decide) (by rw [made]; rfl) _ _
  have is : Fixture.typeErrors.Is h₃ f := by
    have simple₂ : (h₂.object f).kind.isSimple = true := kind₂ ▸ simple
    refine ⟨?_, _, reached₂.lookup_of_pins inside₂ simple₂ (by decide) found ⟨rfl, rfl, rfl⟩,
      ⟨rfl, rfl, rfl⟩⟩
    rw [reached₂.kind_of_isSimple inside₂ simple₂, kind₂, made]
    rfl
  exact ⟨f, _, rfl, stage'.brought _ new stage.ground.size
    (Nat.lt_of_lt_of_le inside₂ reached₂.size_le) is⟩

/-- A module on the way to be the one of reflection. -/
structure Unread (there due : List Fixture) (r : Nat) (h : Heap) : Prop where
  stage : h.Stage there due
  newer : globalRef < r
  inside : r < h.objects.size
  held : h.HasObject globalRef "Reflect" r
  plain : (h.object r).kind = .plain
  extensible : (h.object r).extensible = true
  absent : (h.object r).properties.lookup (.named "get") = none

variable {r : Nat}

theorem Unread.passes {x : Script α} (spares : x.Spares fun _ _ => False) :
    Brings (Unread there due r) x fun _ => Unread there due r := by
  intro m unread
  obtain ⟨a, m', ran⟩ := spares.ends m
  have spared := spares.keeps m unread.stage.ground.size
  have reached := Computation.reaches_none x m
  rw [ran] at spared reached
  exact ⟨a, m', ran,
    { stage := unread.stage.stays spared reached (fun _ _ => id) fun _ _ _ => id
      newer := unread.newer
      inside := Nat.lt_of_lt_of_le unread.inside reached.size_le
      held := unread.held.spared spared (by decide) id
      plain := reached.plain unread.inside unread.plain
      extensible := (spared.extensible r).trans unread.extensible
      absent := (spared.lookup "get" (by decide) r id).trans unread.absent }⟩

/-- A new module comes under the name of the one of reflection. -/
theorem brings_module (new : .reflection ∉ there ++ due) :
    Brings (Heap.Stage there (.reflection :: due)) (addModule "Reflect")
      fun r => Unread there due r := by
  intro m stage
  let o : Object := { kind := .plain, prototype := some Family.object.prototype }
  let r : Nat := m.heap.objects.size
  let h := (m.heap.allocate o).2
  have made : h.object r = o := m.heap.object_allocate_self o
  have size : h.objects.size = r + 1 := m.heap.size_allocate o
  have spared : m.heap.SparedBut (fun _ _ => False) h := .allocate rfl fun _ _ => rfl
  have stage' : h.Stage there (.reflection :: due) :=
    stage.stays spared (.step .refl (.allocate o rfl)) (fun _ _ => id) fun _ _ _ => id
  obtain ⟨filled, held⟩ := stage'.filled r new
  have elsewhere : r ≠ globalRef := Nat.ne_of_gt stage.ground.size
  have same :
      (h.define globalRef (Key.named "Reflect") (.ofProperty (.hidden (.object r)))).object r = o := by
    rw [Heap.object_define_of_ne h elsewhere, made]
  exact ⟨r, _, rfl,
    { stage := filled
      newer := stage.ground.size
      inside := by
        show r < (h.define globalRef _ _).objects.size
        rw [Heap.size_define, size]
        exact Nat.lt_succ_self r
      held
      plain := congrArg Object.kind same
      extensible := congrArg Object.extensible same
      absent := congrArg (fun o => o.properties.lookup (Key.named "get")) same }⟩

/-- What reads properties comes to its place, and so the module of reflection is complete. -/
theorem brings_get (new : .reflection ∉ there ++ due) :
    Brings (Unread there due r) (addMethod r "get" 2 (.reflect .get))
      fun _ => Heap.Stage (.reflection :: there) due := by
  intro m unread
  let o := functionObject (.builtin (.reflect .get)) (.unicode "get") 2
  let g : Nat := m.heap.objects.size
  let h := (m.heap.allocate o).2
  let h' := h.define r (Key.named "get") (.ofProperty (.hidden (.object g)))
  have made : h.object g = o := m.heap.object_allocate_self o
  have size : h.objects.size = g + 1 := m.heap.size_allocate o
  have old : h.object r = m.heap.object r := m.heap.object_allocate_of_lt unread.inside o
  have elsewhere : ∀ x : Fixture, r ≠ x.place := fun x =>
    Nat.ne_of_gt (Nat.lt_of_le_of_lt x.place_le unread.newer)
  have spared : m.heap.SparedBut (fun s name => s = r ∧ name = "get") h' :=
    (Heap.SparedBut.allocate rfl (lookup_function _ _ _)).trans
      (.define r (allowed_of_but ⟨rfl, rfl⟩) _)
  have reached : m.heap.Reaches h' :=
    (Heap.Reaches.step .refl (.allocate o rfl)).step (.define r _ _)
  have stage' : h'.Stage there due :=
    unread.stage.stays spared reached (fun x _ same => elsewhere x same.1.symm)
      fun there => absurd (List.mem_append_left _ there) new
  have inside : r < h.objects.size := by
    have before := unread.inside
    omega
  have found := Heap.lookup_define inside
    (Kind.isSimple_of_plain (old ▸ unread.plain)) (old ▸ unread.extensible) (by decide)
    (old ▸ unread.absent) (.object g) .hidden
  have there' : g < h'.objects.size := by
    rw [Heap.size_define, size]
    exact Nat.lt_succ_self g
  have other : g ≠ r := Nat.ne_of_gt unread.inside
  have kind : (h'.object g).kind = .function (.builtin (.reflect .get)) := by
    rw [Heap.object_define_of_ne h other, made]
    rfl
  refine ⟨(), _, rfl, { stage' with given := fun x hx => ?_ }⟩
  rcases List.mem_cons.1 hx with rfl | hx
  · exact ⟨r, unread.newer, Nat.lt_of_lt_of_le unread.inside reached.size_le,
      unread.held.spared spared (by decide) fun same => elsewhere .reflection same.1.symm,
      reached.plain unread.inside unread.plain, g, there', ⟨_, found⟩, kind⟩
  · exact stage'.given x hx

/-! ### All that a session starts with -/

/-- One class of errors is a fixture, and all others have free names. -/
theorem free_error {e : ErrorClass} (other : e ≠ .typeError) : Free e.name := by
  cases e <;> first | exact absurd rfl other | decide

theorem brings_addErrors (new : .typeErrors ∉ there ++ due) :
    Brings (Heap.Stage there (.typeErrors :: due)) addErrors
      fun _ => Heap.Stage (.typeErrors :: there) due :=
  .bind (.passes (spares_addMethod _ _ _ _ _ (by decide))) fun _ =>
  .bind (.passes (spares_addErrorName _)) fun _ =>
  .bind (.passes (spares_addConstructor _ _ _ _ (by decide))) fun _ =>
  .bind (.passes (spares_addMethod _ _ _ _ _ (by decide))) fun _ =>
  .bind (.passes (spares_addMethod _ _ _ _ _ (by decide))) fun _ =>
  .bind (.passes (spares_defineNamed _ _ _ (by decide))) fun _ =>
  .bind (.passes (spares_defineNamed _ _ _ (by decide))) fun _ =>
  have split : ErrorClass.special =
      ErrorClass.special.take 4 ++ .typeError :: ErrorClass.special.drop 5 := rfl
  have before : ∀ e ∈ ErrorClass.special.take 4, e ≠ .typeError := by decide
  have after : ∀ e ∈ ErrorClass.special.drop 5, e ≠ .typeError := by decide
  .bind (.forIn split
    (fun e he => .bind (.passes (spares_addErrorName _)) fun _ =>
      .bind (.passes (spares_addSubclass _ _ _ _ (free_error (before e he)) _)) fun _ =>
      .pure fun _ stage => ⟨rfl, stage⟩)
    (.bind (.passes (spares_addErrorName _)) fun _ =>
      .bind (brings_typeErrors new _ _) fun _ => .pure fun _ stage => ⟨rfl, stage⟩)
    fun e he => .bind (.passes (spares_addErrorName _)) fun _ =>
      .bind (.passes (spares_addSubclass _ _ _ _ (free_error (after e he)) _)) fun _ =>
      .pure fun _ stage => ⟨rfl, stage⟩) fun _ => .pure fun _ stage => stage

theorem brings_addReflection (new : .reflection ∉ there ++ due) :
    Brings (Heap.Stage there (.reflection :: due)) addReflection
      fun _ => Heap.Stage (.reflection :: there) due := by
  refine .bind (brings_module new) fun r => .bind ?_ fun _ => .passes (spares_addWord _ _)
  intro m unread
  have split : ReflectFunction.functions =
      ReflectFunction.functions.take 4 ++ ("get", 2, .get) :: ReflectFunction.functions.drop 5 := rfl
  have before : ∀ e ∈ ReflectFunction.functions.take 4, Free e.1 := by decide
  have after : ∀ e ∈ ReflectFunction.functions.drop 5, e.1 = "has" ∨ Free e.1 := by decide
  have brings : Brings (Unread there due r) (addMethods r ReflectFunction.functions .reflect)
      fun _ => Heap.Stage (.reflection :: there) due := by
    -- what comes after it has a free name or is `has`, which reflection has under its own name
    refine .forM split (fun e he => Unread.passes (spares_addMethod _ _ _ _ _ (before e he)))
      (brings_get new) fun e he =>
        .stays (fun s name => s = r ∧ name = "has") (spares_method _ _ _ _ ?_) ?_ ?_
    · rcases after e he with has | free
      · exact allowed_of_but ⟨rfl, has⟩
      · exact allowed_of_free free r
    · rintro x - ⟨here, -⟩
      exact absurd (here ▸ x.place_le) (Nat.not_le_of_lt unread.newer)
    · rintro - s - ⟨-, same⟩
      exact absurd same (by decide)
  exact brings m unread

theorem brings_addCollections (new : .sets ∉ there ++ due) :
    Brings (Heap.Stage there (.sets :: due)) addCollections
      fun _ => Heap.Stage (.sets :: there) due := by
  have others : ∀ {there due : List Fixture} (c : CollectionClass), c ≠ .set →
      Brings (Heap.Stage there due) (addMethods (Family.collection c).prototype
        (CollectionMethod.methods c) (.collection c)) fun _ => Heap.Stage there due := by
    intro there due c other
    refine .stays (fun r name => r = (Family.collection c).prototype ∧
      (name = "get" ∨ name = "has")) (spares_methods _ _ _ _ (allowed_collection ?_)) ?_ ?_
    · exact ⟨⟨rfl, .inl rfl⟩, ⟨rfl, .inr rfl⟩⟩
    · rintro x - ⟨place, name⟩
      cases x <;> cases c <;> first | exact absurd rfl other | (revert place name; decide)
    · rintro - r beyond ⟨rfl, -⟩
      cases c <;> exact absurd beyond (by decide)
  have sets : Brings (Heap.Stage there (.sets :: due))
      (addMethods (Family.collection .set).prototype (CollectionMethod.methods .set)
        (.collection .set)) fun _ => Heap.Stage (.sets :: there) due := by
    have before : ∀ e ∈ (CollectionMethod.methods .set).take 1, Free e.1 := by decide
    have after : ∀ e ∈ (CollectionMethod.methods .set).drop 2, Free e.1 := by decide
    have split : CollectionMethod.methods .set = (CollectionMethod.methods .set).take 1 ++
      ("has", 1, .has) :: (CollectionMethod.methods .set).drop 2 := rfl
    exact .forM split (fun e he => .passes (spares_addMethod _ _ _ _ _ (before e he)))
      (brings_sets new) fun e he => .passes (spares_addMethod _ _ _ _ _ (after e he))
  have split : CollectionClass.all = [.map] ++ .set :: [.weakMap, .weakSet] := rfl
  have before : ∀ c ∈ [CollectionClass.map], c ≠ .set := by decide
  have after : ∀ c ∈ [CollectionClass.weakMap, .weakSet], c ≠ .set := by decide
  exact .forM split
    (fun c hc => .bind (others c (before c hc)) fun _ => .passes (spares_furtherCollection c))
    (.bind sets fun _ => .passes (spares_furtherCollection .set))
    fun c hc => .bind (others c (after c hc)) fun _ => .passes (spares_furtherCollection c)

/-- The script that makes all that a session starts with brings all fixtures to their places. -/
theorem brings_addAll :
    Brings (Heap.Stage [] [.typeErrors, .reflection, .sets]) addAll
      fun _ => Heap.Stage [.sets, .reflection, .typeErrors] [] :=
  .bind (.passes spares_addObjects) fun _ =>
  .bind (.passes spares_addFunctions) fun _ =>
  .bind (brings_addErrors (by decide)) fun _ =>
  .bind (.passes spares_addIterators) fun _ =>
  .bind (.passes spares_addArrays) fun _ =>
  .bind (.passes spares_addGlobals) fun _ =>
  .bind (.passes spares_addNumbers) fun _ =>
  .bind (.passes spares_addTexts) fun _ =>
  .bind (.passes spares_addMathematics) fun _ =>
  .bind (brings_addReflection (by decide)) fun _ =>
  .bind (.passes spares_addSymbols) fun _ =>
  .bind (.passes (spares_addMethod _ _ _ _ _ (by decide))) fun _ =>
  .bind (.passes (spares_defineNamed _ _ _ (by decide))) fun _ =>
  .bind (.passes spares_addDates) fun _ =>
  .bind (.passes spares_addPatterns) fun _ =>
  .bind (.passes spares_addDocuments) fun _ =>
  .bind (.passes spares_addProxies) fun _ =>
  .bind (brings_addCollections (by decide)) fun _ =>
  .bind (.passes spares_addBuffers) fun _ =>
  .bind (.passes spares_addPromises) fun _ =>
  .bind (.passes spares_addBigIntegers) fun _ =>
  .bind (.passes spares_addReferences) fun _ =>
  .passes spares_addClock

end Realm

/-! ### Heaps of sessions -/

namespace Heap

variable {h h' : Heap} {x : Fixture}

theorem stage_bare (due : List Fixture) : bare.Stage [] due where
  ground := grounded_bare
  plain x := by cases x <;> rfl
  extensible x := by cases x <;> rfl
  given _ hx := absurd hx List.not_mem_nil
  absent x _ := lookup_bare x.reserved x.place

theorem gives_initial (x : Fixture) : initial.Gives x := by
  obtain ⟨_, m, ran, stage⟩ :=
    Realm.brings_addAll { heap := bare, backend := .empty, logs := {} } (stage_bare _)
  have same : initial = m.heap := by
    rw [initial, after, ran]
  rw [same]
  exact stage.given x (by cases x <;> decide)

/-- Where only the global variables change, and none of the reserved names, fixtures stay. -/
theorem Gives.kept (gives : h.Gives x) (ground : h.Grounded)
    (size : h.objects.size ≤ h'.objects.size)
    (object : ∀ r : Nat, r < h.objects.size → r ≠ globalRef → h'.object r = h.object r)
    (global : (h'.object globalRef).properties.lookup (Key.named x.name) =
      (h.object globalRef).properties.lookup (Key.named x.name)) : h'.Gives x := by
  obtain ⟨f, newer, inside, ⟨a, found⟩, is⟩ := gives
  have same := object f inside (Nat.ne_of_gt newer)
  refine ⟨f, newer, Nat.lt_of_lt_of_le inside size, ⟨a, ?_⟩, ?_⟩
  · by_cases here : x.place = globalRef
    · rw [here] at found ⊢
      exact global.trans found
    · rw [object x.place (Nat.lt_of_le_of_lt x.place_le ground.size) here]
      exact found
  · cases x with
    | typeErrors =>
      show (h'.object f).kind = _ ∧ _
      rw [same]
      exact is
    | reflection =>
      obtain ⟨plain, g, there, ⟨a, held⟩, kind⟩ := is
      have other : g ≠ globalRef := by
        rintro rfl
        rw [ground.global] at kind
        cases kind
      refine ⟨by rw [same, plain], g, Nat.lt_of_lt_of_le there size, ⟨a, by rw [same, held]⟩, ?_⟩
      rw [object g there other, kind]
    | sets => exact (congrArg Object.kind same).trans is

/-- The console is made of new objects, under a global name. -/
theorem object_addConsole {r : Nat} (inside : r < h.objects.size) (other : r ≠ globalRef) :
    (Building.addConsole h).2.object r = h.object r := by
  let c : Nat := h.objects.size
  have levels : ∀ (levels : List LogLevel) (k : Heap), c < k.objects.size → k.object r = h.object r →
      ((levels.forM fun level => do
        let f ← Building.add (functionObject (.console level) (.unicode level.methodName) 0)
        Building.define c level.methodName (.plain (.object f))) k).2.object r = h.object r := by
    intro levels
    induction levels with
    | nil => exact fun _ _ same => same
    | cons level rest ih =>
      intro k there same
      let o := functionObject (.console level) (.unicode level.methodName) 0
      have next : c < (k.allocate o).2.objects.size := by
        rw [size_allocate]
        exact Nat.lt_succ_of_lt there
      have kept : (k.allocate o).2.object r = h.object r :=
        (k.object_allocate_of_lt (Nat.lt_trans inside there) o).trans same
      exact ih _ (Nat.lt_of_lt_of_eq next (size_modify _ c _).symm)
        ((object_modify_of_ne _ (Nat.ne_of_lt inside) _).trans kept)
  let o : Object := { kind := .plain, prototype := some Family.object.prototype }
  have first : c < (h.allocate o).2.objects.size := by
    rw [size_allocate]
    exact Nat.lt_succ_self c
  exact (object_modify_of_ne _ other _).trans
    (levels LogLevel.all _ first (h.object_allocate_of_lt inside _))

/-- The namespaces come under a global name of their own. -/
theorem lookup_addRoot {r : Registry} (named : ∀ ns ∈ r, ns.name ≠ "__proto__") (p : Permissions)
    (inside : globalRef < h.objects.size) {name : String} (other : name ≠ rootName) :
    ((Building.addRoot r p h).2.object globalRef).properties.lookup (Key.named name) =
      (h.object globalRef).properties.lookup (Key.named name) := by
  have made := (h.extends_allocate _ : Extends 1 h (Building.addPassthrough h).2).trans
    (Building.extends_addNamespaces (Building.addPassthrough h).1 p named
      (Building.addPassthrough h).2)
  have before := Nat.lt_of_lt_of_le inside
    (Nat.le_trans (Nat.le_add_right ..) (Nat.le_of_eq made.size.symm))
  rw [Building.addRoot_eq,
    object_modify_self _ (by rw [size_allocate]; exact Nat.lt_succ_of_lt before),
    Object.lookup_put_of_ne _ _ (fun same => other (Key.named_inj.1 same)),
    object_allocate_of_lt _ before, made.object globalRef inside]

/-- When a session starts, all fixtures are in their places. -/
theorem gives_install {r : Registry} (valid : r.fault? = none) (p : Permissions) (x : Fixture) :
    (install r p).Gives x := by
  have named : ∀ ns ∈ r, ns.name ≠ "__proto__" := fun _ => Registry.named_of_fault? valid
  have consoled : (Building.addConsole initial).2.Gives x := by
    refine (gives_initial x).kept grounded_initial ?_ (fun _ => object_addConsole)
      ((Building.spares_addConsole initial).lookup x.name x.reserved globalRef id)
    exact (Building.Keeps.addConsole initial : Furnished [] initial _).size
  refine consoled.kept grounded_addConsole ?_ (fun _ => Building.object_addRoot_of_lt named p)
    (lookup_addRoot named p grounded_addConsole.size ?_)
  · exact (Building.Keeps.addRoot r p _).size
  · cases x <;> decide

end Heap

end ScriptHost
