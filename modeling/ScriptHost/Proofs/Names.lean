import ScriptHost.Proofs.Places

/-!
# Names that little else uses

What a session starts with besides its namespaces has no property under the name of a namespace, so
scripts find nothing under the name of one that is denied until they put something there.  Other
names are used at few places, so what is put there first is there when the session starts.

* `Realm.reserved`: these names;
* `Heap.SparedBut`: whether properties under them are the same on two heaps but at some places;
* `Computation.Spares`: computations that leave them so;
* `Realm.spares_addAll`: one of them makes all that a session starts with;
* `Heap.own?_prototype_install`: so nothing is inherited under the name of a namespace.
-/

namespace ScriptHost

variable {but : Ref → String → Prop} {ε α β : Type}

/-- The names of the namespaces, and those of what is asked when a namespace is read. -/
def Realm.reserved : List String :=
  Permission.all.map Permission.key ++ ["TypeError", "Reflect", "get", "has"]

theorem Permission.key_reserved (gate : Permission) : gate.key ∈ Realm.reserved :=
  List.mem_append_left _ (List.mem_map_of_mem (by cases gate <;> decide))

theorem Key.named_inj {name other : String} : Key.named name = Key.named other ↔ name = other := by
  simp [Key.named]

namespace Realm

/-- A name that is not reserved. -/
abbrev Free (name : String) : Prop := name ∉ reserved

/-- A property may be set that is under no reserved name, or where it is allowed. -/
def Allowed (but : Ref → String → Prop) (r : Ref) (key : Key) : Prop :=
  ∀ name ∈ reserved, key = .named name → but r name

theorem allowed_of_free {name : String} (free : Free name) (r : Ref) : Allowed but r name := by
  intro other hother same
  rw [Key.named_inj.1 same] at free
  exact absurd hother free

theorem allowed_of_but {r : Ref} {name : String} (h : but r name) : Allowed but r name := by
  intro other _ same
  rw [← Key.named_inj.1 same]
  exact h

theorem allowed_known (w : WellKnown) (r : Ref) : Allowed but r (.known w) := by
  intro other _ same
  cases same

end Realm

/-! ### Heaps -/

@[simp] theorem Object.put_extensible (o : Object) (key : Key) (p : Property) :
    (o.put key p).extensible = o.extensible := by
  rcases o.put_cases key p with h | ⟨i, _, h⟩ <;> rw [h]
  unfold cover putItem
  split <;> split <;> (try split) <;> rfl

/-- Whether the properties under reserved names are the same on two heaps but at some places, and
objects can get properties on both or on neither. -/
structure Heap.SparedBut (but : Ref → String → Prop) (h h' : Heap) : Prop where
  lookup : ∀ name ∈ Realm.reserved, ∀ r, ¬ but r name →
    (h'.object r).properties.lookup (.named name) = (h.object r).properties.lookup (.named name)
  extensible : ∀ r, (h'.object r).extensible = (h.object r).extensible

namespace Heap.SparedBut

variable {h h' h'' : Heap}

theorem refl : SparedBut but h h := ⟨fun _ _ _ _ => rfl, fun _ => rfl⟩

theorem trans (first : SparedBut but h h') (second : SparedBut but h' h'') :
    SparedBut but h h'' where
  lookup name hname r hr := (second.lookup name hname r hr).trans (first.lookup name hname r hr)
  extensible r := (second.extensible r).trans (first.extensible r)

/-- What is spared but at some places is spared but at more. -/
theorem mono {but' : Ref → String → Prop} (more : ∀ r name, but r name → but' r name)
    (spared : SparedBut but h h') : SparedBut but' h h' where
  lookup name hname r hr := spared.lookup name hname r fun there => hr (more r name there)
  extensible := spared.extensible

theorem allocate {o : Object} (extensible : o.extensible = true)
    (fresh : ∀ name ∈ Realm.reserved, o.properties.lookup (.named name) = none) :
    SparedBut but h (h.allocate o).2 := by
  have absent : ∀ r, h.objects.size ≤ r → h.object r = { kind := .plain, prototype := none } :=
    fun r => h.object_of_size_le
  have new : ∀ r, h.objects.size < r →
      (h.allocate o).2.object r = { kind := .plain, prototype := none } := by
    intro r beyond
    exact object_of_size_le _ (by rw [size_allocate]; exact beyond)
  constructor
  · intro name hname r _
    rcases Nat.lt_trichotomy r h.objects.size with inside | rfl | beyond
    · rw [h.object_allocate_of_lt inside]
    · rw [h.object_allocate_self, fresh name hname, absent _ (Nat.le_refl _)]
      rfl
    · rw [new r beyond, absent r (Nat.le_of_lt beyond)]
  · intro r
    rcases Nat.lt_trichotomy r h.objects.size with inside | rfl | beyond
    · rw [h.object_allocate_of_lt inside]
    · rw [h.object_allocate_self, extensible, absent _ (Nat.le_refl _)]
    · rw [new r beyond, absent r (Nat.le_of_lt beyond)]

variable (r : Ref) {key : Key} (allowed : Realm.Allowed but r key)

include allowed

theorem put (q : Property) : SparedBut but h (h.modify r fun o => o.put key q) := by
  constructor
  · intro name hname s hs
    by_cases here : s = r
    · subst here
      by_cases inside : s < h.objects.size
      · rw [object_modify_self _ inside, Object.lookup_put_of_ne]
        intro same
        exact hs (allowed name hname same.symm)
      · rw [object_modify_of_size_le _ (Nat.le_of_not_lt inside)]
    · rw [object_modify_of_ne _ here]
  · intro s
    by_cases here : s = r
    · subst here
      by_cases inside : s < h.objects.size
      · rw [object_modify_self _ inside, Object.put_extensible]
      · rw [object_modify_of_size_le _ (Nat.le_of_not_lt inside)]
    · rw [object_modify_of_ne _ here]

theorem define (d : Descriptor) : SparedBut but h (h.define r key d) := by
  unfold Heap.define
  dsimp only
  split
  · exact refl
  · split
    · split
      · exact put r allowed _
      · exact refl
    · exact put r allowed _

end Heap.SparedBut

/-! ### Computations -/

namespace Computation

/-- A computation that calls nothing, ends well, and sets no property under a reserved name but at
some places. -/
structure Spares (but : Ref → String → Prop) (x : Computation ε α) : Prop where
  ends (m : Machine) : ∃ a m', x.run .none m = .ok a m'
  keeps (m : Machine) : globalRef < m.heap.objects.size →
    m.heap.SparedBut but (stateAfter (x.run .none m)).heap

namespace Spares

theorem pure (a : α) : Spares but (pure a : Computation ε α) :=
  ⟨fun m => ⟨a, m, rfl⟩, fun _ _ => .refl⟩

theorem look (q : Look α) : Spares but (look q : Computation ε α) :=
  ⟨fun m => ⟨q.ask m.heap, m, rfl⟩, fun _ _ => .refl⟩

/-- What follows may rest on what is known of the result. -/
theorem bind_of {x : Computation ε α} {next : α → Computation ε β} (hx : Spares but x)
    {P : α → Prop} (gives : ∀ m a m', globalRef < m.heap.objects.size →
      x.run .none m = .ok a m' → P a)
    (hends : ∀ a, Spares (fun _ _ => True) (next a))
    (hnext : ∀ a, P a → Spares but (next a)) : Spares but (x >>= next) := by
  refine ⟨fun m => ?_, fun m hm => ?_⟩
  · obtain ⟨a, m', ran⟩ := hx.ends m
    rw [run_bind, ran]
    exact (hends a).ends m'
  · obtain ⟨a, m', ran⟩ := hx.ends m
    have first := hx.keeps m hm
    have reached := reaches_none x m
    rw [ran] at first reached
    rw [run_bind, ran]
    exact first.trans ((hnext a (gives m a m' hm ran)).keeps m'
      (Nat.lt_of_lt_of_le hm reached.size_le))

theorem mono {but' : Ref → String → Prop} {x : Computation ε α}
    (more : ∀ r name, but r name → but' r name) (hx : Spares but x) : Spares but' x :=
  ⟨hx.ends, fun m hm => (hx.keeps m hm).mono more⟩

theorem bind {x : Computation ε α} {next : α → Computation ε β} (hx : Spares but x)
    (hnext : ∀ a, Spares but (next a)) : Spares but (x >>= next) :=
  hx.bind_of (P := fun _ => True) (fun _ _ _ _ _ => trivial)
    (fun a => (hnext a).mono fun _ _ _ => trivial) fun a _ => hnext a

theorem ite {p : Prop} [Decidable p] {x y : Computation ε α} (hx : Spares but x)
    (hy : Spares but y) : Spares but (if p then x else y) := by
  split
  · exact hx
  · exact hy

theorem forM {items : List α} {x : α → Computation ε PUnit}
    (hx : ∀ a ∈ items, Spares but (x a)) : Spares but (items.forM x) := by
  induction items with
  | nil => exact .pure _
  | cons a rest ih =>
    exact .bind (hx a (List.mem_cons_self ..)) fun _ =>
      ih fun b hb => hx b (List.mem_cons_of_mem _ hb)

theorem forIn {items : List α} {x : α → β → Computation ε (ForInStep β)}
    (hx : ∀ a ∈ items, ∀ b, Spares but (x a b)) (b : β) : Spares but (forIn items b x) := by
  induction items generalizing b with
  | nil => exact .pure _
  | cons a rest ih =>
    rw [List.forIn_cons]
    refine .bind (hx a (List.mem_cons_self ..) b) fun step => ?_
    cases step with
    | done b => exact .pure b
    | yield b => exact ih (fun a ha => hx a (List.mem_cons_of_mem _ ha)) b

theorem forNames {names : List String} {x : String → Computation ε (ForInStep PUnit)}
    (free : ∀ name ∈ names, name ∉ Realm.reserved)
    (hx : ∀ name, name ∉ Realm.reserved → Spares but (x name)) :
    Spares but (ForIn.forIn names PUnit.unit fun name _ => x name) :=
  .forIn (fun name hname _ => hx name (free name hname)) _

theorem allocate {o : Object} (extensible : o.extensible = true)
    (fresh : ∀ name ∈ Realm.reserved, o.properties.lookup (.named name) = none)
    (scripted : o.isScripted = true) : Spares but (ScriptHost.allocate o scripted) :=
  .bind (.look _) fun _ =>
    .bind ⟨fun _ => ⟨_, _, rfl⟩, fun _ _ => .allocate extensible fresh⟩ fun _ => .pure _

end Spares

end Computation

/-! ### The parts of what a session starts with -/

namespace Realm

open ScriptHost.Computation (Spares)

theorem lookup_function (f : Callable) (shown : Text) (parameters : Nat) :
    ∀ name ∈ reserved,
      (functionObject f shown parameters).properties.lookup (.named name) = none := by
  intro name hname
  have others : ∀ name ∈ reserved, Key.named name ≠ "length" ∧ Key.named name ≠ "name" := by decide
  obtain ⟨length, shownName⟩ := others name hname
  simp only [functionObject, List.lookup_cons, beq_eq_false_iff_ne.2 length,
    beq_eq_false_iff_ne.2 shownName, List.lookup_nil]

section Parts

variable (r : Ref) (b : Builtin) (scripted : (Callable.builtin b).isScripted = true)

theorem spares_define {key : Key} (allowed : Allowed but r key) (p : Property) :
    Spares but (define r key p) := ⟨fun _ => ⟨_, _, rfl⟩, fun _ _ => .define r allowed _⟩

theorem spares_defineNamed (name : String) (p : Property)
    (free : Free name) : Spares but (define r name p) :=
  spares_define r (allowed_of_free free r) p

theorem spares_defineKnown (w : WellKnown) (p : Property) : Spares but (define r (.known w) p) :=
  spares_define r (allowed_known w r) p

theorem spares_defineAll (ps : List (String × Property))
    (free : ∀ e ∈ ps, Free e.1) : Spares but (defineAll r ps) :=
  .forM fun e he => spares_defineNamed r _ _ (free e he)

theorem spares_addFunction (name : String) (parameters : Nat) :
    Spares but (addFunction b name parameters scripted) := .allocate rfl (lookup_function _ _ _) _

theorem spares_method {name : String} (parameters : Nat) (allowed : Allowed but r name) :
    Spares but (addMethod r name parameters b scripted) :=
  .bind (spares_addFunction ..) fun _ => spares_define r allowed _

theorem spares_addMethod (name : String) (parameters : Nat)
    (free : Free name) :
    Spares but (addMethod r name parameters b scripted) :=
  spares_method r b scripted parameters (allowed_of_free free r)

theorem spares_methods (table : MethodTable α) (b : α → Builtin)
    (scripted : ∀ f, (Callable.builtin (b f)).isScripted = true)
    (allowed : ∀ e ∈ table, Allowed but r e.1) :
    Spares but (addMethods r table b scripted) :=
  .forM fun e he => spares_method r _ _ _ (allowed e he)

theorem spares_addMethods (table : MethodTable α) (b : α → Builtin)
    (scripted : ∀ f, (Callable.builtin (b f)).isScripted = true)
    (free : ∀ e ∈ table, Free e.1) :
    Spares but (addMethods r table b scripted) :=
  spares_methods r table b scripted fun e he => allowed_of_free (free e he) r

theorem spares_addKnown (w : WellKnown) (parameters : Nat) (a : Attributes) :
    Spares but (addKnown r w parameters b a scripted) :=
  .bind (spares_addFunction ..) fun _ => spares_defineKnown ..

theorem spares_nameAgain (source : Key) {target : Key} (allowed : Allowed but r target) :
    Spares but (nameAgain r source target) :=
  .bind (.look _) fun p => by
    cases p with
    | none => exact .pure _
    | some p => exact spares_define r allowed p

theorem spares_nameAgainNamed (source : Key) (name : String) (free : Free name) :
    Spares but (nameAgain r source name) :=
  spares_nameAgain r source (allowed_of_free free r)

theorem spares_addGetter {key : Key} (allowed : Allowed but r key) (name : String) :
    Spares but (addGetter r key name b scripted) :=
  .bind (spares_addFunction ..) fun _ => spares_define r allowed _

theorem spares_addGetterNamed (name shown : String) (free : Free name) :
    Spares but (addGetter r name shown b scripted) :=
  spares_addGetter r b scripted (allowed_of_free free r) shown

theorem spares_addGetters (table : List (String × α)) (b : α → Builtin)
    (scripted : ∀ f, (Callable.builtin (b f)).isScripted = true)
    (free : ∀ e ∈ table, Free e.1) :
    Spares but (table.forM fun e => addGetter r e.1 e.1 (b e.2) (scripted e.2)) :=
  .forM fun e he => spares_addGetterNamed r _ _ _ _ (free e he)

theorem spares_addWord (word : String) : Spares but (addWord r word) := spares_defineKnown ..

theorem spares_addSpecies : Spares but (addSpecies r) :=
  spares_addGetter r _ _ (allowed_known _ _) _

theorem spares_linkClass (f : Family) : Spares but (linkClass r f) :=
  .bind (spares_defineNamed _ _ _ (by decide)) fun _ => spares_defineNamed _ _ _ (by decide)

theorem spares_newPlain (parent : Option Ref) : Spares but (newPlain parent) :=
  .allocate rfl (fun _ _ => rfl) _

end Parts

section Classes

variable (c : Constructor) (name : String) (parameters : Nat) (f : Family)

theorem spares_addClass (parent : Ref) : Spares but (addClass c name parameters f parent) :=
  .bind (.allocate (o := { functionObject (.builtin (.construct c)) (.unicode name) parameters with
    prototype := some parent }) rfl (lookup_function (.builtin (.construct c)) _ _) _) fun _ =>
  .bind (spares_linkClass ..) fun _ => .pure _

theorem spares_subclass (allowed : Allowed but globalRef name) (parent : Ref) :
    Spares but (addSubclass c name parameters f parent) :=
  .bind (spares_addClass ..) fun _ => .bind (spares_define _ allowed _) fun _ => .pure _

theorem spares_module {name : String} (allowed : Allowed but globalRef name) :
    Spares but (addModule name) :=
  .bind (spares_newPlain _) fun _ => .bind (spares_define _ allowed _) fun _ => .pure _

variable (free : Free name)

include free

theorem spares_addSubclass (parent : Ref) : Spares but (addSubclass c name parameters f parent) :=
  spares_subclass c name parameters f (allowed_of_free free _) parent

theorem spares_addConstructor : Spares but (addConstructor c name parameters f) :=
  spares_addSubclass c name parameters f free _

theorem spares_addModule : Spares but (addModule name) := spares_module (allowed_of_free free _)

end Classes

/-! ### All of it

Each proof follows a definition line by line. -/

theorem spares_addObjects : Spares but addObjects :=
  .bind (spares_addConstructor _ _ _ _ (by decide)) fun _ =>
  .bind (spares_addMethods _ _ _ _ (by decide)) fun _ =>
  .bind (spares_addMethods _ _ _ _ (by decide)) fun _ =>
  .bind (spares_addFunction _ _ _ _) fun _ =>
  .bind (spares_addFunction _ _ _ _) fun _ =>
  .bind (spares_defineNamed _ _ _ (by decide)) fun _ =>
  spares_addMethods _ _ _ _ (by decide)

theorem spares_addFunctions : Spares but addFunctions :=
  .bind (spares_addFunction _ _ _ _) fun _ =>
  .bind (.forNames (by decide) fun _ free =>
    .bind (spares_defineNamed _ _ _ free) fun _ => .pure _) fun _ =>
  .bind (spares_addMethods _ _ _ _ (by decide)) fun _ =>
  .bind (spares_addKnown _ _ _ _ _ _) fun _ =>
  .bind (spares_addGetterNamed _ _ _ _ _ (by decide)) fun _ =>
  .bind (.forNames (by decide) fun _ free =>
    .bind (spares_addGetterNamed _ _ _ _ _ free) fun _ => .pure _) fun _ =>
  .bind (spares_addConstructor _ _ _ _ (by decide)) fun _ => .pure _

theorem spares_addErrorName (e : ErrorClass) : Spares but (addErrorName e) :=
  spares_defineAll _ _ (by simp only [List.forall_mem_cons]; decide)

/-- What each class of errors but the one of types is called by. -/
theorem allowed_error {e : ErrorClass} (typeError : but globalRef "TypeError") :
    Allowed but globalRef e.name := by
  cases e with
  | typeError => exact allowed_of_but typeError
  | _ => exact allowed_of_free (by decide) _

theorem spares_addErrors (typeError : but globalRef "TypeError") : Spares but addErrors :=
  .bind (spares_addMethod _ _ _ _ _ (by decide)) fun _ =>
  .bind (spares_addErrorName _) fun _ =>
  .bind (spares_addConstructor _ _ _ _ (by decide)) fun _ =>
  .bind (spares_addMethod _ _ _ _ _ (by decide)) fun _ =>
  .bind (spares_addMethod _ _ _ _ _ (by decide)) fun _ =>
  .bind (spares_defineNamed _ _ _ (by decide)) fun _ =>
  .bind (spares_defineNamed _ _ _ (by decide)) fun _ =>
  .bind (.forIn (fun e _ _ =>
    .bind (spares_addErrorName _) fun _ =>
    .bind (spares_subclass _ _ _ _ (allowed_error typeError) _) fun _ => .pure _) _) fun _ => .pure _

theorem spares_addIterators : Spares but addIterators :=
  .bind (spares_addMethods _ _ _ _ (by decide)) fun _ =>
  .bind (spares_addKnown _ _ _ _ _ _) fun _ =>
  .bind (spares_addWord _ _) fun _ =>
  .bind (spares_addConstructor _ _ _ _ (by decide)) fun _ =>
  .bind (spares_addMethod _ _ _ _ _ (by decide)) fun _ =>
  .bind (.forIn (fun w _ _ =>
    .bind (spares_addMethod _ _ _ _ _ (by decide)) fun _ =>
    .bind (spares_addWord _ _) fun _ => .pure _) _) fun _ =>
  .bind (spares_addMethods _ _ _ _ (by decide)) fun _ =>
  .bind (spares_addWord _ _) fun _ =>
  .bind (spares_addMethods _ _ _ _ (by decide)) fun _ =>
  .bind (spares_addMethods _ _ _ _ (by decide)) fun _ =>
  .bind (spares_addWord _ _) fun _ =>
  .bind (spares_newPlain _) fun _ =>
  .bind (spares_addWord _ _) fun _ =>
  .bind (spares_defineNamed _ _ _ (by decide)) fun _ =>
  .bind (spares_defineNamed _ _ _ (by decide)) fun _ =>
  .bind (spares_addFunction _ _ _ _) fun _ =>
  .bind (spares_defineNamed _ _ _ (by decide)) fun _ =>
  spares_defineNamed _ _ _ (by decide)

theorem spares_addArrays : Spares but addArrays :=
  .bind (spares_addMethods _ _ _ _ (by decide)) fun _ =>
  .bind (spares_nameAgain _ _ (allowed_known _ _)) fun _ =>
  .bind (spares_addConstructor _ _ _ _ (by decide)) fun _ =>
  .bind (spares_addMethods _ _ _ _ (by decide)) fun _ =>
  .bind (spares_addSpecies _) fun _ =>
  .bind (spares_newPlain _) fun _ =>
  .bind (.forNames (by decide) fun _ free =>
    .bind (spares_defineNamed _ _ _ free) fun _ => .pure _) fun _ =>
  spares_defineKnown _ _ _

theorem spares_addNumbers : Spares but addNumbers :=
  .bind (spares_addMethods _ _ _ _ (by decide)) fun _ =>
  .bind (spares_addConstructor _ _ _ _ (by decide)) fun _ =>
  .bind (.forNames (by decide) fun _ free => .bind (.look _) fun p => by
    cases p with
    | none => exact .bind (.pure _) fun _ => .pure _
    | some p => exact .bind (spares_defineNamed _ _ _ free) fun _ => .pure _) fun _ =>
  .bind (spares_addMethods _ _ _ _ (by decide)) fun _ =>
  .bind (spares_defineAll _ _ (by decide)) fun _ =>
  .bind (spares_addMethods _ _ _ _ (by decide)) fun _ =>
  .bind (spares_addConstructor _ _ _ _ (by decide)) fun _ => .pure _

theorem spares_addBigIntegers : Spares but addBigIntegers :=
  .bind (spares_addMethods _ _ _ _ (by decide)) fun _ =>
  .bind (spares_addWord _ _) fun _ =>
  .bind (spares_addConstructor _ _ _ _ (by decide)) fun _ =>
  spares_addMethods _ _ _ _ (by decide)

theorem free_known (w : WellKnown) : Free w.name := by cases w <;> decide

theorem spares_addSymbols : Spares but addSymbols :=
  .bind (spares_addMethods _ _ _ _ (by decide)) fun _ =>
  .bind (spares_addKnown _ _ _ _ _ _) fun _ =>
  .bind (spares_addWord _ _) fun _ =>
  .bind (spares_addGetterNamed _ _ _ _ _ (by decide)) fun _ =>
  .bind (spares_addConstructor _ _ _ _ (by decide)) fun _ =>
  .bind (spares_addMethods _ _ _ _ (by decide)) fun _ =>
  .bind (.forIn (fun w _ _ => .bind (spares_defineNamed _ _ _ (free_known w)) fun _ => .pure _) _)
    fun _ => .pure _

theorem spares_addTexts : Spares but addTexts :=
  .bind (spares_addConstructor _ _ _ _ (by decide)) fun _ =>
  .bind (spares_addMethods _ _ _ _ (by decide)) fun _ =>
  .bind (spares_defineNamed _ _ _ (by decide)) fun _ =>
  .bind (spares_addMethods _ _ _ _ (by decide)) fun _ =>
  .bind (spares_nameAgainNamed _ _ _ (by decide)) fun _ =>
  .bind (spares_nameAgainNamed _ _ _ (by decide)) fun _ =>
  spares_addKnown _ _ _ _ _ _

theorem spares_addMathematics : Spares but addMathematics :=
  .bind (spares_addModule _ (by decide)) fun _ =>
  .bind (spares_addMethods _ _ _ _ (by decide)) fun _ =>
  .bind (spares_addWord _ _) fun _ =>
  spares_defineAll _ _ (by decide)

/-- Two methods of `Reflect` have reserved names. -/
theorem allowed_reflection {r : Ref} (methods : but r "get" ∧ but r "has") :
    ∀ e ∈ ReflectFunction.functions, Allowed but r e.1 := by
  have free : ∀ e ∈ ReflectFunction.functions, e.1 = "get" ∨ e.1 = "has" ∨ Free e.1 := by decide
  intro e he
  rcases free e he with get | has | free
  · exact get ▸ allowed_of_but methods.1
  · exact has ▸ allowed_of_but methods.2
  · exact allowed_of_free free r

theorem spares_addReflection (reflect : but globalRef "Reflect")
    (methods : ∀ r > globalRef, but r "get" ∧ but r "has") : Spares but addReflection :=
  .bind_of (spares_module (allowed_of_but reflect)) (P := fun r => globalRef < r)
    (fun m r m' inside ran => by
      cases ran
      exact inside)
    (fun _ => .bind (spares_methods _ _ _ _ fun _ _ => allowed_of_but trivial) fun _ =>
      spares_addWord _ _)
    fun r newer =>
      .bind (spares_methods _ _ _ _ (allowed_reflection (methods r newer))) fun _ =>
        spares_addWord _ _

theorem spares_addProxies : Spares but addProxies :=
  .bind (spares_addFunction _ _ _ _) fun _ =>
  .bind (spares_addMethod _ _ _ _ _ (by decide)) fun _ =>
  spares_defineNamed _ _ _ (by decide)

theorem spares_addDocuments : Spares but addDocuments :=
  .bind (spares_addModule _ (by decide)) fun _ =>
  .bind (spares_addMethod _ _ _ _ _ (by decide)) fun _ =>
  .bind (spares_addMethod _ _ _ _ _ (by decide)) fun _ =>
  spares_addWord _ _

theorem spares_addBufferClass (shared : Bool) (name : String) (f : Family)
    (free : Free name) : Spares but (addBufferClass shared name f) :=
  .bind (spares_addGetters _ _ _ _ (by cases shared <;> decide)) fun _ =>
  .bind (spares_addMethods _ _ _ _ (by cases shared <;> decide)) fun _ =>
  .bind (spares_addWord _ _) fun _ =>
  .bind (spares_addConstructor _ _ _ _ free) fun _ =>
  .bind (spares_addSpecies _) fun _ => .pure _

theorem spares_addElementLists : Spares but addElementLists :=
  .bind (spares_addGetterNamed _ _ _ _ _ (by decide)) fun _ =>
  .bind (spares_addMethods _ _ _ _ (by decide)) fun _ =>
  .bind (spares_addGetters _ _ _ _ (by decide)) fun _ =>
  .bind (spares_addMethods _ _ _ _ (by decide)) fun _ =>
  .bind (spares_addGetter _ _ _ (allowed_known _ _) _) fun _ =>
  .bind (spares_nameAgain _ _ (allowed_known _ _)) fun _ =>
  .bind (.look _) fun t => by
    have rest : Spares but (do
        let c ← addFunction (.construct (.elements none)) "TypedArray" 0
        addMethods c ElementMethod.statics .elements
        addSpecies c
        linkClass c .elementList
        return c) :=
      .bind (spares_addFunction _ _ _ _) fun _ =>
      .bind (spares_addMethods _ _ _ _ (by decide)) fun _ =>
      .bind (spares_addSpecies _) fun _ =>
      .bind (spares_linkClass _ _) fun _ => .pure _
    cases t with
    | none => exact rest
    | some t => exact .bind (spares_defineNamed _ _ _ (by decide)) fun _ => rest

theorem free_elements (t : ElementType) : Free t.arrayName := by cases t <;> decide

theorem spares_addBuffers : Spares but addBuffers :=
  .bind (spares_addBufferClass _ _ _ (by decide)) fun _ =>
  .bind (spares_addMethod _ _ _ _ _ (by decide)) fun _ =>
  .bind (spares_addBufferClass _ _ _ (by decide)) fun _ =>
  .bind spares_addElementLists fun _ =>
  .bind (.forIn (fun t _ _ =>
    .bind (spares_addSubclass _ _ _ _ (free_elements t) _) fun _ =>
    .bind (spares_defineNamed _ _ _ (by decide)) fun _ =>
    .bind (spares_defineNamed _ _ _ (by decide)) fun _ => .pure _) _) fun _ =>
  .bind (spares_addGetters _ _ _ _ (by decide)) fun _ =>
  .bind (spares_addMethods _ _ _ _ (by decide)) fun _ =>
  .bind (spares_addWord _ _) fun _ =>
  .bind (spares_addConstructor _ _ _ _ (by decide)) fun _ =>
  .bind (spares_addModule _ (by decide)) fun _ =>
  .bind (spares_addMethods _ _ _ _ (by decide)) fun _ =>
  spares_addWord _ _

theorem spares_addDates : Spares but addDates :=
  .bind (spares_addMethods _ _ _ _ (by decide)) fun _ =>
  .bind (spares_nameAgainNamed _ _ _ (by decide)) fun _ =>
  .bind (spares_addKnown _ _ _ _ _ _) fun _ =>
  .bind (spares_addConstructor _ _ _ _ (by decide)) fun _ =>
  spares_addMethods _ _ _ _ (by decide)

theorem spares_addPatterns : Spares but addPatterns :=
  .bind (spares_addGetterNamed _ _ _ _ _ (by decide)) fun _ =>
  .bind (spares_addGetterNamed _ _ _ _ _ (by decide)) fun _ =>
  .bind (spares_addGetters _ PatternMethod.flagNames (fun c => .pattern (.flag c)) _ (by decide))
    fun _ =>
  .bind (spares_addMethods _ _ _ _ (by decide)) fun _ =>
  .bind (spares_addKnown _ _ _ _ _ _) fun _ =>
  .bind (spares_addKnown _ _ _ _ _ _) fun _ =>
  .bind (spares_addKnown _ _ _ _ _ _) fun _ =>
  .bind (spares_addKnown _ _ _ _ _ _) fun _ =>
  .bind (spares_addKnown _ _ _ _ _ _) fun _ =>
  .bind (spares_addConstructor _ _ _ _ (by decide)) fun _ =>
  spares_addSpecies _

theorem spares_addPromises : Spares but addPromises :=
  .bind (spares_addMethods _ _ _ _ (by decide)) fun _ =>
  .bind (spares_addWord _ _) fun _ =>
  .bind (spares_addConstructor _ _ _ _ (by decide)) fun _ =>
  .bind (spares_addMethods _ _ _ _ (by decide)) fun _ =>
  spares_addSpecies _

theorem spares_addReferences : Spares but addReferences :=
  .bind (spares_addMethod _ _ _ _ _ (by decide)) fun _ =>
  .bind (spares_addWord _ _) fun _ =>
  .bind (spares_addConstructor _ _ _ _ (by decide)) fun _ =>
  .bind (spares_addMethod _ _ _ _ _ (by decide)) fun _ =>
  .bind (spares_addMethod _ _ _ _ _ (by decide)) fun _ =>
  .bind (spares_addWord _ _) fun _ =>
  .bind (spares_addConstructor _ _ _ _ (by decide)) fun _ => .pure _

theorem spares_addGlobals : Spares but addGlobals :=
  .bind (spares_addMethods _ _ _ _ (by decide)) fun _ =>
  .bind (spares_defineAll _ _ (by decide)) fun _ =>
  spares_addWord _ _

theorem spares_addClock : Spares but addClock :=
  .bind (spares_newPlain _) fun _ =>
  .bind (spares_addMethod _ _ _ _ _ (by decide)) fun _ =>
  .bind (spares_defineNamed _ _ _ (by decide)) fun _ =>
  spares_defineNamed _ _ _ (by decide)

theorem free_collection (c : CollectionClass) : Free c.name := by cases c <;> decide

/-- Two methods of maps and sets have reserved names. -/
theorem allowed_collection {c : CollectionClass}
    (methods : but (Family.collection c).prototype "get" ∧
      but (Family.collection c).prototype "has") :
    ∀ e ∈ CollectionMethod.methods c, Allowed but (Family.collection c).prototype e.1 := by
  have free : ∀ e ∈ CollectionMethod.methods c, e.1 = "get" ∨ e.1 = "has" ∨ Free e.1 := by
    cases c <;> decide
  intro e he
  rcases free e he with get | has | free
  · exact get ▸ allowed_of_but methods.1
  · exact has ▸ allowed_of_but methods.2
  · exact allowed_of_free free _

/-- All that a class of collections gets besides these methods. -/
theorem spares_furtherCollection (c : CollectionClass) : Spares but (do
    let f := Family.collection c
    if !c.isWeak then
      addGetter f.prototype "size" "size" (.collection c .size)
      addMethods f.prototype (CollectionMethod.furtherMethods c) (.collection c)
      if !c.isMap then
        nameAgain f.prototype "values" "keys"
        addMethod f.prototype "entries" 0 (.collection c .entries)
      nameAgain f.prototype (if c.isMap then "entries" else "values") (.known .iterator)
    addWord f.prototype c.name
    let r ← addConstructor (.collection c) c.name 0 f
    if !c.isWeak then
      addMethod r "groupBy" 2 .groupEntries
      addSpecies r) := by
  have finish : Spares but (do
      addWord (Family.collection c).prototype c.name
      let r ← addConstructor (.collection c) c.name 0 (Family.collection c)
      if !c.isWeak then
        addMethod r "groupBy" 2 .groupEntries
        addSpecies r) :=
    .bind (spares_addWord _ _) fun _ =>
    .bind (spares_addConstructor _ _ _ _ (free_collection c)) fun _ =>
    .ite (.bind (spares_addMethod _ _ _ _ _ (by decide)) fun _ => spares_addSpecies _) (.pure _)
  exact .ite
    (.bind (spares_addGetterNamed _ _ _ _ _ (by decide)) fun _ =>
    .bind (spares_addMethods _ _ _ _ (by cases c <;> decide)) fun _ =>
    .ite
      (.bind (spares_nameAgainNamed _ _ _ (by decide)) fun _ =>
      .bind (spares_addMethod _ _ _ _ _ (by decide)) fun _ =>
      .bind (spares_nameAgain _ _ (allowed_known _ _)) fun _ => finish)
      (.bind (spares_nameAgain _ _ (allowed_known _ _)) fun _ => finish))
    finish

theorem spares_addCollections
    (methods : ∀ c, but (Family.collection c).prototype "get" ∧
      but (Family.collection c).prototype "has") : Spares but addCollections :=
  .forM fun c _ => .bind (spares_methods _ _ _ _ (allowed_collection (methods c))) fun _ =>
    spares_furtherCollection c

/-- Where other reserved names than those of namespaces are used: two for global variables, and two
for methods, though not of what all objects inherit from. -/
def Uses (r : Ref) (name : String) : Prop :=
  r = globalRef ∧ (name = "TypeError" ∨ name = "Reflect") ∨
    r ≠ Family.object.prototype ∧ (name = "get" ∨ name = "has")

instance (r : Ref) (name : String) : Decidable (Uses r name) :=
  inferInstanceAs (Decidable (_ ∧ _ ∨ _ ∧ _))

theorem spares_addAll : Spares Uses addAll :=
  .bind spares_addObjects fun _ =>
  .bind spares_addFunctions fun _ =>
  .bind (spares_addErrors (.inl ⟨rfl, .inl rfl⟩)) fun _ =>
  .bind spares_addIterators fun _ =>
  .bind spares_addArrays fun _ =>
  .bind spares_addGlobals fun _ =>
  .bind spares_addNumbers fun _ =>
  .bind spares_addTexts fun _ =>
  .bind spares_addMathematics fun _ =>
  .bind (spares_addReflection (.inl ⟨rfl, .inr rfl⟩) fun _ newer =>
    have other := Nat.ne_of_gt (Nat.lt_trans (by decide) newer)
    ⟨.inr ⟨other, .inl rfl⟩, .inr ⟨other, .inr rfl⟩⟩) fun _ =>
  .bind spares_addSymbols fun _ =>
  .bind (spares_addMethod _ _ _ _ _ (by decide)) fun _ =>
  .bind (spares_defineNamed _ _ _ (by decide)) fun _ =>
  .bind spares_addDates fun _ =>
  .bind spares_addPatterns fun _ =>
  .bind spares_addDocuments fun _ =>
  .bind spares_addProxies fun _ =>
  .bind (spares_addCollections fun c =>
    have other : (Family.collection c).prototype ≠ Family.object.prototype := by cases c <;> decide
    ⟨.inr ⟨other, .inl rfl⟩, .inr ⟨other, .inr rfl⟩⟩) fun _ =>
  .bind spares_addBuffers fun _ =>
  .bind spares_addPromises fun _ =>
  .bind spares_addBigIntegers fun _ =>
  .bind spares_addReferences fun _ =>
  spares_addClock

end Realm

/-! ### Heaps of sessions -/

/-- A part of the building of a heap that leaves all properties under reserved names as they are. -/
def Building.Spares (x : Building α) : Prop :=
  ∀ h : Heap, h.SparedBut (fun _ _ => False) (x h).2

namespace Building

theorem Spares.bind {x : Building α} {next : α → Building β} (hx : Spares x)
    (hnext : ∀ a, Spares (next a)) : Spares (x >>= next) :=
  fun h => (hx h).trans (hnext _ _)

theorem Spares.add {o : Object} (extensible : o.extensible = true)
    (fresh : ∀ name ∈ Realm.reserved, o.properties.lookup (.named name) = none) : Spares (add o) :=
  fun _ => .allocate extensible fresh

theorem Spares.define (r : Ref) {name : String} (free : Realm.Free name) (p : Property) :
    Spares (define r name p) :=
  fun _ => .put r (Realm.allowed_of_free free r) p

theorem Spares.forM {items : List α} {x : α → Building PUnit} (hx : ∀ a, Spares (x a)) :
    Spares (items.forM x) := by
  induction items with
  | nil => exact fun _ => .refl
  | cons a rest ih => exact .bind (hx a) fun _ => ih

theorem free_level (level : LogLevel) : Realm.Free level.methodName := by
  cases level <;> decide

theorem spares_addConsole : Spares addConsole :=
  .bind (.add rfl fun _ _ => rfl) fun r =>
  .bind (.forM fun level => .bind (.add rfl (Realm.lookup_function _ _ _)) fun _ =>
    .define r (free_level level) _) fun _ => .define _ (by decide) _

end Building

namespace Heap

theorem lookup_bare {name : String} (reserved : name ∈ Realm.reserved) (r : Ref) :
    (bare.object r).properties.lookup (.named name) = none := by
  rcases object_bare r with ⟨f, hf⟩ | ⟨-, none⟩
  · rw [hf]
    cases f with
    | function =>
      exact Realm.lookup_function (.builtin (.function .nothing)) (.unicode "") 0 _ reserved
    | _ => rfl
  · rw [none]
    rfl

theorem spared_after {h : Heap} (ground : globalRef < h.objects.size) {s : Script Unit}
    (spares : s.Spares but) : h.SparedBut but (h.after s) := by
  have spared := spares.keeps { heap := h, backend := .empty, logs := {} } ground
  unfold after
  split
  · next ran => rwa [ran] at spared
  · next ran => rwa [ran] at spared

theorem spared_initial : bare.SparedBut Realm.Uses initial :=
  spared_after grounded_bare.size Realm.spares_addAll

/-- When a session starts, the object that all others inherit from has no property under a reserved
name. -/
theorem own?_prototype_install_of_reserved {r : Registry} (valid : r.fault? = none) (p : Permissions)
    {name : String} (reserved : name ∈ Realm.reserved)
    (unused : ¬ Realm.Uses Family.object.prototype name) :
    (install r p).own? ((install r p).object Family.object.prototype) (.named name) = none := by
  have kept : (install r p).object Family.object.prototype =
      (Building.addConsole initial).2.object Family.object.prototype :=
    Building.object_addRoot_of_lt (fun _ => Registry.named_of_fault? valid) p
      grounded_addConsole.base_inside (by decide)
  have indexless : (Key.named name).index? = none := by
    have all : ∀ name ∈ Realm.reserved, (Key.named name).index? = none := by decide
    exact all name reserved
  rw [own?_of_plain _ grounded_install.base, Object.stored?_of_index?_none _ _ indexless, kept,
    (Building.spares_addConsole initial).lookup name reserved _ id,
    spared_initial.lookup name reserved _ unused, lookup_bare reserved]

/-- Nothing is inherited under the name of a namespace when a session starts. -/
theorem own?_prototype_install {r : Registry} (valid : r.fault? = none) (p : Permissions)
    (gate : Permission) :
    (install r p).own? ((install r p).object Family.object.prototype) (.named gate.key) = none :=
  own?_prototype_install_of_reserved valid p gate.key_reserved (by cases gate <;> decide)

end Heap

end ScriptHost
