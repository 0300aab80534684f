import ScriptHost.Engine.Look
import ScriptHost.Proofs.Alike
import ScriptHost.Proofs.Heap

/-!
# Heaps that differ in a part

* `Part`, `Part.Holds`: a property of one object and a row of further objects, and the spots there;
* `Object.SameBut`, `Heap.SameBut`: objects that are the same but for a property, and heaps that are
  the same but for a part;
* `Heap.SameBut.ask`: what a look tells that concerns no spot of the part;
* `Heap.SameBut.apply`: what a change does that depends on no spot of the part.
-/

namespace ScriptHost

/-- The property of an object under a key, and the objects in a row of places. -/
structure Part where
  root : Ref
  key : Key
  first : Ref
  count : Nat

namespace Part

/-- Whether a place is in the row. -/
def Covers (p : Part) (r : Ref) : Prop := p.first ≤ r ∧ r < p.first + p.count

/-- Whether a spot is in the part, or tells of something in it. -/
def Holds (p : Part) : Spot → Prop
  | .frame r => p.Covers r
  | .property r key => p.Covers r ∨ r = p.root ∧ key = p.key
  | .whole r => p.Covers r ∨ r = p.root

end Part

/-! ### Objects -/

/-- Properties without the one under a key. -/
def besides (key : Key) (ps : List (Key × Property)) : List (Key × Property) :=
  ps.filter fun e => e.1 ≠ key

/-- Objects that are the same but for their properties under a key. -/
def Object.SameBut (key : Key) (o o' : Object) : Prop :=
  ∃ ps, o' = { o with properties := ps } ∧ besides key ps = besides key o.properties

section Properties

variable {key key' : Key} {ps ps' : List (Key × Property)}

theorem lookup_besides (hk : key' ≠ key) : (besides key ps).lookup key' = ps.lookup key' := by
  induction ps with
  | nil => rfl
  | cons e ps ih =>
    obtain ⟨k, v⟩ := e
    have rest : (besides key ps).lookup key' = ps.lookup key' := ih
    by_cases gone : k = key
    · have cut : besides key ((k, v) :: ps) = besides key ps := by simp [besides, gone]
      have other : (key' == k) = false := by simpa [gone] using hk
      rw [cut, List.lookup_cons, other, rest]
    · have kept : besides key ((k, v) :: ps) = (k, v) :: besides key ps := by simp [besides, gone]
      rw [kept, List.lookup_cons, List.lookup_cons, rest]

theorem besides_putIn (hk : key' ≠ key) (q : Property) :
    besides key (putIn key' q ps) = putIn key' q (besides key ps) := by
  induction ps with
  | nil => simp [besides, putIn, hk]
  | cons e ps ih =>
    obtain ⟨k, v⟩ := e
    by_cases gone : k = key
    · subst gone
      simpa [besides, putIn, hk.symm] using ih
    · by_cases here : k = key'
      · subst here
        simp [besides, putIn, gone]
      · simpa [besides, putIn, here, gone] using ih

theorem besides_comm : besides key (besides key' ps) = besides key' (besides key ps) := by
  simp only [besides, List.filter_filter, Bool.and_comm]

variable (same : besides key ps' = besides key ps)

include same

theorem lookup_of_besides (hk : key' ≠ key) : ps'.lookup key' = ps.lookup key' := by
  rw [← lookup_besides hk, same, lookup_besides hk]

theorem putIn_of_besides (hk : key' ≠ key) (q : Property) :
    besides key (putIn key' q ps') = besides key (putIn key' q ps) := by
  rw [besides_putIn hk, besides_putIn hk, same]

end Properties

namespace Object.SameBut

variable {key key' : Key} {o o' : Object}

theorem refl (o : Object) : SameBut key o o := ⟨o.properties, rfl, rfl⟩

theorem frame (same : SameBut key o o') : o'.frame = o.frame := by
  obtain ⟨ps, rfl, -⟩ := same
  rfl

theorem lookup (same : SameBut key o o') (hk : key' ≠ key) :
    o'.properties.lookup key' = o.properties.lookup key' := by
  obtain ⟨ps, rfl, same⟩ := same
  exact lookup_of_besides same hk

theorem putItem (same : SameBut key o o') (hk : key' ≠ key) (i : Nat) (q : Property) :
    SameBut key (o.putItem i key' q) (o'.putItem i key' q) := by
  obtain ⟨ps, rfl, same⟩ := same
  have holds : Object.hasItems { o with properties := ps } = o.hasItems := rfl
  unfold Object.putItem
  rw [holds, lookup_of_besides same hk]
  split
  · exact ⟨ps, rfl, same⟩
  · split
    · exact ⟨ps, rfl, same⟩
    · exact ⟨ScriptHost.putIn key' q ps, rfl, putIn_of_besides same hk q⟩

theorem cover (same : SameBut key o o') (i : Nat) : SameBut key (o.cover i) (o'.cover i) := by
  obtain ⟨ps, rfl, same⟩ := same
  unfold Object.cover
  dsimp only
  split <;> exact ⟨ps, rfl, same⟩

theorem put (same : SameBut key o o') (hk : key' ≠ key) (q : Property) :
    SameBut key (o.put key' q) (o'.put key' q) := by
  unfold Object.put
  split
  · exact (same.putItem hk _ q).cover _
  · obtain ⟨ps, rfl, same⟩ := same
    exact ⟨ScriptHost.putIn key' q ps, rfl, putIn_of_besides same hk q⟩

theorem remove (same : SameBut key o o') : SameBut key (o.remove key') (o'.remove key') := by
  obtain ⟨ps, rfl, same⟩ := same
  have rest : besides key (besides key' ps) = besides key (besides key' o.properties) := by
    rw [besides_comm, same, besides_comm]
  unfold Object.remove
  split
  · split
    · exact ⟨ps, rfl, same⟩
    · exact ⟨besides key' ps, rfl, rest⟩
  · exact ⟨besides key' ps, rfl, rest⟩

theorem trace (same : SameBut key o o') (hk : stackProperty.1 ≠ key) :
    SameBut key o.trace o'.trace := by
  obtain ⟨ps, rfl, same⟩ := same
  have error : Object.isError { o with properties := ps } = o.isError := rfl
  unfold Object.trace
  rw [error, lookup_of_besides same hk]
  split
  · refine ⟨ps ++ [stackProperty], rfl, ?_⟩
    unfold besides at same ⊢
    rw [List.filter_append, same, List.filter_append]
  · exact ⟨ps, rfl, same⟩

theorem fixLength (same : SameBut key o o') : SameBut key o.fixLength o'.fixLength := by
  obtain ⟨ps, rfl, same⟩ := same
  unfold Object.fixLength
  dsimp only
  split <;> exact ⟨ps, rfl, same⟩

end Object.SameBut

/-- What is kept under a key depends on the frame of an object and on the property there. -/
theorem Object.stored?_congr {key : Key} {o o' : Object} (frame : o'.frame = o.frame)
    (lookup : o'.properties.lookup key = o.properties.lookup key) :
    o'.stored? key = o.stored? key := by
  have items : o'.elements = o.elements := (congrArg Object.elements frame :)
  unfold Object.stored?
  rw [items, lookup]

/-! ### Heaps -/

/-- Heaps that are the same but for a part. -/
structure Heap.SameBut (p : Part) (h h' : Heap) : Prop where
  size : h'.objects.size = h.objects.size
  cells : h'.cells = h.cells
  symbols : h'.symbols = h.symbols
  object : ∀ r : Ref, ¬ p.Covers r → r ≠ p.root → h'.object r = h.object r
  root : (h.object p.root).SameBut p.key (h'.object p.root)

namespace Heap.SameBut

variable {p : Part} {h h' : Heap}

theorem refl (p : Part) (h : Heap) : SameBut p h h := ⟨rfl, rfl, rfl, fun _ _ _ => rfl, .refl _⟩

section Looks

variable (same : SameBut p h h')

include same

theorem near {r : Ref} (clear : ¬ p.Covers r) : (h.object r).SameBut p.key (h'.object r) := by
  by_cases root : r = p.root
  · exact root ▸ same.root
  · rw [same.object r clear root]
    exact .refl _

theorem frame {r : Ref} (clear : ¬ p.Covers r) : (h'.object r).frame = (h.object r).frame :=
  (same.near clear).frame

theorem kind {r : Ref} (clear : ¬ p.Covers r) : (h'.object r).kind = (h.object r).kind :=
  (congrArg Object.kind (same.frame clear) :)

theorem whole {r : Ref} (clear : ¬ p.Holds (.whole r)) : h'.object r = h.object r :=
  same.object r (fun covered => clear (.inl covered)) fun root => clear (.inr root)

theorem lookup {r : Ref} {key : Key} (clear : ¬ p.Holds (.property r key)) :
    (h'.object r).properties.lookup key = (h.object r).properties.lookup key := by
  have outside : ¬ p.Covers r := fun covered => clear (.inl covered)
  by_cases root : r = p.root
  · exact (same.near outside).lookup fun hk => clear (.inr ⟨root, hk⟩)
  · rw [same.object r outside root]

theorem store {r buffer : Ref} {t : ElementType} {offset : Nat} {length : Option Nat}
    (clear : Clear p.Holds (h.storeSpots r))
    (hr : (h.object r).kind = .elements t buffer offset length) :
    h'.store buffer = h.store buffer :=
  (congrArg Object.store (same.frame (clear (.frame buffer) (by simp [storeSpots, hr]))) :)

omit same in
/-- What an own property depends on. -/
theorem clear_ownSpots {r : Ref} {key : Key} (clear : Clear p.Holds (h.ownSpots r key)) :
    ¬ p.Covers r ∧ ¬ p.Holds (.property r key) ∧ Clear p.Holds (h.storeSpots r) := by
  obtain ⟨frame, rest⟩ := Clear.cons.1 clear
  exact ⟨frame, Clear.cons.1 rest⟩

theorem stored {r : Ref} {key : Key} (clear : Clear p.Holds (h.ownSpots r key)) :
    (h'.object r).stored? key = (h.object r).stored? key := by
  obtain ⟨here, property, -⟩ := clear_ownSpots clear
  exact Object.stored?_congr (same.frame here) (same.lookup property)

theorem own {r : Ref} {key : Key} (clear : Clear p.Holds (h.ownSpots r key)) :
    h'.own? (h'.object r) key = h.own? (h.object r) key := by
  obtain ⟨here, -, numbers⟩ := clear_ownSpots clear
  have stored := same.stored clear
  have kind := same.kind here
  cases hr : (h.object r).kind with
  | elements t buffer offset length =>
    simp only [Heap.own?, kind, hr, stored, elementCount, element, same.store numbers hr]
  | boxed v => cases v <;> simp only [Heap.own?, kind, hr, stored]
  | _ => simp only [Heap.own?, kind, hr, stored]

theorem keys {r : Ref} (clear : Clear p.Holds (.whole r :: h.storeSpots r)) :
    h'.ownKeys (h'.object r) = h.ownKeys (h.object r) := by
  obtain ⟨here, numbers⟩ := Clear.cons.1 clear
  rw [same.whole here]
  cases hr : (h.object r).kind with
  | elements t buffer offset length =>
    simp only [Heap.ownKeys, hr, elementCount, same.store numbers hr]
  | boxed v => cases v <;> simp only [Heap.ownKeys, hr]
  | _ => simp only [Heap.ownKeys, hr]

/-! Walks from object to object, by induction on how far they may go. -/

theorem unwrap {fuel : Nat} {r : Ref}
    (clear : Clear p.Holds (h.walkSpots Object.target? fuel r)) :
    (h'.unwrap fuel r).frame = (h.unwrap fuel r).frame := by
  induction fuel generalizing r with
  | zero => exact same.frame (clear _ (List.mem_singleton_self _))
  | succ fuel ih =>
    obtain ⟨here, next⟩ := Clear.cons.1 clear
    unfold Heap.unwrap
    rw [same.kind here]
    split
    · next hr => exact ih (by simpa [Object.target?, hr] using next)
    · exact same.frame here

theorem unbound {fuel : Nat} {r : Ref}
    (clear : Clear p.Holds (h.walkSpots Object.unbound? fuel r)) :
    h'.unbound fuel r = h.unbound fuel r := by
  induction fuel generalizing r with
  | zero => rfl
  | succ fuel ih =>
    obtain ⟨here, next⟩ := Clear.cons.1 clear
    have callable : (h'.object r).callable? = (h.object r).callable? :=
      (congrArg Object.callable? (same.frame here) :)
    unfold Heap.unbound
    rw [callable]
    split
    · next hr =>
      refine ih ?_
      unfold Object.callable? at hr
      split at hr
      · next hk =>
        cases hr
        simpa [Object.unbound?, hk] using next
      · cases hr
    · rfl

theorem isAbove {fuel : Nat} {r s : Ref}
    (clear : Clear p.Holds (h.walkSpots Object.parent? fuel s)) :
    h'.isAbove r fuel s = h.isAbove r fuel s := by
  induction fuel generalizing s with
  | zero => rfl
  | succ fuel ih =>
    obtain ⟨here, next⟩ := Clear.cons.1 clear
    have frame := same.frame here
    have proxy : (h'.object s).isProxy = (h.object s).isProxy := (congrArg Object.isProxy frame :)
    have parent : (h'.object s).prototype = (h.object s).prototype :=
      (congrArg Object.prototype frame :)
    simp only [Heap.isAbove, proxy, parent]
    cases direct : (h.object s).isProxy with
    | true => rfl
    | false =>
      cases hp : (h.object s).prototype with
      | none => rfl
      | some q => simp only [Option.any, ih (by simpa [Object.parent?, direct, hp] using next)]

theorem constructs {fuel : Nat} {f : Callable} (clear : Clear p.Holds (constructsSpots h fuel f)) :
    ScriptHost.constructs h' fuel f = ScriptHost.constructs h fuel f := by
  induction fuel generalizing f with
  | zero => cases f <;> rfl
  | succ fuel ih =>
    cases f with
    | bound target this args =>
      obtain ⟨walk, next⟩ := Clear.append.1 clear
      have callable : (h'.unwrap fuel target).callable? = (h.unwrap fuel target).callable? :=
        (congrArg Object.callable? (same.unwrap walk) :)
      simp only [ScriptHost.constructs, callable]
      cases found : (h.unwrap fuel target).callable? with
      | none => rfl
      | some f => exact ih (by simpa [found] using next)
    | _ => rfl

/-! Faults. -/

theorem definitionFault {r : Ref} {key : Key} (d : Descriptor)
    (clear : Clear p.Holds (h.ownSpots r key)) :
    h'.definitionFault? r key d = h.definitionFault? r key d := by
  have frame := same.frame (clear_ownSpots clear).1
  have kind : (h'.object r).kind = (h.object r).kind := (congrArg Object.kind frame :)
  have extensible : (h'.object r).extensible = (h.object r).extensible :=
    (congrArg Object.extensible frame :)
  simp only [Heap.definitionFault?, same.own clear, kind, extensible]

theorem prototypeFault {r : Ref} {parent : Option Ref}
    (clear : Clear p.Holds (h.prototypeSpots r parent)) :
    h'.prototypeFault? r parent = h.prototypeFault? r parent := by
  obtain ⟨here, walk⟩ := Clear.cons.1 clear
  have extensible : (h'.object r).extensible = (h.object r).extensible :=
    (congrArg Object.extensible (same.frame here) :)
  unfold Heap.prototypeFault?
  rw [extensible, same.size]
  cases parent with
  | none => rfl
  | some s => simp only [Option.any, same.isAbove walk]

/-- A look that concerns no spot of the part tells the same of both heaps. -/
theorem ask {α : Type} (q : Look α) (clear : Clear p.Holds (q.spots h)) : q.ask h' = q.ask h := by
  cases q with
  | size => exact same.size
  | cellCount => exact congrArg Array.size same.cells
  | symbolCount => exact same.symbols
  | cell i => exact congrArg (fun cells : Array Value => cells.getD i .undefined) same.cells
  | frame r => exact same.frame (clear _ (List.mem_singleton_self _))
  | behind r =>
    show (h'.unwrap (h'.objects.size + 1) r).frame = _
    rw [same.size]
    exact same.unwrap clear
  | own r key => exact same.own clear
  | keys r => exact same.keys clear
  | lengthFor r length n =>
    exact congrArg (fun o : Object => o.lengthFor length n)
      (same.whole (clear _ (List.mem_singleton_self _)))
  | constructs f =>
    show ScriptHost.constructs h' h'.objects.size f = _
    rw [same.size]
    exact same.constructs clear
  | unbound r =>
    show h'.unbound h'.objects.size r = _
    rw [same.size]
    exact same.unbound clear
  | definitionFault r key d => exact same.definitionFault d clear
  | prototypeFault r parent => exact same.prototypeFault clear

end Looks

section Changes

variable (same : SameBut p h h')

include same

/-! ### Changes -/

/-- An object outside the row is changed in both heaps. -/
theorem modify {r : Ref} (outside : ¬ p.Covers r) {f : Object → Object}
    (keeps : r = p.root → ∀ o o', o.SameBut p.key o' → (f o).SameBut p.key (f o')) :
    SameBut p (h.modify r f) (h'.modify r f) := by
  by_cases inside : r < h.objects.size
  · have inside' : r < h'.objects.size := same.size ▸ inside
    refine ⟨by simp [same.size], same.cells, same.symbols, fun s hs other => ?_, ?_⟩
    · by_cases hr : s = r
      · subst hr
        rw [object_modify_self _ inside', object_modify_self _ inside, same.object s hs other]
      · rw [object_modify_of_ne _ hr, object_modify_of_ne _ hr, same.object s hs other]
    · by_cases hr : p.root = r
      · subst hr
        rw [object_modify_self _ inside', object_modify_self _ inside]
        exact keeps rfl _ _ same.root
      · rw [object_modify_of_ne _ hr, object_modify_of_ne _ hr]
        exact same.root
  · have beyond := Nat.le_of_not_lt inside
    have beyond' : h'.objects.size ≤ r := same.size ▸ beyond
    refine ⟨by simp [same.size], same.cells, same.symbols, fun s hs other => ?_, ?_⟩
    · rw [object_modify_of_size_le _ beyond', object_modify_of_size_le _ beyond,
        same.object s hs other]
    · rw [object_modify_of_size_le _ beyond', object_modify_of_size_le _ beyond]
      exact same.root

/-- So is one whose properties stay as they are, if they do not bear on the change. -/
theorem modify_frame {r : Ref} (outside : ¬ p.Covers r) {f : Object → Object}
    (kept : ∀ o, (f o).properties = o.properties)
    (blind : ∀ o ps, f { o with properties := ps } = { f o with properties := ps }) :
    SameBut p (h.modify r f) (h'.modify r f) := by
  refine same.modify outside ?_
  rintro - o _ ⟨ps, rfl, hps⟩
  exact ⟨ps, blind o ps, by rw [kept, hps]⟩

/-- The same new object comes to lie at the same place. -/
theorem allocate (o : Object) : SameBut p (h.allocate o).2 (h'.allocate o).2 := by
  -- A place beyond the old objects holds the same in both, be it in the part or not.
  have equal (s : Ref) : (h'.allocate o).2.object s = (h.allocate o).2.object s ∨
      s < h.objects.size ∧ (h'.allocate o).2.object s = h'.object s ∧
        (h.allocate o).2.object s = h.object s := by
    rcases Nat.lt_trichotomy s h.objects.size with inside | rfl | beyond
    · exact .inr ⟨inside, h'.object_allocate_of_lt (same.size ▸ inside) o,
        h.object_allocate_of_lt inside o⟩
    · left
      rw [h.object_allocate_self, ← same.size, h'.object_allocate_self]
    · left
      rw [object_of_size_le _ (by rw [size_allocate, same.size]; exact beyond),
        object_of_size_le _ (by rw [size_allocate]; exact beyond)]
  refine ⟨by simp [same.size], same.cells, same.symbols, fun s hs other => ?_, ?_⟩
  · rcases equal s with new | ⟨-, old', old⟩
    · exact new
    · rw [old', old, same.object s hs other]
  · rcases equal p.root with new | ⟨-, old', old⟩
    · rw [new]
      exact .refl _
    · rw [old', old]
      exact same.root

omit same in
theorem key_ne {r : Ref} {key : Key} (clear : ¬ p.Holds (.property r key)) (root : r = p.root) :
    key ≠ p.key := fun hk => clear (.inr ⟨root, hk⟩)

theorem put {r : Ref} {key : Key} (clear : Clear p.Holds (h.ownSpots r key)) (q : Property) :
    SameBut p (h.modify r fun o => o.put key q) (h'.modify r fun o => o.put key q) := by
  obtain ⟨here, property, -⟩ := clear_ownSpots clear
  exact same.modify here fun root _ _ so => so.put (key_ne property root) q

theorem define {r : Ref} {key : Key} (d : Descriptor) (clear : Clear p.Holds (h.ownSpots r key)) :
    SameBut p (h.define r key d) (h'.define r key d) := by
  simp only [Heap.define, same.definitionFault d clear, same.own clear, same.stored clear]
  split
  · exact same
  · split
    · split
      · exact same.put clear _
      · exact same
    · exact same.put clear _

theorem declare {name : String} (clear : Clear p.Holds (h.ownSpots globalRef name)) :
    SameBut p (h.declare name) (h'.declare name) := by
  unfold Heap.declare
  rw [same.own clear]
  split
  · exact same
  · exact same.put clear _

theorem write {r : Ref} {key : Key} (v : Value) (clear : Clear p.Holds (h.ownSpots r key)) :
    SameBut p (h.write r key v) (h'.write r key v) := by
  unfold Heap.write
  rw [same.own clear]
  split
  · split
    · exact same.put clear _
    · exact same
  · exact same

theorem drop {r : Ref} {key : Key} (clear : Clear p.Holds (h.ownSpots r key)) :
    SameBut p (h.drop r key) (h'.drop r key) := by
  unfold Heap.drop
  rw [same.own clear]
  split
  · split
    · exact same.modify (clear_ownSpots clear).1 fun _ _ _ so => so.remove
    · exact same
  · exact same

theorem inherit {r : Ref} {parent : Option Ref}
    (clear : Clear p.Holds (h.prototypeSpots r parent)) :
    SameBut p (h.inherit r parent) (h'.inherit r parent) := by
  unfold Heap.inherit
  rw [same.prototypeFault clear]
  split
  · exact same
  · exact same.modify_frame (Clear.cons.1 clear).1 (fun _ => rfl) fun _ _ => rfl

theorem become {r : Ref} (kind : Kind) (outside : ¬ p.Covers r) :
    SameBut p (h.become r kind) (h'.become r kind) := by
  unfold Heap.become
  rw [same.kind outside]
  split
  · exact same.modify_frame outside (fun _ => rfl) fun _ _ => rfl
  · exact same

theorem revoke {revoker : Ref} (clear : Clear p.Holds ((Change.revoke revoker).spots h)) :
    SameBut p (h.revoke revoker) (h'.revoke revoker) := by
  obtain ⟨here, next⟩ := Clear.cons.1 clear
  unfold Heap.revoke
  rw [same.kind here]
  split
  · next r hr =>
    have there : ¬ p.Covers r := next (.frame r) (by simp [hr])
    rw [same.kind there]
    split
    · exact same.modify_frame there (fun _ => rfl) fun _ _ => rfl
    · exact same
  · exact same

/-- A change that depends on no spot of the part keeps the heaps the same but for it. -/
theorem apply (c : Change) (clear : Clear p.Holds (c.spots h)) :
    SameBut p (c.apply h) (c.apply h') := by
  cases c with
  | allocate o scripted => exact same.allocate o
  | allocateRevocable target handler =>
    have first := same.allocate (proxyObject target handler)
    show SameBut p ((h.allocate _).2.allocate _).2 ((h'.allocate _).2.allocate _).2
    rw [same.size]
    exact first.allocate _
  | define r key d => exact same.define d clear
  | declare name => exact same.declare clear
  | write r key v => exact same.write v clear
  | drop r key => exact same.drop clear
  | trace r =>
    obtain ⟨here, property⟩ := Clear.cons.1 clear
    exact same.modify here fun root _ _ so =>
      so.trace (key_ne (property _ (List.mem_singleton_self _)) root)
  | resize r n =>
    have here : ¬ p.Holds (.whole r) := clear _ (List.mem_singleton_self _)
    exact same.modify (fun covered => here (.inl covered)) fun root => (here (.inr root)).elim
  | fixLength r =>
    exact same.modify (clear _ (List.mem_singleton_self _)) fun _ _ _ so => so.fixLength
  | inherit r parent => exact same.inherit clear
  | preventExtensions r =>
    exact same.modify_frame (clear _ (List.mem_singleton_self _)) (fun _ => rfl) fun _ _ => rfl
  | become r kind => exact same.become kind (clear _ (List.mem_singleton_self _))
  | revoke revoker => exact same.revoke clear
  | newCell v =>
    exact ⟨same.size, congrArg (fun cells : Array Value => cells.push v) same.cells, same.symbols,
      same.object, same.root⟩
  | writeCell i v =>
    exact ⟨same.size, congrArg (fun cells : Array Value => cells.setIfInBounds i v) same.cells,
      same.symbols, same.object, same.root⟩
  | newSymbol =>
    exact ⟨same.size, same.cells, congrArg (· + 1) same.symbols, same.object, same.root⟩

end Changes

end Heap.SameBut

end ScriptHost
