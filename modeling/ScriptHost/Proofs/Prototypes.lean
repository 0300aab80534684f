import ScriptHost.Proofs.Calls
import ScriptHost.Proofs.Depicts
import ScriptHost.Proofs.RoundTrip

/-!
# Prototypes made of documents

A field `__proto__` of a document sets the prototype of the object that it becomes.  What the object
inherits then has come from a document, too, so that all other fields still become properties of its
own.

* `Heap.Pristine`: what objects and lists inherit is as sessions find it;
* `Heap.Descends`: an object made of a document, with all that it inherits;
* `Heap.run_setProperty_of_inherits`: an assignment gives such an object a property of its own;
* `Heap.run_setProperty_proto`: an assignment that sets its prototype;
* `Heap.isPristine`: a check of a heap.
-/

namespace ScriptHost

/-- The key that stands for the prototype. -/
def protoName : String := "__proto__"

/-- Whether an object keeps its properties like most objects do. -/
def Object.isOrdinary (o : Object) : Bool :=
  match o.kind with
  | .plain | .array .. => true
  | _ => false

theorem Object.isOrdinary_iff {o : Object} :
    o.isOrdinary = true ↔ o.kind = .plain ∨ ∃ length fixed, o.kind = .array length fixed := by
  unfold isOrdinary
  cases o.kind <;> simp

/-- Whether a property lets objects that inherit it have one of their own. -/
def Property.LetsAssign (p : Property) : Prop := p.isAccessor = false ∧ p.attributes.writable = true

theorem letsAssign_plain (v : Value) : (Property.plain v).LetsAssign := ⟨rfl, rfl⟩

/-- So do the items and the length of a list. -/
theorem letsAssign_listObject {h : Heap} {items : List Value} {key : Key} :
    ∀ p ∈ h.own? (listObject items) key, p.LetsAssign := by
  intro p own
  simp only [Heap.own?, listObject, Option.mem_def] at own
  split at own
  · cases own
    exact ⟨rfl, rfl⟩
  · simp only [Object.stored?, List.lookup_nil, Option.or_none] at own
    split at own
    · cases own
    · split at own
      · next i _ =>
        simp only [List.getElem?_toArray, List.getElem?_map, Option.join_eq_some_iff,
          Option.map_eq_some_iff] at own
        obtain ⟨v, -, same⟩ := own
        cases same
        exact letsAssign_plain v
      · cases own

/-- And so do the fields of an object. -/
theorem Object.Lists.letsAssign {o : Object} {fields : List (String × Value)} (lists : o.Lists fields)
    {h : Heap} {key : Key} : ∀ p ∈ h.own? o key, p.LetsAssign := by
  intro p own
  rw [h.own?_of_plain lists.kind, Object.stored?_of_no_elements _ _ lists.elements,
    lists.properties, Option.mem_def] at own
  obtain ⟨before, after, same, -⟩ := List.lookup_eq_some_iff.1 own
  have member : (key, p) ∈ fields.map fun f => (Key.named f.1, Property.plain f.2) := by simp [same]
  obtain ⟨f, -, same⟩ := List.mem_map.1 member
  cases same
  exact letsAssign_plain f.2

namespace Heap

variable {h h' : Heap} {start start' r q : Nat} {key : Key} {v : Value} {fields : List (String × Value)}

/-- What all objects and all lists inherit is as sessions find it, as far as assignments go: the
prototype is set by its own setter, and under any other name each object can get a property. -/
structure Pristine (h : Heap) : Prop where
  ground : h.Grounded
  list : ∃ length fixed, (h.object Family.array.prototype).kind = .array length fixed
  listParent : (h.object Family.array.prototype).prototype = some Family.object.prototype
  setter : ∃ getter s attributes, h.own? (h.object Family.object.prototype) protoName =
      some ⟨.accessor getter (.object s), attributes⟩ ∧ s < h.objects.size ∧
    (h.object s).kind = .function (.builtin (.object .protoSetter))
  settable : ∀ name, name ≠ protoName → ∀ p ∈ h.own? (h.object Family.object.prototype) name,
    p.LetsAssign
  listSettable : ∀ name, name ≠ protoName → ∀ p ∈ h.own? (h.object Family.array.prototype) name,
    p.LetsAssign

theorem Pristine.list_inside (pristine : h.Pristine) : Family.array.prototype < h.objects.size :=
  Nat.lt_of_le_of_lt (by decide) pristine.ground.size

theorem Pristine.exists_size (pristine : h.Pristine) : ∃ n, h.objects.size = n + 1 :=
  Nat.exists_eq_succ_of_ne_zero (Nat.ne_of_gt (Nat.lt_of_le_of_lt (Nat.zero_le _)
    pristine.ground.size))

/-- It stays so as long as these objects stay. -/
theorem Pristine.keeps (pristine : h.Pristine) (kept : Keeps 0 h h') : h'.Pristine := by
  obtain ⟨length, fixed, list⟩ := pristine.list
  obtain ⟨getter, s, attributes, own, inside, kind⟩ := pristine.setter
  have base : h'.object Family.object.prototype = h.object Family.object.prototype :=
    kept.object _ (Nat.zero_le _) pristine.ground.base_inside
  have listKept : h'.object Family.array.prototype = h.object Family.array.prototype :=
    kept.object _ (Nat.zero_le _) pristine.list_inside
  have ownBase (key : Key) : h'.own? (h'.object Family.object.prototype) key =
      h.own? (h.object Family.object.prototype) key := by
    rw [base, own?_of_plain _ pristine.ground.base, own?_of_plain _ pristine.ground.base]
  have ownList (key : Key) : h'.own? (h'.object Family.array.prototype) key =
      h.own? (h.object Family.array.prototype) key := by
    rw [listKept]
    simp only [own?, list]
  refine ⟨pristine.ground.keeps kept, ⟨length, fixed, by rw [listKept, list]⟩,
    by rw [listKept, pristine.listParent],
    ⟨getter, s, attributes, by rw [ownBase, own], Nat.lt_of_lt_of_le inside kept.size, ?_⟩, ?_, ?_⟩
  · rw [kept.object s (Nat.zero_le _) inside, kind]
  · intro name other
    rw [ownBase]
    exact pristine.settable name other
  · intro name other
    rw [ownList]
    exact pristine.listSettable name other

/-! ### Chains -/

/-- An object made of a document, which lies from a place on.  What it inherits was made of a
document, too, and lies after it, up to what all objects and lists inherit. -/
inductive Descends (h : Heap) : Nat → Nat → Prop
  | list {start r : Nat} {items : List Value} (after : start ≤ r) (inside : r < h.objects.size)
    (object : h.object r = listObject items) : Descends h start r
  | top {start r : Nat} {fields : List (String × Value)} (after : start ≤ r)
    (inside : r < h.objects.size) (lists : (h.object r).Lists fields)
    (parent : (h.object r).prototype = none) : Descends h start r
  | plain {start r : Nat} {fields : List (String × Value)} (after : start ≤ r)
    (inside : r < h.objects.size) (lists : (h.object r).Lists fields)
    (parent : (h.object r).prototype = some Family.object.prototype) : Descends h start r
  | under {start r p : Nat} {fields : List (String × Value)} (after : start ≤ r)
    (inside : r < h.objects.size) (lists : (h.object r).Lists fields)
    (parent : (h.object r).prototype = some p) (above : Descends h (r + 1) p) : Descends h start r

namespace Descends

theorem start_le (descends : h.Descends start r) : start ≤ r := by
  cases descends <;> assumption

theorem inside (descends : h.Descends start r) : r < h.objects.size := by
  cases descends <;> assumption

theorem keeps (descends : h.Descends start r) (kept : Keeps start h h') : h'.Descends start r := by
  induction descends with
  | list after inside object =>
    exact .list after (Nat.lt_of_lt_of_le inside kept.size)
      ((kept.object _ after inside).trans object)
  | top after inside lists parent =>
    have same := kept.object _ after inside
    exact .top after (Nat.lt_of_lt_of_le inside kept.size) (same ▸ lists) (same ▸ parent)
  | plain after inside lists parent =>
    have same := kept.object _ after inside
    exact .plain after (Nat.lt_of_lt_of_le inside kept.size) (same ▸ lists) (same ▸ parent)
  | under after inside lists parent _ ih =>
    have same := kept.object _ after inside
    exact .under after (Nat.lt_of_lt_of_le inside kept.size) (same ▸ lists) (same ▸ parent)
      (ih (kept.later (Nat.le_succ_of_le after)))

theorem earlier (descends : h.Descends start r) (before : start' ≤ start) : h.Descends start' r := by
  cases descends with
  | list after inside object => exact .list (Nat.le_trans before after) inside object
  | top after inside lists parent => exact .top (Nat.le_trans before after) inside lists parent
  | plain after inside lists parent => exact .plain (Nat.le_trans before after) inside lists parent
  | under after inside lists parent above =>
    exact .under (Nat.le_trans before after) inside lists parent above

end Descends

/-- What an object may inherit that was made of a document: nothing, what all objects inherit, or
another such object, which lies from a place on. -/
def Inherits (h : Heap) (start : Nat) (parent : Option Nat) : Prop :=
  parent = none ∨ parent = some Family.object.prototype ∨ ∃ p, parent = some p ∧ h.Descends start p

theorem Inherits.keeps {parent : Option Nat} (inherits : h.Inherits start parent)
    (kept : Keeps start h h') : h'.Inherits start parent := by
  rcases inherits with rfl | rfl | ⟨p, rfl, above⟩
  · exact .inl rfl
  · exact .inr (.inl rfl)
  · exact .inr (.inr ⟨p, rfl, above.keeps kept⟩)

theorem Inherits.descends (inside : r < h.objects.size) (lists : (h.object r).Lists fields)
    (inherits : h.Inherits (r + 1) (h.object r).prototype) (after : start ≤ r) :
    h.Descends start r := by
  rcases inherits with parent | parent | ⟨p, parent, above⟩
  · exact .top after inside lists parent
  · exact .plain after inside lists parent
  · exact .under after inside lists parent above

/-- An object is not met on the way up from another one, if it is not that one and not met on the way
up from what that one inherits. -/
theorem isAbove_eq_false (other : r ≠ q)
    (further : ∀ p, (h.object r).prototype = some p → ∀ fuel, h.isAbove q fuel p = false) (fuel : Nat) :
    h.isAbove q fuel r = false := by
  cases fuel with
  | zero => rfl
  | succ fuel =>
    cases parent : (h.object r).prototype with
    | none => simp [isAbove, other, parent]
    | some p => simp [isAbove, other, parent, further p parent fuel]

/-- No object that was there before is met on the way up.  The induction is on the chain: all of its
objects lie after that one, and the two that may end it lie before. -/
theorem isAbove_of_descends (pristine : h.Pristine) (descends : h.Descends start r)
    (before : q < start) (newer : globalRef < q) (fuel : Nat) : h.isAbove q fuel r = false := by
  have base (fuel : Nat) : h.isAbove q fuel Family.object.prototype = false := by
    refine isAbove_eq_false (Nat.ne_of_lt (Nat.lt_of_le_of_lt (by decide) newer)) ?_ fuel
    intro p parent
    rw [pristine.ground.top] at parent
    cases parent
  have list (fuel : Nat) : h.isAbove q fuel Family.array.prototype = false := by
    refine isAbove_eq_false (Nat.ne_of_lt (Nat.lt_of_le_of_lt (by decide) newer)) ?_ fuel
    intro p parent
    rw [pristine.listParent] at parent
    cases parent
    exact base
  induction descends generalizing fuel with
  | list after inside object =>
    refine isAbove_eq_false (Nat.ne_of_gt (Nat.lt_of_lt_of_le before after)) ?_ fuel
    intro p parent
    rw [object] at parent
    cases parent
    exact list
  | top after inside lists none_ =>
    refine isAbove_eq_false (Nat.ne_of_gt (Nat.lt_of_lt_of_le before after)) ?_ fuel
    intro p parent
    rw [none_] at parent
    cases parent
  | plain after inside lists inherits =>
    refine isAbove_eq_false (Nat.ne_of_gt (Nat.lt_of_lt_of_le before after)) ?_ fuel
    intro p parent
    rw [inherits] at parent
    cases parent
    exact base
  | under after inside lists inherits above ih =>
    refine isAbove_eq_false (Nat.ne_of_gt (Nat.lt_of_lt_of_le before after)) ?_ fuel
    intro p parent
    rw [inherits] at parent
    cases parent
    exact ih (Nat.lt_succ_of_lt (Nat.lt_of_lt_of_le before after))

/-! ### Assignments -/

section Assignments

variable (apply : Apply) {m : Machine} (hm : m.heap = h)

include hm

/-- An assignment looks at an ordinary object first, and then at what it inherits. -/
theorem run_setFrom (ordinary : (h.object r).isOrdinary = true) (receiver : Value) (fuel : Nat) :
    (setFrom (fuel + 1) r key v receiver).run apply m =
      match h.own? (h.object r) key with
      | some p => (setStored r p key v receiver).run apply m
      | none =>
        match (h.object r).prototype with
        | some parent => (setFrom fuel parent key v receiver).run apply m
        | none => (createOn receiver key v).run apply m := by
  simp only [setFrom, Computation.run_bind, Computation.run_readObject, Object.kind_frame,
    Object.prototype_frame, hm]
  rcases Object.isOrdinary_iff.1 ordinary with kind | ⟨length, fixed, kind⟩
  all_goals
    simp only [kind, Computation.run_bind, Computation.run_readOwn, hm]
    cases h.own? (h.object r) key with
    | some p => rfl
    | none => cases (h.object r).prototype <;> rfl

omit hm in
/-- A property that another object would inherit lets that object have one of its own. -/
theorem run_setStored {p : Property} (lets : p.LetsAssign) (other : q ≠ r) :
    (setStored r p key v (.object q)).run apply m = (createOn (.object q) key v).run apply m := by
  obtain ⟨content, attributes⟩ := p
  obtain ⟨notAccessor, writable⟩ := lets
  have readOnly : (!attributes.writable) = false := congrArg not writable
  have elsewhere : (Value.object q = .object r) = False := by simpa using other
  cases content with
  | accessor getter setter => cases notAccessor
  | data w =>
    simp only [setStored, Computation.run_bind, Computation.run_readObject, elsewhere, decide_false,
      Bool.and_false, Bool.false_eq_true, if_false, readOnly]

/-- So an assignment passes over an ordinary object whose own properties let it. -/
theorem run_setFrom_of_lets (ordinary : (h.object r).isOrdinary = true)
    (lets : ∀ p ∈ h.own? (h.object r) key, p.LetsAssign) (other : q ≠ r) {fuel : Nat}
    (above : ∀ parent, (h.object r).prototype = some parent →
      (setFrom fuel parent key v (.object q)).run apply m = (createOn (.object q) key v).run apply m) :
    (setFrom (fuel + 1) r key v (.object q)).run apply m =
      (createOn (.object q) key v).run apply m := by
  rw [run_setFrom apply hm ordinary]
  cases own : h.own? (h.object r) key with
  | some p => exact run_setStored apply (lets p own) other
  | none =>
    cases parent : (h.object r).prototype with
    | some parent' => exact above parent' parent
    | none => rfl

section Chains

variable (pristine : h.Pristine) {name : String} (other : name ≠ protoName) (newer : globalRef < q)

include pristine other newer

theorem run_setFrom_base (fuel : Nat) :
    (setFrom (fuel + 1) Family.object.prototype name v (.object q)).run apply m =
      (createOn (.object q) name v).run apply m := by
  refine run_setFrom_of_lets apply hm (Object.isOrdinary_iff.2 (.inl pristine.ground.base))
    (pristine.settable name other) (Nat.ne_of_gt (Nat.lt_trans (by decide) newer)) ?_
  rintro parent inherited
  rw [pristine.ground.top] at inherited
  cases inherited

theorem run_setFrom_listBase (fuel : Nat) :
    (setFrom (fuel + 2) Family.array.prototype name v (.object q)).run apply m =
      (createOn (.object q) name v).run apply m := by
  refine run_setFrom_of_lets apply hm (Object.isOrdinary_iff.2 (.inr pristine.list))
    (pristine.listSettable name other) (Nat.ne_of_gt (Nat.lt_trans (by decide) newer)) ?_
  rintro parent inherited
  rw [pristine.listParent] at inherited
  cases inherited
  exact run_setFrom_base apply hm pristine other newer fuel

/-- An assignment passes over all that an object made of a document inherits.  The induction is on
that chain; it is no longer than there are objects after its first one. -/
theorem run_setFrom_of_descends (descends : h.Descends start r) (before : q < start) {fuel : Nat}
    (enough : h.objects.size + 2 ≤ fuel + r) :
    (setFrom fuel r name v (.object q)).run apply m = (createOn (.object q) name v).run apply m := by
  induction descends generalizing fuel with
  | list after inside object =>
    obtain ⟨fuel, rfl⟩ : ∃ n, fuel = n + 3 := ⟨fuel - 3, by omega⟩
    refine run_setFrom_of_lets apply hm (by rw [object]; rfl)
      (by rw [object]; exact letsAssign_listObject)
      (Nat.ne_of_lt (Nat.lt_of_lt_of_le before after)) ?_
    rintro parent inherited
    rw [object] at inherited
    cases inherited
    exact run_setFrom_listBase apply hm pristine other newer fuel
  | top after inside lists parent =>
    obtain ⟨fuel, rfl⟩ : ∃ n, fuel = n + 1 := ⟨fuel - 1, by omega⟩
    refine run_setFrom_of_lets apply hm (Object.isOrdinary_iff.2 (.inl lists.kind)) lists.letsAssign
      (Nat.ne_of_lt (Nat.lt_of_lt_of_le before after)) ?_
    rintro parent' inherited
    rw [parent] at inherited
    cases inherited
  | plain after inside lists parent =>
    obtain ⟨fuel, rfl⟩ : ∃ n, fuel = n + 2 := ⟨fuel - 2, by omega⟩
    refine run_setFrom_of_lets apply hm (Object.isOrdinary_iff.2 (.inl lists.kind)) lists.letsAssign
      (Nat.ne_of_lt (Nat.lt_of_lt_of_le before after)) ?_
    rintro parent' inherited
    rw [parent] at inherited
    cases inherited
    exact run_setFrom_base apply hm pristine other newer fuel
  | under after inside lists parent above ih =>
    obtain ⟨fuel, rfl⟩ : ∃ n, fuel = n + 1 := ⟨fuel - 1, by omega⟩
    refine run_setFrom_of_lets apply hm (Object.isOrdinary_iff.2 (.inl lists.kind)) lists.letsAssign
      (Nat.ne_of_lt (Nat.lt_of_lt_of_le before after)) ?_
    rintro parent' inherited
    rw [parent] at inherited
    cases inherited
    have further := above.start_le
    exact ih (Nat.lt_succ_of_lt (Nat.lt_of_lt_of_le before after)) (by omega)

/-- An assignment gives an object made of a document a property of its own. -/
theorem run_setProperty_of_inherits (lists : (h.object q).Lists fields)
    (extensible : (h.object q).extensible = true)
    (inherits : h.Inherits (q + 1) (h.object q).prototype)
    (own : h.own? (h.object q) (Key.named name) = none) :
    (setProperty (.object q) (Key.named name) v).run apply m =
      .ok () { m with heap := h.modify q fun o => o.put (Key.named name) (.plain v) } := by
  have created := run_createOn apply hm lists.kind own extensible v
  obtain ⟨size, some_⟩ := pristine.exists_size
  have assigned : (setOn q (Key.named name) v).run apply m =
      (createOn (.object q) (Key.named name) v).run apply m := by
    simp only [setOn, chainLimit, Computation.run_bind, Computation.run_look, Computation.run_pure,
      Look.ask, hm]
    rw [run_setFrom apply hm (Object.isOrdinary_iff.2 (.inl lists.kind)), own]
    rcases inherits with parent | parent | ⟨p, parent, above⟩
    · rw [parent]
    · rw [parent, some_]
      exact run_setFrom_base apply hm pristine other newer size
    · rw [parent]
      have further := above.start_le
      have positive : 0 < q := Nat.lt_of_le_of_lt (Nat.zero_le _) newer
      exact run_setFrom_of_descends apply hm pristine other newer above (Nat.lt_succ_self q) (by omega)
  simp only [setProperty, demand, Computation.run_bind, assigned, created, Computation.run_pure]

end Chains

end Assignments

/-! ### The setter of prototypes -/

/-- The heap with a value for the prototype of an object: only objects and null can be one. -/
def withParent (h : Heap) (q : Nat) (v : Value) : Heap :=
  match v with
  | .null => h.modify q fun o => { o with prototype := none }
  | .object p => h.modify q fun o => { o with prototype := some p }
  | _ => h

/-- A call of a built-in function. -/
theorem callAt_builtin {host : Host} {b : Builtin} (hr : (h.object r).kind = .function (.builtin b))
    (depth : Nat) (this : Value) (args : List Value) {m : Machine} (hm : m.heap = h) :
    callAt host (depth + 1) (.object r) (.plain this) args m =
      (b.run r (.plain this) args).run (callAt host depth) m := by
  simp only [callAt, callValue, Service.run_bind, Service.run_lift, Computation.run_readObject,
    Object.kind_frame, hm, hr, callFunction]

theorem run_setPrototypeOn (apply : Apply) {m : Machine} (hm : m.heap = h)
    (plain : (h.object q).kind = .plain) (extensible : (h.object q).extensible = true)
    (newer : globalRef < q) {parent : Option Nat} (other : (h.object q).prototype ≠ parent)
    (noCycle : ∀ p ∈ parent, h.isAbove q h.objects.size p = false) :
    (setPrototypeOn q parent).run apply m =
      .ok none { m with heap := h.modify q fun o => { o with prototype := parent } } := by
  have notBase : q ≠ Family.object.prototype := Nat.ne_of_gt (Nat.lt_trans (by decide) newer)
  have above : parent.any (h.isAbove q h.objects.size) = false := by
    cases parent with
    | none => rfl
    | some p => exact noCycle p rfl
  have fault : h.prototypeFault? q parent = none := by
    simp [prototypeFault?, notBase, extensible, above]
  have inherit : h.inherit q parent = h.modify q fun o => { o with prototype := parent } := by
    simp [Heap.inherit, fault]
  simp only [setPrototypeOn, setPrototypeFrom, chainLimit, Computation.run_bind, Computation.run_look,
    Computation.run_pure, Computation.run_readObject, Computation.run_change, Look.ask,
    Object.kind_frame, Object.prototype_frame, hm, plain, other, if_false, fault, Change.apply, inherit]

theorem run_assignPrototype {apply : Apply} {m m' : Machine} {parent : Option Nat}
    (named : (requirePrototype v).run apply m = .ok parent m)
    (set : (setPrototypeOn q parent).run apply m = .ok none m') :
    (assignPrototype (.object q) v).run apply m = .ok () m' := by
  simp only [assignPrototype, Value.isNullish, Bool.false_eq_true, if_false, Computation.run_bind,
    Computation.run_pure, named, demand, set]

/-- The setter gives an object that inherits what all objects do another prototype, if the value is
one that can be. -/
theorem run_protoSetter (pristine : h.Pristine) (newer : globalRef < q)
    (plain : (h.object q).kind = .plain) (extensible : (h.object q).extensible = true)
    (parent : (h.object q).prototype = some Family.object.prototype)
    (descends : ∀ p, v = .object p → h.Descends (q + 1) p) (apply : Apply) {m : Machine}
    (hm : m.heap = h) :
    (ObjectMethod.protoSetter.run (.object q) [v]).run apply m =
      .ok .undefined { m with heap := h.withParent q v } := by
  cases v with
  | null =>
    have other : (h.object q).prototype ≠ none := by
      rw [parent]
      exact nofun
    have noCycle : ∀ s ∈ (none : Option Nat), h.isAbove q h.objects.size s = false := nofun
    have set := run_setPrototypeOn apply hm plain extensible newer other noCycle
    have assigned := run_assignPrototype (v := .null) rfl set
    simp only [ObjectMethod.run, argument, List.getD_cons_zero, Value.isNullish, Bool.false_eq_true,
      if_false, Computation.run_bind, Computation.run_pure, assigned, withParent]
  | object p =>
    have above := descends p rfl
    have other : (h.object q).prototype ≠ some p := by
      rw [parent]
      rintro ⟨⟩
      have further : q + 1 ≤ Family.object.prototype := above.start_le
      have lower : Family.object.prototype < q := Nat.lt_trans (by decide) newer
      exact Nat.not_lt_of_le (Nat.le_of_succ_le further) lower
    have noCycle : ∀ s ∈ some p, h.isAbove q h.objects.size s = false := by
      rintro s ⟨⟩
      exact isAbove_of_descends pristine above (Nat.lt_succ_self q) newer _
    have set := run_setPrototypeOn apply hm plain extensible newer other noCycle
    have assigned := run_assignPrototype (v := .object p) rfl set
    simp only [ObjectMethod.run, argument, List.getD_cons_zero, Value.isNullish, Bool.false_eq_true,
      if_false, Computation.run_bind, Computation.run_pure, assigned, withParent]
  | _ =>
    simp only [ObjectMethod.run, argument, List.getD_cons_zero, Value.isNullish, Bool.false_eq_true,
      if_false, Computation.run_pure, withParent, ← hm]

/-- An assignment under the name of the prototype calls the setter, unless no more calls can be
made. -/
theorem run_setProperty_proto (host : Host) (depth : Nat) {m : Machine} (hm : m.heap = h)
    (pristine : h.Pristine) (newer : globalRef < q) (lists : (h.object q).Lists fields)
    (extensible : (h.object q).extensible = true)
    (parent : (h.object q).prototype = some Family.object.prototype)
    (own : h.own? (h.object q) (Key.named protoName) = none)
    (descends : ∀ p, v = .object p → h.Descends (q + 1) p) :
    (setProperty (.object q) (Key.named protoName) v).run (callAt host depth) m =
        .ok () { m with heap := h.withParent q v } ∨
      depth = 0 ∧ ∃ e m',
        (setProperty (.object q) (Key.named protoName) v).run (callAt host depth) m = .error e m' := by
  obtain ⟨getter, s, attributes, found, -, setter⟩ := pristine.setter
  obtain ⟨size, some_⟩ := pristine.exists_size
  have base : (h.object Family.object.prototype).isOrdinary = true :=
    Object.isOrdinary_iff.2 (.inl pristine.ground.base)
  -- the object itself has no such property, and what all objects inherit has the setter
  have assigned : (setOn q (Key.named protoName) v).run (callAt host depth) m =
      (call (.object s) (.object q) [v] >>= fun _ => pure none).run (callAt host depth) m := by
    simp only [setOn, chainLimit, Computation.run_bind, Computation.run_look, Computation.run_pure,
      Look.ask, hm, some_]
    rw [run_setFrom _ hm (Object.isOrdinary_iff.2 (.inl lists.kind)), own, parent]
    show (setFrom (size + 1) Family.object.prototype (Key.named protoName) v (.object q)).run _ m = _
    rw [run_setFrom _ hm base, found]
    simp only [setStored, callSetter, Computation.run_bind, Computation.run_pure]
  cases depth with
  | zero =>
    right
    refine ⟨rfl, ?_⟩
    obtain ⟨e, m', refused⟩ : ∃ e m',
        (call (.object s) (.object q) [v]).run (callAt host 0) m = .error e m' := ⟨_, _, rfl⟩
    refine ⟨e, m', ?_⟩
    simp only [setProperty, demand, Computation.run_bind, assigned, refused]
  | succ depth =>
    left
    have called : (call (.object s) (.object q) [v]).run (callAt host (depth + 1)) m =
        .ok .undefined { m with heap := h.withParent q v } := by
      show callAt host (depth + 1) (.object s) (.plain (.object q)) [v] m = _
      rw [callAt_builtin setter depth _ _ hm]
      exact run_protoSetter pristine newer lists.kind extensible parent descends _ hm
    simp only [setProperty, demand, Computation.run_bind, assigned, called, Computation.run_pure]

/-! ### A check of heaps -/

/-- Whether the own properties of an object that stand under names, but for that of the prototype, let
objects that inherit them have one of their own. -/
def letsAssign (o : Object) : Bool :=
  o.elements.isEmpty && o.properties.all fun e =>
    !e.1.isText || e.1 = Key.named protoName || (!e.2.isAccessor && e.2.attributes.writable)

theorem letsAssign_stored {o : Object} (lets : letsAssign o = true) {name : String}
    (other : name ≠ protoName) : ∀ p ∈ o.stored? (Key.named name), p.LetsAssign := by
  intro p stored
  obtain ⟨empty, all⟩ := Bool.and_eq_true_iff.1 lets
  rw [Object.stored?, if_pos empty, Option.mem_def] at stored
  obtain ⟨before, after, same, -⟩ := List.lookup_eq_some_iff.1 stored
  have lets := List.all_eq_true.1 all (Key.named name, p) (by simp [same])
  simpa [Key.named, Key.isText, other, Property.LetsAssign] using lets

/-- Whether a heap is as `Pristine` asks, but for the ground of all heaps. -/
def isPristine (h : Heap) : Bool :=
  let base := h.object Family.object.prototype
  let list := h.object Family.array.prototype
  letsAssign base && letsAssign list && list.prototype == some Family.object.prototype &&
    (match list.kind with
      | .array _ fixed => !fixed
      | _ => false) &&
    match base.stored? (Key.named protoName) with
    | some ⟨.accessor _ (.object s), _⟩ =>
      s < h.objects.size &&
        match (h.object s).kind with
        | .function (.builtin (.object .protoSetter)) => true
        | _ => false
    | _ => false

theorem pristine_of_isPristine (ground : h.Grounded) (checked : h.isPristine = true) : h.Pristine := by
  simp only [isPristine, Bool.and_eq_true, beq_iff_eq] at checked
  obtain ⟨⟨⟨⟨base, list⟩, listParent⟩, array⟩, setter⟩ := checked
  obtain ⟨length, kind⟩ : ∃ length, (h.object Family.array.prototype).kind = .array length false := by
    split at array
    · next length fixed kind =>
      cases fixed with
      | false => exact ⟨length, kind⟩
      | true => cases array
    · cases array
  refine ⟨ground, ⟨length, false, kind⟩, listParent, ?_, ?_, ?_⟩
  · split at setter
    · next getter s attributes found =>
      obtain ⟨inside, called⟩ := Bool.and_eq_true_iff.1 setter
      refine ⟨getter, s, attributes, by rw [own?_of_plain _ ground.base, found],
        of_decide_eq_true inside, ?_⟩
      split at called
      · next kind => exact kind
      · cases called
    · cases setter
  · intro name other
    rw [own?_of_plain _ ground.base]
    exact letsAssign_stored base other
  · intro name other p own
    simp only [own?, kind] at own
    split at own
    · cases own
      exact ⟨rfl, rfl⟩
    · exact letsAssign_stored list other p own

/-- The heap on which the constructor of objects has come to what everything is built on. -/
theorem pristine_addObjects : (bare.after Realm.addObjects).Pristine :=
  pristine_of_isPristine (grounded_bare.reaches (bare.reaches_after _)) (by decide +kernel)

end Heap

end ScriptHost
