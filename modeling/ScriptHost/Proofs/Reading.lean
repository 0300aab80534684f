import ScriptHost.Conversion.Dump
import ScriptHost.Proofs.Computation
import ScriptHost.Proofs.Installation

/-!
# Objects without handlers

What reading and writing does where no proxy stands in between: no handler is asked, so that the
heap alone decides.

* `Heap.getFrom_of_own`, `Heap.getFrom_of_inherited`: what an object gives;
* `Heap.getFrom_of_base`, `Heap.hasFrom_of_base`: what a plain object gives and has;
* `Heap.run_isCallable`, `Heap.run_holdsArray`: what it is;
* `Heap.run_shownKeysOf`: the keys that it lists;
* `Heap.run_setProperty`: an assignment that gives a plain object a property of its own.
-/

namespace ScriptHost

theorem Object.isProxy_of_plain {o : Object} (ho : o.kind = .plain) : o.isProxy = false := by
  simp [isProxy, ho]

theorem Object.isProxy_of_array {o : Object} {length : Nat} {fixed : Bool}
    (ho : o.kind = .array length fixed) : o.isProxy = false := by
  simp [isProxy, ho]

theorem Object.isProxy_of_isSimple {o : Object} (ho : o.kind.isSimple = true) :
    o.isProxy = false := by
  cases hk : o.kind <;> simp_all [Kind.isSimple, isProxy]

theorem Object.not_proxy {o : Object} (direct : o.isProxy = false) {target handler : Ref}
    {revoked : Bool} : o.kind ≠ .proxy target handler revoked := by
  intro ho
  simp [isProxy, ho] at direct

namespace Heap

variable {h : Heap} {r : Nat} {key : Key}

theorem stopsAt_frame (o : Object) (key : Key) : stopsAt o.frame key = stopsAt o key := rfl

theorem stopsAt_of_plain {o : Object} (ho : o.kind = .plain) (key : Key) :
    stopsAt o key = false := by
  simp [stopsAt, ho]

section Readings

variable (apply : Apply) {m : Machine} (hm : m.heap = h)

include hm

/-! ### Properties -/

/-- An object that has a property gives its content. -/
theorem getFrom_of_own (direct : (h.object r).isProxy = false) {p : Property}
    (own : h.own? (h.object r) key = some p) (fuel : Nat) (receiver : Value) :
    (getFrom (fuel + 1) r receiver key).run apply m = (readContent p receiver).run apply m := by
  simp only [getFrom, Computation.run_bind, Computation.run_readObject, Object.kind_frame, hm]
  split
  · next ho => exact absurd ho (Object.not_proxy direct)
  · simp only [Computation.run_bind, Computation.run_readOwn, hm, own]

/-- An object that lacks a property gives what its prototype gives, if the search goes on there. -/
theorem getFrom_of_parent {parent : Nat} (direct : (h.object r).isProxy = false)
    (goesOn : stopsAt (h.object r) key = false) (own : h.own? (h.object r) key = none)
    (hp : (h.object r).prototype = some parent) (fuel : Nat) (receiver : Value) :
    (getFrom (fuel + 1) r receiver key).run apply m =
      (getFrom fuel parent receiver key).run apply m := by
  simp only [getFrom, Computation.run_bind, Computation.run_readObject, Object.kind_frame, hm]
  split
  · next ho => exact absurd ho (Object.not_proxy direct)
  · simp only [Computation.run_bind, Computation.run_readOwn, Object.prototype_frame, hm, own,
      stopsAt_frame, goesOn, hp, Bool.false_eq_true, if_false]

/-- So does a plain object. -/
theorem getFrom_of_inherited {parent : Nat} (hr : (h.object r).kind = .plain)
    (own : h.own? (h.object r) key = none) (hp : (h.object r).prototype = some parent) (fuel : Nat)
    (receiver : Value) :
    (getFrom (fuel + 1) r receiver key).run apply m =
      (getFrom fuel parent receiver key).run apply m :=
  getFrom_of_parent apply hm (Object.isProxy_of_plain hr) (stopsAt_of_plain hr key) own hp fuel
    receiver

/-- An object that lacks a property gives nothing where the search ends. -/
theorem getFrom_of_end (direct : (h.object r).isProxy = false)
    (own : h.own? (h.object r) key = none)
    (ends : stopsAt (h.object r) key = true ∨ (h.object r).prototype = none) (fuel : Nat)
    (receiver : Value) :
    (getFrom (fuel + 1) r receiver key).run apply m = .ok .undefined m := by
  simp only [getFrom, Computation.run_bind, Computation.run_readObject, Object.kind_frame, hm]
  split
  · next ho => exact absurd ho (Object.not_proxy direct)
  · simp only [Computation.run_bind, Computation.run_readOwn, Object.prototype_frame, hm, own,
      stopsAt_frame]
    rcases ends with stops | top
    · simp only [stops, if_true, Computation.run_pure]
    · simp only [top, ite_self, Computation.run_pure]

/-- A plain object that lacks a property and inherits from nothing gives nothing. -/
theorem getFrom_of_absent (hr : (h.object r).kind = .plain)
    (own : h.own? (h.object r) key = none) (hp : (h.object r).prototype = none) (fuel : Nat)
    (receiver : Value) :
    (getFrom (fuel + 1) r receiver key).run apply m = .ok .undefined m :=
  getFrom_of_end apply hm (Object.isProxy_of_plain hr) own (.inr hp) fuel receiver

theorem hasFrom_of_own (direct : (h.object r).isProxy = false) {p : Property}
    (own : h.own? (h.object r) key = some p) (fuel : Nat) :
    (hasFrom (fuel + 1) r key).run apply m = .ok true m := by
  simp only [hasFrom, Computation.run_bind, Computation.run_readObject, Object.kind_frame, hm]
  split
  · next ho => exact absurd ho (Object.not_proxy direct)
  · simp only [Computation.run_bind, Computation.run_readOwn, hm, own]
    rfl

/-- A plain object that lacks a property has one if its prototype has one. -/
theorem hasFrom_of_inherited {parent : Nat} (hr : (h.object r).kind = .plain)
    (own : h.own? (h.object r) key = none) (hp : (h.object r).prototype = some parent) (fuel : Nat) :
    (hasFrom (fuel + 1) r key).run apply m = (hasFrom fuel parent key).run apply m := by
  simp only [hasFrom, Computation.run_bind, Computation.run_readObject, Object.kind_frame,
    Object.prototype_frame, hm, hr, Computation.run_readOwn, own, Option.isSome_none,
    Bool.false_eq_true, if_false, stopsAt_frame, stopsAt_of_plain hr, hp]

/-- A plain object that lacks a property and inherits from nothing has none. -/
theorem hasFrom_of_absent (hr : (h.object r).kind = .plain)
    (own : h.own? (h.object r) key = none) (hp : (h.object r).prototype = none) (fuel : Nat) :
    (hasFrom (fuel + 1) r key).run apply m = .ok false m := by
  simp only [hasFrom, Computation.run_bind, Computation.run_readObject, Object.kind_frame,
    Object.prototype_frame, hm, hr, Computation.run_readOwn, own, Option.isSome_none,
    Bool.false_eq_true, if_false, stopsAt_frame, stopsAt_of_plain hr, hp, Computation.run_pure]

/-- A plain object that inherits from what all objects inherit has the properties of both. -/
theorem hasFrom_of_base (hh : h.Grounded) (hr : (h.object r).kind = .plain)
    (hp : (h.object r).prototype = some Family.object.prototype) (fuel : Nat) :
    (hasFrom (fuel + 2) r key).run apply m =
      .ok ((h.own? (h.object r) key).isSome ||
        (h.own? (h.object Family.object.prototype) key).isSome) m := by
  cases own : h.own? (h.object r) key with
  | some p => rw [hasFrom_of_own apply hm (Object.isProxy_of_plain hr) own]; rfl
  | none =>
    rw [hasFrom_of_inherited apply hm hr own hp]
    cases base : h.own? (h.object Family.object.prototype) key with
    | some p => rw [hasFrom_of_own apply hm (Object.isProxy_of_plain hh.base) base]; rfl
    | none => rw [hasFrom_of_absent apply hm hh.base base hh.top]; rfl

/-- It gives its own property, or else what all objects inherit. -/
theorem getFrom_of_base (hh : h.Grounded) (hr : (h.object r).kind = .plain)
    (hp : (h.object r).prototype = some Family.object.prototype) (fuel : Nat) (receiver : Value) :
    (getFrom (fuel + 2) r receiver key).run apply m =
      match (h.own? (h.object r) key).or (h.own? (h.object Family.object.prototype) key) with
      | some p => (readContent p receiver).run apply m
      | none => .ok .undefined m := by
  cases own : h.own? (h.object r) key with
  | some p => exact getFrom_of_own apply hm (Object.isProxy_of_plain hr) own _ _
  | none =>
    rw [getFrom_of_inherited apply hm hr own hp]
    cases base : h.own? (h.object Family.object.prototype) key with
    | some p => exact getFrom_of_own apply hm (Object.isProxy_of_plain hh.base) base _ _
    | none => exact getFrom_of_absent apply hm hh.base base hh.top _ _

theorem ownFrom_of_direct (direct : (h.object r).isProxy = false) (fuel : Nat) :
    (ownFrom (fuel + 1) r key).run apply m = .ok (h.own? (h.object r) key) m := by
  simp only [ownFrom, Computation.run_bind, Computation.run_readObject, Object.kind_frame, hm]
  split
  · next ho => exact absurd ho (Object.not_proxy direct)
  · rw [Computation.run_readOwn, hm]

theorem run_getOf (direct : (h.object r).isProxy = false) {p : Property}
    (own : h.own? (h.object r) key = some p) :
    (getOf r key).run apply m = (readContent p (.object r)).run apply m := by
  simp only [getOf, chainLimit, Computation.run_bind, Computation.run_look, Computation.run_pure,
    getFrom_of_own apply hm direct own]

theorem run_getProperty (direct : (h.object r).isProxy = false) {p : Property}
    (own : h.own? (h.object r) key = some p) :
    (getProperty (.object r) key).run apply m = (readContent p (.object r)).run apply m := by
  simp only [getProperty, getSettled, chainLimit, Computation.run_bind, Computation.run_look,
    Computation.run_pure, getFrom_of_own apply hm direct own]

theorem run_ownProperty (direct : (h.object r).isProxy = false) :
    (ownProperty r key).run apply m = .ok (h.own? (h.object r) key) m := by
  simp only [ownProperty, chainLimit, Computation.run_bind, Computation.run_look,
    Computation.run_pure, ownFrom_of_direct apply hm direct]

/-! ### What an object is -/

omit hm in
theorem unwrap_of_direct (direct : (h.object r).isProxy = false) (fuel : Nat) :
    h.unwrap fuel r = h.object r := by
  cases fuel with
  | zero => rfl
  | succ fuel =>
    unfold unwrap
    split
    · next ho => exact absurd ho (Object.not_proxy direct)
    · rfl

theorem run_behindProxies (direct : (h.object r).isProxy = false) :
    (behindProxies r).run apply m = .ok (h.object r).frame m := by
  rw [behindProxies, Computation.run_look, hm, Look.ask, unwrap_of_direct direct]

theorem run_isCallable (direct : (h.object r).isProxy = false) :
    (isCallable (.object r)).run apply m = .ok (h.object r).callable?.isSome m := by
  simp only [isCallable, Computation.run_bind, run_behindProxies apply hm direct,
    Computation.run_pure, Object.callable?_frame]

theorem run_holdsArray (direct : (h.object r).isProxy = false) :
    (holdsArray r).run apply m = .ok (h.object r).isArray m := by
  simp only [holdsArray, Computation.run_bind, run_behindProxies apply hm direct,
    Computation.run_pure, Object.isArray_frame]

/-! ### Keys -/

theorem run_ownKeysOf (direct : (h.object r).isProxy = false) :
    (ownKeysOf r).run apply m = .ok (h.ownKeys (h.object r)) m := by
  simp only [ownKeysOf, ownKeysFrom, chainLimit, Computation.run_bind, Computation.run_look,
    Computation.run_pure, Computation.run_readObject, Object.kind_frame, hm]
  split
  · next ho => exact absurd ho (Object.not_proxy direct)
  · rw [Computation.run_look, hm, Look.ask]

omit hm in
/-- A filter whose questions leave the machine as it is. -/
theorem run_filterM {keys : List Key} {ask : Key → Script Bool} {answer : Key → Bool}
    (hask : ∀ k ∈ keys, (ask k).run apply m = .ok (answer k) m) :
    (keys.filterM ask).run apply m = .ok (keys.filter answer) m := by
  have aux : ∀ kept : List Key, (keys.filterAuxM ask kept).run apply m =
      .ok ((keys.filter answer).reverse ++ kept) m := by
    induction keys with
    | nil => exact fun _ => rfl
    | cons k rest ih =>
      intro kept
      have later := ih fun k hk => hask k (List.mem_cons_of_mem _ hk)
      simp only [List.filterAuxM, Computation.run_bind, hask k (List.mem_cons_self ..)]
      rw [later]
      cases hk : answer k <;> simp [hk]
  simp only [List.filterM, Computation.run_bind, aux, Computation.run_pure]
  simp

/-- The keys that an object lists are those of its texts whose properties show. -/
theorem run_shownKeysOf (direct : (h.object r).isProxy = false) :
    (shownKeysOf r).run apply m =
      .ok (((h.ownKeys (h.object r)).filter Key.isText).filter fun key =>
        (h.own? (h.object r) key).any fun p => p.attributes.enumerable) m := by
  simp only [shownKeysOf, Computation.run_bind, run_ownKeysOf apply hm direct]
  refine run_filterM apply fun key _ => ?_
  simp only [Computation.run_bind, run_ownProperty apply hm direct, Computation.run_pure]

end Readings

/-! ### Assignments -/

/-- Whether an assignment under a key gives a plain object a property of its own: what all objects
inherit neither calls a setter nor forbids it. -/
def Settable (h : Heap) (key : Key) : Prop :=
  ∀ p ∈ h.own? (h.object Family.object.prototype) key,
    p.isAccessor = false ∧ p.attributes.writable = true

section Assignments

variable (apply : Apply) {m : Machine} (hm : m.heap = h)

include hm

/-- A plain object that has no property under a key and can get one gets it. -/
theorem run_createOn (hr : (h.object r).kind = .plain) (own : h.own? (h.object r) key = none)
    (extensible : (h.object r).extensible = true) (v : Value) :
    (createOn (.object r) key v).run apply m =
      .ok none { m with heap := h.modify r fun o => o.put key (.plain v) } := by
  have fault : h.definitionFault? r key (.plain v) = none := by
    simp [definitionFault?, own, extensible, hr]
  have defined : h.define r key (.plain v) = h.modify r fun o => o.put key (.plain v) := by
    simp only [define, fault, own]
    rfl
  have direct := Object.isProxy_of_plain hr
  simp only [createOn, Computation.run_bind, Computation.run_readObject, Object.extensible_frame, hm,
    extensible, Bool.not_true, Bool.false_eq_true, if_false, run_ownProperty apply hm direct, own]
  simp only [defineOn, defineFrom, defineStored, chainLimit, Computation.run_bind,
    Computation.run_look, Computation.run_pure, Computation.run_change, Computation.run_readObject,
    Object.kind_frame, Look.ask, hm, hr, fault, Change.apply, defined]

/-- An assignment to a new property of a plain object, under a key that what it inherits does not
keep for itself. -/
theorem run_setProperty (hh : h.Grounded) (settable : h.Settable key)
    (hr : (h.object r).kind = .plain) (own : h.own? (h.object r) key = none)
    (parent : (h.object r).prototype = some Family.object.prototype)
    (extensible : (h.object r).extensible = true) (v : Value) :
    (setProperty (.object r) key v).run apply m =
      .ok () { m with heap := h.modify r fun o => o.put key (.plain v) } := by
  obtain ⟨size, some_⟩ : ∃ n, h.objects.size = n + 1 :=
    Nat.exists_eq_succ_of_ne_zero (Nat.ne_of_gt (Nat.lt_of_le_of_lt (Nat.zero_le _) hh.size))
  have created := run_createOn apply hm hr own extensible v
  have assigned : (setOn r key v).run apply m =
      .ok none { m with heap := h.modify r fun o => o.put key (.plain v) } := by
    simp only [setOn, chainLimit, setFrom, Computation.run_bind, Computation.run_look,
      Computation.run_pure, Computation.run_readObject, Computation.run_readOwn, Look.ask,
      Object.kind_frame, Object.prototype_frame, hm, some_, hr, own, parent, hh.base, hh.top]
    cases inherited : h.own? (h.object Family.object.prototype) key with
    | none => exact created
    | some p =>
      obtain ⟨notAccessor, writable⟩ := settable p inherited
      obtain ⟨content, attributes⟩ := p
      cases content with
      | accessor getter setter => cases notAccessor
      | data w =>
        have same : Value.object r ≠ .object Family.object.prototype := by
          rintro ⟨⟩
          exact absurd (parent.symm.trans hh.top) (by simp)
        have notArray := Object.isArray_of_plain hh.base
        have writable : attributes.writable = true := writable
        simp only [setStored, Computation.run_bind, Computation.run_readObject, Object.isArray_frame, hm,
          notArray, Bool.false_and, Bool.false_eq_true, if_false, writable, Bool.not_true, same]
        exact created
  simp only [setProperty, demand, Computation.run_bind, assigned, Computation.run_pure]

end Assignments

end Heap

end ScriptHost
