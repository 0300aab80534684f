import ScriptHost.Engine.Change

/-!
# What changes do to a heap

* `Heap.object_modify`, `Heap.object_allocate_of_lt`: the objects of a heap that has changed;
* `Altered`: all that one change can make of an object that is there;
* `Change.altered`, `Change.fresh`: each change alters old objects so, and new ones are of scripts.
-/

namespace ScriptHost

namespace Heap

variable (h : Heap)

/-! ### Objects -/

@[simp] theorem size_modify (r : Ref) (f : Object → Object) :
    (h.modify r f).objects.size = h.objects.size := by
  simp [modify]

@[simp] theorem size_allocate (o : Object) :
    (h.allocate o).2.objects.size = h.objects.size + 1 := by
  simp [allocate]

theorem object_modify_self {r : Ref} (hr : r < h.objects.size) (f : Object → Object) :
    (h.modify r f).object r = f (h.object r) := by
  simp only [object, modify, Array.getD_eq_getD_getElem?, Array.getElem?_modify]
  simp [hr]

theorem object_modify_of_ne {r s : Ref} (hs : s ≠ r) (f : Object → Object) :
    (h.modify r f).object s = h.object s := by
  simp [object, modify, Array.getD_eq_getD_getElem?, Array.getElem?_modify, hs.symm]

theorem object_modify_of_size_le {r s : Ref} (hr : h.objects.size ≤ r) (f : Object → Object) :
    (h.modify r f).object s = h.object s := by
  by_cases hs : s = r
  · subst hs
    simp only [object, modify, Array.getD_eq_getD_getElem?, Array.getElem?_modify]
    simp [hr]
  · exact h.object_modify_of_ne hs f

theorem object_of_size_le {r : Ref} (hr : h.objects.size ≤ r) :
    h.object r = { kind := .plain, prototype := none } := by
  simp [object, Array.getD_eq_getD_getElem?, Array.getElem?_eq_none hr]

theorem object_allocate_self (o : Object) : (h.allocate o).2.object h.objects.size = o := by
  simp [object, allocate, Array.getD_eq_getD_getElem?]

theorem object_allocate_of_lt {r : Ref} (hr : r < h.objects.size) (o : Object) :
    (h.allocate o).2.object r = h.object r := by
  simp [object, allocate, Array.getD_eq_getD_getElem?, Array.getElem?_push, hr, Nat.ne_of_lt hr]

/-- Beyond the end of the heap there is nothing but plain objects. -/
theorem kind_of_size_le {r : Ref} (hr : h.objects.size ≤ r) : (h.object r).kind = .plain := by
  rw [h.object_of_size_le hr]

end Heap

/-! ### Old objects -/

/-- All that one change can make of the object at a place. -/
inductive Altered (h : Heap) (r : Ref) : Object → Prop
  | same : Altered h r (h.object r)
  | defined {key : Key} {p : Property} (d : Descriptor) (own : h.own? (h.object r) key = some p)
    (fits : d.fits p = true) : Altered h r ((h.object r).put key (d.apply p))
  | added {key : Key} (d : Descriptor) (own : h.own? (h.object r) key = none)
    (extensible : (h.object r).extensible = true) : Altered h r ((h.object r).put key d.fresh)
  | declared (name : String) (global : r = globalRef) (own : h.own? (h.object r) name = none) :
    Altered h r ((h.object r).put name (.data .undefined ⟨true, true, false⟩))
  | written {key : Key} {w : Value} {a : Attributes} (v : Value)
    (own : h.own? (h.object r) key = some ⟨.data w, a⟩) (writable : a.writable = true) :
    Altered h r ((h.object r).put key ⟨.data v, a⟩)
  | dropped {key : Key} {p : Property} (own : h.own? (h.object r) key = some p)
    (configurable : p.attributes.configurable = true) : Altered h r ((h.object r).remove key)
  | traced : Altered h r (h.object r).trace
  | resized (n : Nat) : Altered h r ((h.object r).resize n)
  | lengthFixed : Altered h r (h.object r).fixLength
  | inherited (parent : Option Ref) (extensible : (h.object r).extensible = true)
    (mutable : r ≠ Family.object.prototype) :
    Altered h r { h.object r with prototype := parent }
  | prevented : Altered h r { h.object r with extensible := false }
  | became {kind : Kind} (may : (h.object r).kind.mayBecome kind = true) :
    Altered h r { h.object r with kind }
  | revoked {target handler f : Ref} {used : Bool}
    (proxy : (h.object r).kind = .proxy target handler used)
    (revoker : (h.object f).kind = .function (.builtin (.revoke r))) :
    Altered h r { h.object r with kind := .proxy target handler true }

/-- A change of one object alters that one, if it is there. -/
theorem Altered.of_modify {h : Heap} {r s : Ref} (hr : r < h.objects.size) (f : Object → Object)
    (altered : Altered h s (f (h.object s))) : Altered h r ((h.modify s f).object r) := by
  by_cases hs : r = s
  · subst hs
    rw [h.object_modify_self hr]
    exact altered
  · rw [h.object_modify_of_ne hs]
    exact .same

theorem Heap.define_altered (h : Heap) (s : Ref) (key : Key) (d : Descriptor) {r : Ref}
    (hr : r < h.objects.size) : Altered h r ((h.define s key d).object r) := by
  simp only [Heap.define]
  split
  · exact .same
  · next fine =>
    cases hown : h.own? (h.object s) key with
    | some p =>
      have fits : d.fits p = true := by simpa [Heap.definitionFault?, hown] using fine
      simp only []
      split
      · exact .of_modify hr _ (.defined d hown fits)
      · exact .same
    | none =>
      have extensible : (h.object s).extensible = true := by
        cases he : (h.object s).extensible with
        | true => rfl
        | false => simp [Heap.definitionFault?, hown, he] at fine
      exact .of_modify hr _ (.added d hown extensible)

theorem Heap.declare_altered (h : Heap) (name : String) {r : Ref} (hr : r < h.objects.size) :
    Altered h r ((h.declare name).object r) := by
  unfold Heap.declare
  split
  · exact .same
  · next own => exact .of_modify hr _ (.declared name rfl (by simpa using own))

theorem Heap.write_altered (h : Heap) (s : Ref) (key : Key) (v : Value) {r : Ref}
    (hr : r < h.objects.size) : Altered h r ((h.write s key v).object r) := by
  unfold Heap.write
  split
  · next hown =>
    split
    · next hw => exact .of_modify hr _ (.written v hown hw)
    · exact .same
  · exact .same

theorem Heap.drop_altered (h : Heap) (s : Ref) (key : Key) {r : Ref} (hr : r < h.objects.size) :
    Altered h r ((h.drop s key).object r) := by
  unfold Heap.drop
  split
  · next hown =>
    split
    · next hc => exact .of_modify hr _ (.dropped hown hc)
    · exact .same
  · exact .same

theorem Heap.inherit_altered (h : Heap) (s : Ref) (parent : Option Ref) {r : Ref}
    (hr : r < h.objects.size) : Altered h r ((h.inherit s parent).object r) := by
  unfold Heap.inherit
  split
  · exact .same
  · next fine =>
    have mutable : s ≠ Family.object.prototype := by
      intro hs
      simp [Heap.prototypeFault?, hs] at fine
    have extensible : (h.object s).extensible = true := by
      cases he : (h.object s).extensible with
      | true => rfl
      | false => simp [Heap.prototypeFault?, mutable, he] at fine
    exact .of_modify hr _ (.inherited parent extensible mutable)

theorem Heap.become_altered (h : Heap) (s : Ref) (kind : Kind) {r : Ref}
    (hr : r < h.objects.size) : Altered h r ((h.become s kind).object r) := by
  unfold Heap.become
  split
  · next may => exact .of_modify hr _ (.became may)
  · exact .same

theorem Heap.revoke_altered (h : Heap) (revoker : Ref) {r : Ref} (hr : r < h.objects.size) :
    Altered h r ((h.revoke revoker).object r) := by
  unfold Heap.revoke
  split
  · next hf =>
    split
    · next proxy => exact .of_modify hr _ (.revoked proxy hf)
    · exact .same
  · exact .same

/-- Each change alters the objects that are there in one of these ways. -/
theorem Change.altered (c : Change) (h : Heap) {r : Ref} (hr : r < h.objects.size) :
    Altered h r ((c.apply h).object r) := by
  cases c with
  | allocate o scripted =>
    show Altered h r ((h.allocate o).2.object r)
    rw [h.object_allocate_of_lt hr]
    exact .same
  | allocateRevocable target handler =>
    show Altered h r ((Heap.allocate (h.allocate _).2 _).2.object r)
    rw [Heap.object_allocate_of_lt _ (by rw [h.size_allocate]; exact Nat.lt_succ_of_lt hr),
      h.object_allocate_of_lt hr]
    exact .same
  | define s key d => exact h.define_altered s key d hr
  | declare name => exact h.declare_altered name hr
  | write s key v => exact h.write_altered s key v hr
  | drop s key => exact h.drop_altered s key hr
  | trace s => exact .of_modify hr _ .traced
  | resize s n => exact .of_modify hr _ (.resized n)
  | fixLength s => exact .of_modify hr _ .lengthFixed
  | inherit s parent => exact h.inherit_altered s parent hr
  | preventExtensions s => exact .of_modify hr _ .prevented
  | become s kind => exact h.become_altered s kind hr
  | revoke revoker => exact h.revoke_altered revoker hr
  | newCell v => exact .same
  | writeCell i v => exact .same
  | newSymbol => exact .same

/-! ### New objects -/

namespace Heap

variable (h : Heap)

@[simp] theorem size_define (r : Ref) (key : Key) (d : Descriptor) :
    (h.define r key d).objects.size = h.objects.size := by
  simp only [define]
  split
  · rfl
  · split
    · split <;> simp
    · simp

@[simp] theorem size_declare (name : String) :
    (h.declare name).objects.size = h.objects.size := by
  unfold declare
  split <;> simp

@[simp] theorem size_write (r : Ref) (key : Key) (v : Value) :
    (h.write r key v).objects.size = h.objects.size := by
  unfold write
  split
  · split <;> simp
  · rfl

@[simp] theorem size_drop (r : Ref) (key : Key) :
    (h.drop r key).objects.size = h.objects.size := by
  unfold drop
  split
  · split <;> simp
  · rfl

@[simp] theorem size_inherit (r : Ref) (parent : Option Ref) :
    (h.inherit r parent).objects.size = h.objects.size := by
  unfold inherit
  split <;> simp

@[simp] theorem size_become (r : Ref) (kind : Kind) :
    (h.become r kind).objects.size = h.objects.size := by
  unfold become
  split <;> simp

@[simp] theorem size_revoke (revoker : Ref) :
    (h.revoke revoker).objects.size = h.objects.size := by
  unfold revoke
  split
  · split <;> simp
  · rfl

end Heap

/-- A change makes no object, one that scripts can make, or a proxy with its revoker. -/
theorem Change.size_apply (c : Change) (h : Heap) :
    (c.apply h).objects.size = h.objects.size +
      match c with
      | .allocate .. => 1
      | .allocateRevocable .. => 2
      | _ => 0 := by
  cases c <;> simp [Change.apply]

theorem Change.size_le (c : Change) (h : Heap) : h.objects.size ≤ (c.apply h).objects.size := by
  rw [c.size_apply h]
  exact Nat.le_add_right _ _

/-- What a change adds are objects that scripts can make, and functions that take one of these out
of use. -/
theorem Change.fresh (c : Change) (h : Heap) {r : Nat} (hr : h.objects.size ≤ r) :
    ((c.apply h).object r).isScripted = true ∨
      ∃ p, (h.objects.size ≤ p ∧ p < r) ∧
        ((c.apply h).object r).kind = .function (.builtin (.revoke p)) := by
  have size := c.size_apply h
  by_cases inside : r < (c.apply h).objects.size
  · cases c with
    | allocate o scripted =>
      obtain rfl : r = h.objects.size := by simp only at size; omega
      left
      have made : (Change.allocate o scripted).apply h = (h.allocate o).2 := rfl
      rw [made, h.object_allocate_self]
      exact scripted
    | allocateRevocable target handler =>
      let first := (h.allocate (proxyObject target handler)).2
      have made : (Change.allocateRevocable target handler).apply h =
        (first.allocate (functionObject (.builtin (.revoke h.objects.size)) (.unicode "") 0)).2 := rfl
      have first_size : first.objects.size = h.objects.size + 1 := h.size_allocate _
      rw [made]
      obtain rfl | rfl : r = h.objects.size ∨ r = first.objects.size := by simp only at size; omega
      · left
        rw [first.object_allocate_of_lt (by rw [first_size]; exact Nat.lt_succ_self _),
          h.object_allocate_self]
        rfl
      · right
        refine ⟨h.objects.size, ⟨Nat.le_refl _, by rw [first_size]; exact Nat.lt_succ_self _⟩, ?_⟩
        rw [first.object_allocate_self]
        rfl
    | _ => simp only at size; omega
  · left
    rw [Object.isScripted, Heap.kind_of_size_le _ (Nat.le_of_not_lt inside)]
    rfl

end ScriptHost
