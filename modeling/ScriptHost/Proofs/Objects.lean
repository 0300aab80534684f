import ScriptHost.Proofs.Heap

/-!
# What changes leave of an object

* `lookup_putIn_self`, `lookup_putIn_of_ne`: the properties of an object with one set;
* `Property.Pins`: a property that holds an object for good;
* `Altered.lookup_of_pins`: no change takes such a property from a plain object or a function;
* `Object.Sealed`, `Altered.eq_of_sealed`: a plain object that no change alters.
-/

namespace ScriptHost

/-! ### Lists of properties -/

section Lists

variable {key k : Key} {p : Property} {ps : List (Key × Property)}

@[simp] theorem lookup_putIn_self : (putIn key p ps).lookup key = some p := by
  induction ps with
  | nil => simp [putIn]
  | cons e rest ih =>
    obtain ⟨k, q⟩ := e
    unfold putIn
    split
    · simp
    · next hk => rw [List.lookup_cons, beq_eq_false_iff_ne.2 (Ne.symm hk)]; exact ih

theorem lookup_putIn_of_ne (hk : k ≠ key) : (putIn key p ps).lookup k = ps.lookup k := by
  induction ps with
  | nil => simp [putIn, List.lookup_cons, beq_eq_false_iff_ne.2 hk]
  | cons e rest ih =>
    obtain ⟨k', q⟩ := e
    unfold putIn
    split
    · next h =>
      subst h
      simp [List.lookup_cons, beq_eq_false_iff_ne.2 hk]
    · rw [List.lookup_cons, List.lookup_cons, ih]

/-- Setting a property to what it is changes nothing. -/
theorem putIn_of_lookup (hp : ps.lookup key = some p) : putIn key p ps = ps := by
  induction ps with
  | nil => simp at hp
  | cons e rest ih =>
    obtain ⟨k, q⟩ := e
    unfold putIn
    split
    · next h =>
      subst h
      simp only [List.lookup_cons, beq_self_eq_true, Option.some.injEq] at hp
      rw [hp]
    · next h =>
      rw [List.lookup_cons, beq_eq_false_iff_ne.2 (Ne.symm h)] at hp
      rw [ih hp]

/-- A new property comes last. -/
theorem putIn_of_lookup_none (hp : ps.lookup key = none) : putIn key p ps = ps ++ [(key, p)] := by
  induction ps with
  | nil => rfl
  | cons e rest ih =>
    obtain ⟨k, q⟩ := e
    rw [List.lookup_cons] at hp
    cases hk : key == k with
    | true => simp [hk] at hp
    | false =>
      rw [hk] at hp
      unfold putIn
      rw [if_neg (Ne.symm (beq_eq_false_iff_ne.1 hk)), ih hp]
      rfl

theorem lookup_filter_of_ne (hk : k ≠ key) :
    (ps.filter fun e => e.1 ≠ key).lookup k = ps.lookup k := by
  induction ps with
  | nil => rfl
  | cons e rest ih =>
    obtain ⟨k', q⟩ := e
    by_cases h : k' = key
    · subst h
      rw [List.filter_cons_of_neg (by simp), List.lookup_cons, beq_eq_false_iff_ne.2 hk]
      exact ih
    · rw [List.filter_cons_of_pos (by simpa using h), List.lookup_cons, List.lookup_cons, ih]

end Lists

/-! ### Properties set and removed -/

namespace Object

variable (o : Object) (key : Key) (p : Property)

theorem putItem_kind (i : Nat) : (o.putItem i key p).kind = o.kind := by
  unfold putItem
  split
  · rfl
  · split <;> rfl

theorem cover_kind (i : Nat) (hk : o.isArray = false) : o.cover i = o := by
  unfold cover
  split
  · next h => simp [isArray, h] at hk
  · rfl

/-- A property is set among the others or, under an index, as an item. -/
theorem put_cases : o.put key p = { o with properties := putIn key p o.properties } ∨
    ∃ i, key.index? = some i ∧ o.put key p = (o.putItem i key p).cover i := by
  unfold put
  cases key.index? with
  | none => exact .inl rfl
  | some i => exact .inr ⟨i, rfl, rfl⟩

theorem put_of_index?_none (hk : key.index? = none) :
    o.put key p = { o with properties := putIn key p o.properties } := by
  rcases o.put_cases key p with h | ⟨i, hi, _⟩
  · exact h
  · simp [hk] at hi

/-- An object that keeps no items apart has all its properties in one list. -/
theorem put_of_no_items (hk : o.hasItems = false) (he : o.elements = #[]) :
    o.put key p = { o with properties := putIn key p o.properties } := by
  rcases o.put_cases key p with h | ⟨i, _, h⟩ <;> rw [h]
  have item : o.putItem i key p = { o with properties := putIn key p o.properties } := by
    simp [putItem, he, hk]
  rw [item, cover_kind]
  cases h : o.kind <;> simp_all [hasItems, isArray]

theorem put_kind (hk : o.isArray = false) : (o.put key p).kind = o.kind := by
  rcases o.put_cases key p with h | ⟨i, _, h⟩ <;> rw [h]
  rw [cover_kind _ _ (by simpa [isArray, o.putItem_kind key p i] using hk), putItem_kind]

theorem cover_prototype (i : Nat) : (o.cover i).prototype = o.prototype := by
  unfold cover
  split <;> rfl

theorem cover_properties (i : Nat) : (o.cover i).properties = o.properties := by
  unfold cover
  split <;> rfl

@[simp] theorem put_prototype : (o.put key p).prototype = o.prototype := by
  rcases o.put_cases key p with h | ⟨i, _, h⟩ <;> rw [h]
  rw [cover_prototype]
  unfold putItem
  split
  · rfl
  · split <;> rfl

theorem lookup_put_of_ne {key k : Key} (hk : k ≠ key) :
    (o.put key p).properties.lookup k = o.properties.lookup k := by
  rcases o.put_cases key p with h | ⟨i, _, h⟩ <;> rw [h]
  · exact lookup_putIn_of_ne hk
  · rw [cover_properties]
    unfold putItem
    split
    · rfl
    · split
      · rfl
      · exact lookup_putIn_of_ne hk

theorem lookup_remove_of_ne {key k : Key} (hk : k ≠ key) :
    (o.remove key).properties.lookup k = o.properties.lookup k := by
  unfold remove
  split
  · split
    · rfl
    · exact lookup_filter_of_ne hk
  · exact lookup_filter_of_ne hk

theorem stored?_of_no_elements (he : o.elements = #[]) : o.stored? key = o.properties.lookup key := by
  simp [stored?, he]

theorem stored?_of_index?_none (hk : key.index? = none) :
    o.stored? key = o.properties.lookup key := by
  simp [stored?, hk]

end Object

/-! ### Plain objects -/

section Plain

variable {o : Object}

theorem Object.isArray_of_plain (ho : o.kind = .plain) : o.isArray = false := by
  simp [isArray, ho]

theorem Object.hasItems_of_plain (ho : o.kind = .plain) : o.hasItems = false := by
  simp [hasItems, ho]

/-- Whether objects of a kind keep nothing besides their properties: plain ones and functions. -/
def Kind.isSimple : Kind → Bool
  | plain | function _ => true
  | _ => false

theorem Object.trace_of_isSimple (ho : o.kind.isSimple = true) : o.trace = o := by
  cases hk : o.kind <;> simp_all [Kind.isSimple, trace, isError]

theorem Object.resize_of_isSimple (ho : o.kind.isSimple = true) (n : Nat) : o.resize n = o := by
  cases hk : o.kind <;> simp_all [Kind.isSimple, resize]

theorem Object.fixLength_of_isSimple (ho : o.kind.isSimple = true) : o.fixLength = o := by
  cases hk : o.kind <;> simp_all [Kind.isSimple, fixLength]

theorem Heap.own?_of_isSimple (h : Heap) (ho : o.kind.isSimple = true) (key : Key) :
    h.own? o key = o.stored? key := by
  cases hk : o.kind <;> simp_all [Kind.isSimple, own?]

theorem Kind.isSimple_of_plain (ho : o.kind = .plain) : o.kind.isSimple = true := by
  simp [isSimple, ho]

theorem Heap.own?_of_plain (h : Heap) (ho : o.kind = .plain) (key : Key) :
    h.own? o key = o.stored? key := h.own?_of_isSimple (Kind.isSimple_of_plain ho) key

theorem Kind.mayBecome_plain (k : Kind) : Kind.plain.mayBecome k = false := by
  cases k <;> rfl

end Plain

/-! ### What an object is -/

/-- Whether what objects of a kind keep besides their properties can change. -/
def Kind.varies : Kind → Bool
  | array .. | date _ | regexp .. | collection .. | promise _ | buffer _ | iterator .. | relay ..
  | generator _ | watcher _ | proxy .. => true
  | _ => false

theorem Kind.varies_of_mayBecome {k k' : Kind} (may : k.mayBecome k' = true) :
    k.varies = true ∧ k'.varies = true := by
  unfold mayBecome at may
  split at may <;> first | exact ⟨rfl, rfl⟩ | simp at may

theorem Object.varies_of_isArray {o : Object} (ho : o.isArray = true) : o.kind.varies = true := by
  unfold isArray at ho
  split at ho
  · next h => rw [h]; rfl
  · simp at ho

theorem Object.isArray_cover (o : Object) (i : Nat) : (o.cover i).isArray = o.isArray := by
  unfold cover
  split
  · next h => simp [isArray, h]
  · rfl

theorem Object.isArray_put (o : Object) (key : Key) (p : Property) :
    (o.put key p).isArray = o.isArray := by
  rcases o.put_cases key p with h | ⟨i, _, h⟩ <;> rw [h]
  · rfl
  · rw [isArray_cover, isArray, putItem_kind, isArray]

/-- Setting a property only changes how long an array is. -/
theorem Object.kind_put (o : Object) (key : Key) (p : Property) :
    (o.put key p).kind = o.kind ∨ o.kind.varies = true ∧ (o.put key p).kind.varies = true := by
  cases ho : o.isArray with
  | false => exact .inl (o.put_kind key p ho)
  | true =>
    exact .inr ⟨varies_of_isArray ho, varies_of_isArray ((o.isArray_put key p).trans ho)⟩

theorem Object.kind_remove (o : Object) (key : Key) : (o.remove key).kind = o.kind := by
  unfold remove
  split
  · split <;> rfl
  · rfl

theorem Object.kind_trace (o : Object) : o.trace.kind = o.kind := by
  unfold trace
  split <;> rfl

theorem Object.kind_resize (o : Object) (n : Nat) :
    (o.resize n).kind = o.kind ∨ o.kind.varies = true ∧ (o.resize n).kind.varies = true := by
  unfold resize
  split
  · next h =>
    right
    simp [truncate, h, Kind.varies]
  · exact .inl rfl

theorem Object.kind_fixLength (o : Object) :
    o.fixLength.kind = o.kind ∨ o.kind.varies = true ∧ o.fixLength.kind.varies = true := by
  unfold fixLength
  split
  · next h => exact .inr ⟨by simp [h, Kind.varies], rfl⟩
  · exact .inl rfl

/-- An object stays what it is, except for what objects of its kind keep besides properties. -/
theorem Altered.kind {h : Heap} {r : Ref} {o : Object} (altered : Altered h r o) :
    o.kind = (h.object r).kind ∨ (h.object r).kind.varies = true ∧ o.kind.varies = true := by
  cases altered with
  | same => exact .inl rfl
  | defined d own fits => exact Object.kind_put _ _ _
  | added d own extensible => exact Object.kind_put _ _ _
  | declared name global own => exact Object.kind_put _ _ _
  | written v own writable => exact Object.kind_put _ _ _
  | dropped own configurable => exact .inl (Object.kind_remove _ _)
  | traced => exact .inl (Object.kind_trace _)
  | resized n => exact Object.kind_resize _ n
  | lengthFixed => exact Object.kind_fixLength _
  | inherited parent extensible mutable => exact .inl rfl
  | prevented => exact .inl rfl
  | became may => exact .inr (Kind.varies_of_mayBecome may)
  | revoked proxy => exact .inr ⟨by rw [proxy]; rfl, rfl⟩

/-- A function stays the function that it is, and nothing else becomes one. -/
theorem Altered.function_iff {h : Heap} {r : Ref} {o : Object} (altered : Altered h r o)
    (f : Callable) : o.kind = .function f ↔ (h.object r).kind = .function f := by
  rcases altered.kind with same | ⟨old, new⟩
  · rw [same]
  · constructor
    · intro ho
      simp [ho, Kind.varies] at new
    · intro ho
      simp [ho, Kind.varies] at old

/-- An object of a kind that keeps nothing besides properties stays of that kind. -/
theorem Altered.isSimple {h : Heap} {r : Ref} {o : Object} (altered : Altered h r o)
    (ho : (h.object r).kind.isSimple = true) : o.kind = (h.object r).kind := by
  rcases altered.kind with same | ⟨old, -⟩
  · exact same
  · cases hk : (h.object r).kind <;> simp_all [Kind.isSimple, Kind.varies]

/-- A proxy stays as it is if no function can take it out of use. -/
theorem Altered.proxy {h : Heap} {r : Ref} {o : Object} (altered : Altered h r o)
    {target handler : Ref} {used : Bool} (ho : (h.object r).kind = .proxy target handler used)
    (free : ∀ f, (h.object f).kind ≠ .function (.builtin (.revoke r))) :
    o.kind = .proxy target handler used := by
  have noArray : (h.object r).isArray = false := by simp [Object.isArray, ho]
  cases altered with
  | same => exact ho
  | defined d own fits => rw [Object.put_kind _ _ _ noArray, ho]
  | added d own extensible => rw [Object.put_kind _ _ _ noArray, ho]
  | declared name global own => rw [Object.put_kind _ _ _ noArray, ho]
  | written v own writable => rw [Object.put_kind _ _ _ noArray, ho]
  | dropped own configurable => rw [Object.kind_remove, ho]
  | traced => rw [Object.kind_trace, ho]
  | resized n => simp [Object.resize, ho]
  | lengthFixed => simp [Object.fixLength, ho]
  | inherited parent extensible mutable => exact ho
  | prevented => exact ho
  | became may => simp [ho, Kind.mayBecome] at may
  | revoked proxy revoker => exact absurd revoker (free _)

/-- The object that all others inherit from never inherits from anything else. -/
theorem Altered.prototype {h : Heap} {o : Object} (altered : Altered h Family.object.prototype o) :
    o.prototype = (h.object Family.object.prototype).prototype := by
  cases altered with
  | same => rfl
  | defined d own fits => exact Object.put_prototype _ _ _
  | added d own extensible => exact Object.put_prototype _ _ _
  | declared name global own => exact Object.put_prototype _ _ _
  | written v own writable => exact Object.put_prototype _ _ _
  | dropped own configurable => unfold Object.remove; split <;> (try split) <;> rfl
  | traced => unfold Object.trace; split <;> rfl
  | resized n => unfold Object.resize Object.truncate; split <;> (try split) <;> rfl
  | lengthFixed => unfold Object.fixLength; split <;> rfl
  | inherited parent extensible mutable => exact absurd rfl mutable
  | prevented => rfl
  | became may => rfl
  | revoked proxy => rfl

/-! ### Properties that stay -/

/-- A property that holds an object for good. -/
def Property.Pins (p : Property) (r : Ref) : Prop :=
  p.content = .data (.object r) ∧ p.attributes.writable = false ∧
    p.attributes.configurable = false

/-- What cannot change does not change by a definition that leaves it or says the same again. -/
theorem Option.getD_of_all_eq {α : Type} {x : Option α} {a : α} (hx : ∀ b ∈ x, b = a) :
    x.getD a = a := by
  cases x with
  | none => rfl
  | some b => exact hx b rfl

/-- Only the definition that a pinned property has already fits it. -/
theorem Descriptor.apply_of_pins {d : Descriptor} {p : Property} {r : Ref} (hp : p.Pins r)
    (fits : d.fits p = true) : d.apply p = p := by
  obtain ⟨content, writable, enumerable, configurable⟩ := p
  obtain ⟨hc, hw, hd⟩ := hp
  simp only at hc hw hd
  subst hc hw hd
  simp only [Descriptor.fits, Bool.false_or, Bool.and_eq_true, bne_iff_ne, Bool.not_eq_true',
    Option.all_eq_true, beq_iff_eq] at fits
  obtain ⟨⟨hconf, henum⟩, haccessor, hwrite, hvalue⟩ := fits
  have value : d.value.getD (.object r) = .object r :=
    Option.getD_of_all_eq fun v hv => by
      have same := hvalue v hv
      simp only [Value.same, beq_iff_eq] at same
      exact same.symm
  have write : d.writable.getD false = false := by
    cases hd : d.writable with
    | none => rfl
    | some b => cases b <;> simp_all
  have conf : d.configurable.getD false = false := by
    cases hd : d.configurable with
    | none => rfl
    | some b => cases b <;> simp_all
  simp only [apply, haccessor, value, write, conf, Option.getD_of_all_eq henum]
  rfl

/-- No change takes a pinned property from a plain object or a function. -/
theorem Altered.lookup_of_pins {h : Heap} {r : Ref} {o : Object} (altered : Altered h r o)
    (ho : (h.object r).kind.isSimple = true) {key : Key} (hk : key.index? = none) {p : Property} {q : Ref}
    (hl : (h.object r).properties.lookup key = some p) (hp : p.Pins q) :
    o.properties.lookup key = some p := by
  have kept : h.own? (h.object r) key = some p := by
    rw [h.own?_of_isSimple ho, Object.stored?_of_index?_none _ _ hk, hl]
  cases altered with
  | same => exact hl
  | @defined key' p' d own fits =>
    by_cases hkey : key = key'
    · subst hkey
      obtain rfl : p' = p := by rw [kept] at own; exact (Option.some.inj own).symm
      rw [Descriptor.apply_of_pins hp fits, Object.put_of_index?_none _ _ _ hk]
      exact lookup_putIn_self
    · rw [Object.lookup_put_of_ne _ _ hkey, hl]
  | @added key' d own extensible =>
    have hkey : key ≠ key' := by rintro rfl; simp [kept] at own
    rw [Object.lookup_put_of_ne _ _ hkey, hl]
  | declared name global own =>
    have hkey : key ≠ name := by rintro rfl; simp [kept] at own
    rw [Object.lookup_put_of_ne _ _ hkey, hl]
  | @written key' w a v own writable =>
    have hkey : key ≠ key' := by
      rintro rfl
      rw [kept, Option.some.injEq] at own
      simp [own, Property.Pins, writable] at hp
    rw [Object.lookup_put_of_ne _ _ hkey, hl]
  | @dropped key' p' own configurable =>
    have hkey : key ≠ key' := by
      rintro rfl
      obtain rfl : p = p' := by rw [kept] at own; exact Option.some.inj own
      simp [hp.2.2] at configurable
    rw [Object.lookup_remove_of_ne _ hkey, hl]
  | traced => rw [Object.trace_of_isSimple ho, hl]
  | resized n => rw [Object.resize_of_isSimple ho, hl]
  | lengthFixed => rw [Object.fixLength_of_isSimple ho, hl]
  | inherited parent extensible mutable => exact hl
  | prevented => exact hl
  | became may => exact hl
  | revoked proxy => exact hl

/-- A plain object that no change alters: it takes no properties, and those that it has are
pinned. -/
structure Object.Sealed (o : Object) : Prop where
  plain : o.kind = .plain
  elements : o.elements = #[]
  extensible : o.extensible = false
  pinned : ∀ e ∈ o.properties, ∃ r, e.2.Pins r

/-- The properties of a sealed object are pinned. -/
theorem Object.Sealed.own (h : Heap) {o : Object} (ho : o.Sealed) {key : Key} {p : Property}
    (own : h.own? o key = some p) : o.properties.lookup key = some p ∧ ∃ r, p.Pins r := by
  rw [h.own?_of_plain ho.plain, o.stored?_of_no_elements key ho.elements] at own
  obtain ⟨before, after, he, _⟩ := List.lookup_eq_some_iff.1 own
  exact ⟨own, ho.pinned (key, p) (by simp [he])⟩

/-- No change alters a sealed object but the object of the global variables. -/
theorem Altered.eq_of_sealed {h : Heap} {r : Ref} {o : Object} (altered : Altered h r o)
    (ho : (h.object r).Sealed) (hr : r ≠ globalRef) : o = h.object r := by
  cases altered with
  | same => rfl
  | defined d own fits =>
    obtain ⟨kept, q, hq⟩ := ho.own h own
    rw [Descriptor.apply_of_pins hq fits,
      Object.put_of_no_items _ _ _ (Object.hasItems_of_plain ho.plain) ho.elements,
      putIn_of_lookup kept]
  | added d own extensible => simp [ho.extensible] at extensible
  | declared name global own => exact absurd global hr
  | written v own writable =>
    obtain ⟨kept, q, hq⟩ := ho.own h own
    simp [Property.Pins, writable] at hq
  | dropped own configurable =>
    obtain ⟨kept, q, hq⟩ := ho.own h own
    simp [hq.2.2] at configurable
  | traced => exact Object.trace_of_isSimple (Kind.isSimple_of_plain ho.plain)
  | resized n => exact Object.resize_of_isSimple (Kind.isSimple_of_plain ho.plain) n
  | lengthFixed => exact Object.fixLength_of_isSimple (Kind.isSimple_of_plain ho.plain)
  | inherited parent extensible mutable => simp [ho.extensible] at extensible
  | prevented => rw [← ho.extensible]
  | became may => simp [ho.plain, Kind.mayBecome_plain] at may
  | revoked proxy => simp [ho.plain] at proxy

end ScriptHost
