import ScriptHost.Proofs.Graph
import ScriptHost.Proofs.Shows

/-!
# Inert objects

A conversion may run scripts: getters, the traps of proxies, and whatever turns the message of an
error into a text.  Most objects are read without any of that, and then their edges lead to what
they hold.

* `Heap.found?`: what a chain of objects gives, where no proxy and no getter is asked;
* `Heap.isInert`, `Heap.Inert`: a check for objects that are read off the heap, and what it tells;
* `Scene.calm_of_inert`, `Scene.Edge.held`: reading them changes nothing, and what their edges are;
* `Heap.isClosed`, `Scene.steady_of_isClosed`: the same for all that values lead to, whatever their
  shape is;
* `Heap.keepsData`: a check that lists it.
-/

namespace ScriptHost

/-! ### A check for objects -/

/-- The value that a property holds, if it does. -/
def Property.value? (p : Property) : Option Value :=
  match p.content with
  | .data v => some v
  | .accessor .. => none

/-- What an object holds. -/
def Object.held (o : Object) : List Value :=
  o.elements.toList.filterMap (fun p => p.bind Property.value?) ++
    o.properties.filterMap fun e => e.2.value?

/-- The text that a value is. -/
def Value.wording? : Value → Option String
  | .string t => t.toUnicode.toOption
  | _ => none

/-- The value is a text, or stands for none. -/
def Value.isWording (v : Value) : Bool :=
  match v with
  | .undefined | .null => true
  | v => v.wording?.isSome

namespace Heap

variable (h : Heap)

/-- What an object or one of those that it inherits from gives under a key, if no proxy and no
getter is asked for it on the way. -/
def found? : Nat → Ref → Key → Option Value
  | 0, _, _ => none
  | fuel + 1, r, key =>
    let o := h.object r
    if o.isProxy then none
    else
      match h.own? o key with
      | some p => p.value?
      | none =>
        if stopsAt o key then some .undefined
        else
          match o.prototype with
          | some parent => found? fuel parent key
          | none => some .undefined

/-- The object is a function, an array without holes, an error whose name and message are texts, or
another object without getters.  Proxies, and numbers in buffers, are none of these. -/
def isInert (r : Ref) : Bool :=
  let o := h.object r
  match o.kind with
  | .function _ => true
  | .array length _ => decide (length ≤ maxLength) && decide (length ≤ o.elements.size) &&
    o.elements.toList.all fun p => (p.bind Property.value?).isSome
  | .error => (h.found? (h.objects.size + 1) r "name").any Value.isWording &&
    (h.found? (h.objects.size + 1) r "message").any Value.isWording
  | .proxy .. | .elements .. => false
  | _ => (o.elements.toList.all fun p => p.all fun p => p.value?.isSome) &&
    o.properties.all fun e => e.2.value?.isSome

/-- What an inert object is. -/
inductive Inert (r : Ref) : Prop
  | function {c : Callable} (kind : (h.object r).kind = .function c)
  | array {length : Nat} {fixed : Bool} (kind : (h.object r).kind = .array length fixed)
      (short : length ≤ maxLength)
      (full : ∀ i < length, ∃ v a, (h.object r).elements[i]? = some (some ⟨.data v, a⟩))
  | error {name message : Value} (kind : (h.object r).kind = .error)
      (named : h.found? (h.objects.size + 1) r "name" = some name) (spelled : name.isWording = true)
      (worded : h.found? (h.objects.size + 1) r "message" = some message)
      (told : message.isWording = true)
  | record (direct : (h.object r).isProxy = false) (notArray : (h.object r).isArray = false)
      (notError : (h.object r).isError = false)
      (data : ∀ key p, h.own? (h.object r) key = some p →
        ∃ v, p.content = .data v ∧ ∀ q, v = .object q → v ∈ (h.object r).held)

end Heap

section Objects

variable {g : Scene} {h : Heap} {r : Ref} {v w : Value}

theorem Property.content_of_value? {p : Property} (hv : p.value? = some v) :
    p.content = .data v := by
  unfold value? at hv
  cases hp : p.content with
  | data w =>
    rw [hp] at hv
    rw [Option.some.inj hv]
  | accessor getter setter =>
    rw [hp] at hv
    cases hv

/-- What is kept with an object under a key is one of its elements or properties. -/
theorem Object.held_of_stored? {o : Object} {key : Key} {p : Property}
    (stored : o.stored? key = some p) :
    some p ∈ o.elements.toList ∨ (key, p) ∈ o.properties := by
  have listed (found : o.properties.lookup key = some p) : (key, p) ∈ o.properties := by
    obtain ⟨before, after, eq, -⟩ := List.lookup_eq_some_iff.mp found
    exact eq ▸ List.mem_append_right before (List.mem_cons_self ..)
  unfold stored? at stored
  split at stored
  · exact .inr (listed stored)
  · split at stored
    · next i _ =>
      rcases Option.or_eq_some_iff.mp stored with item | ⟨-, found⟩
      · have element := Array.mem_of_getElem? (Option.join_eq_some_iff.mp item)
        exact .inl (Array.mem_toList_iff.mpr element)
      · exact .inr (listed found)
    · exact .inr (listed stored)

/-- What an object has itself under a key is kept with it, or is a text.  Arrays have their length as
well, and some objects the numbers of a buffer. -/
theorem Heap.own?_cases {o : Object} {key : Key} {p : Property}
    (notArray : ∀ length fixed, o.kind ≠ .array length fixed)
    (notElements : ∀ t buffer offset length, o.kind ≠ .elements t buffer offset length)
    (own : h.own? o key = some p) : o.stored? key = some p ∨ ∃ t, p.content = .data (.string t) := by
  unfold own? at own
  split at own
  · next kind => exact absurd kind (notArray _ _)
  · split at own
    · next u _ =>
      cases own
      exact .inr ⟨u, rfl⟩
    · exact .inl own
  · next kind => exact absurd kind (notElements _ _ _ _)
  · exact .inl own

/-- An object that keeps values only has nothing but them. -/
theorem Heap.data_of_own? (notArray : ∀ length fixed, (h.object r).kind ≠ .array length fixed)
    (notElements : ∀ t buffer offset length,
      (h.object r).kind ≠ .elements t buffer offset length)
    (elements : ∀ p, some p ∈ (h.object r).elements.toList → p.value?.isSome = true)
    (properties : ∀ e ∈ (h.object r).properties, e.2.value?.isSome = true) {key : Key}
    {p : Property} (own : h.own? (h.object r) key = some p) :
    ∃ v, p.content = .data v ∧ ∀ q, v = .object q → v ∈ (h.object r).held := by
  rcases own?_cases notArray notElements own with stored | ⟨t, content⟩
  · rcases Object.held_of_stored? stored with mem | mem
    · obtain ⟨v, hv⟩ := Option.isSome_iff_exists.mp (elements p mem)
      exact ⟨v, Property.content_of_value? hv, fun _ _ =>
        List.mem_append_left _ (List.mem_filterMap.mpr ⟨_, mem, hv⟩)⟩
    · obtain ⟨v, hv⟩ := Option.isSome_iff_exists.mp (properties _ mem)
      exact ⟨v, Property.content_of_value? hv, fun _ _ =>
        List.mem_append_right _ (List.mem_filterMap.mpr ⟨_, mem, hv⟩)⟩
  · exact ⟨_, content, fun q hq => by cases hq⟩

theorem Heap.inert_of_isInert (inert : h.isInert r = true) : h.Inert r := by
  unfold isInert at inert
  dsimp only at inert
  split at inert
  · next kind => exact .function kind
  · next kind =>
    simp only [Bool.and_eq_true, decide_eq_true_eq, List.all_eq_true] at inert
    obtain ⟨⟨short, inside⟩, full⟩ := inert
    refine .array kind short fun i hi => ?_
    have here : i < (h.object r).elements.size := Nat.lt_of_lt_of_le hi inside
    have item := full _ (Array.getElem_mem_toList here)
    obtain ⟨v, hv⟩ := Option.isSome_iff_exists.mp item
    obtain ⟨p, hp, hv⟩ := Option.bind_eq_some_iff.mp hv
    refine ⟨v, p.attributes, ?_⟩
    rw [Array.getElem?_eq_getElem here, hp, ← Property.content_of_value? hv]
  · next kind =>
    simp only [Bool.and_eq_true, Option.any_eq_true] at inert
    obtain ⟨⟨name, named, spelled⟩, ⟨message, worded, told⟩⟩ := inert
    exact .error kind named spelled worded told
  · cases inert
  · cases inert
  · next notFunction notArray notError notProxy notElements =>
    simp only [Bool.and_eq_true, List.all_eq_true] at inert
    refine .record ?_ ?_ ?_ fun key p own => data_of_own? notArray notElements
      (fun p hp => inert.1 _ hp) inert.2 own
    · unfold Object.isProxy
      split
      · next kind => exact absurd kind (notProxy _ _ _)
      · rfl
    · unfold Object.isArray
      split
      · next kind => exact absurd kind (notArray _ _)
      · rfl
    · unfold Object.isError
      split
      · next kind => exact absurd kind notError
      · rfl

/-! ### Errors -/

section Errors

variable {apply : Apply} {m : Machine}

/-- What is found along a chain is read without running anything.  The induction is on how far the
chain may go. -/
theorem Heap.run_getFrom_of_found? (hm : m.heap = h) {fuel : Nat} {key : Key}
    (found : h.found? fuel r key = some v) (receiver : Value) :
    (getFrom fuel r receiver key).run apply m = .ok v m := by
  induction fuel generalizing r with
  | zero => cases found
  | succ fuel ih =>
    simp only [found?] at found
    split at found
    · cases found
    · next direct =>
      simp only [Bool.not_eq_true] at direct
      split at found
      · next p own =>
        rw [getFrom_of_own apply hm direct own, readContent, Property.content_of_value? found]
        rfl
      · next own =>
        split at found
        · next stops =>
          cases found
          exact getFrom_of_end apply hm direct own (.inl stops) fuel receiver
        · next goesOn =>
          split at found
          · next parent hp =>
            rw [getFrom_of_parent apply hm direct (by simpa using goesOn) own hp]
            exact ih found
          · next top =>
            cases found
            exact getFrom_of_end apply hm direct own (.inr top) fuel receiver

theorem Heap.run_getProperty_of_found? (hm : m.heap = h) {key : Key}
    (found : h.found? (h.objects.size + 1) r key = some v) :
    (getProperty (.object r) key).run apply m = .ok v m := by
  simp only [getProperty, getSettled, chainLimit, Computation.run_bind, Computation.run_look,
    Computation.run_pure, Look.ask, hm, run_getFrom_of_found? hm found]

theorem run_errorName_of_found? (hm : m.heap = h)
    (found : h.found? (h.objects.size + 1) r "name" = some v) (wording : v.isWording = true)
    (p : Payment) : (errorName (.object r) p).run apply m = .ok (v.wording?, p) m := by
  have read : (getProperty (.object r) "name").run apply m = .ok v m :=
    Heap.run_getProperty_of_found? hm found
  cases v with
  | undefined | null =>
    rw [errorName, Walker.run_bind, Walker.run_ofScript, read]
    rfl
  | string t =>
    obtain ⟨s, spelled⟩ : ∃ s, t.toUnicode.toOption = some s :=
      Option.isSome_iff_exists.mp wording
    cases unicode : t.toUnicode with
    | ok s =>
      rw [errorName, Walker.run_bind, Walker.run_ofScript, read]
      simp only [unicode, Value.wording?]
      rfl
    | error i =>
      rw [unicode] at spelled
      cases spelled
  | _ => cases wording

theorem run_readableText_of_found? (hm : m.heap = h) {key : String}
    (found : h.found? (h.objects.size + 1) r key = some v) (wording : v.isWording = true) :
    (readableText (.object r) key).run apply m = .ok v.wording? m := by
  have read : (getProperty (.object r) key).run apply m = .ok v m :=
    Heap.run_getProperty_of_found? hm found
  simp only [readableText, attempt, catchThrown, Computation.run_sequel, Computation.run_bind, read]
  cases v with
  | undefined | null | string t => rfl
  | _ => cases wording

/-- The document of an error whose name and message are texts. -/
theorem Scene.tells_dumpError {name message : Value}
    (named : g.heap.found? (g.heap.objects.size + 1) r "name" = some name)
    (spelled : name.isWording = true)
    (worded : g.heap.found? (g.heap.objects.size + 1) r "message" = some message)
    (told : message.isWording = true) (p : Payment) :
    g.Tells (dumpError (.object r) p)
      (.obj [("message", .ofOption message.wording?), ("name", .ofOption name.wording?)], p) := by
  intro m hm
  rw [dumpError, Walker.run_bind, run_errorName_of_found? hm named spelled]
  dsimp only
  rw [Walker.run_bind, Walker.run_ofScript, run_readableText_of_found? hm worded told]
  rfl

end Errors

/-! ### Reading -/

namespace Scene

variable {left : Machine → Machine → Prop}

theorem behind_of_direct (direct : (g.heap.object r).isProxy = false) :
    g.behind r = g.heap.object r :=
  Heap.unwrap_of_direct direct _

theorem tells_of_data {key : Key} {p : Property} {v : Value}
    (direct : (g.heap.object r).isProxy = false)
    (own : g.heap.own? (g.heap.object r) key = some p) (data : p.content = .data v) :
    g.Tells (getOf r key) v := by
  intro m hm
  rw [Heap.run_getOf g.apply hm direct own, readContent, data]
  rfl

theorem tells_item {i : Nat} {v : Value} {a : Attributes}
    (item : (g.heap.object r).elements[i]? = some (some ⟨.data v, a⟩)) :
    g.Tells (readItem r i) v := by
  intro m hm
  simp only [readItem, Computation.run_bind, Computation.run_readObject, Object.elements_frame, hm,
    item]
  rfl

theorem calls_of_function {c : Callable} (kind : (g.heap.object r).kind = .function c) :
    g.calls (.object r) = true := by
  have direct : (g.heap.object r).isProxy = false := by rw [Object.isProxy, kind]
  rw [calls, behind_of_direct direct, Object.callable?, kind]
  rfl

/-- An inert object can be called, or reading it changes nothing. -/
theorem calm_of_inert (inert : g.heap.Inert r) (passive : g.calls (.object r) = false) :
    g.Calm left r := by
  cases inert with
  | function kind => cases (calls_of_function kind).symm.trans passive
  | array kind short full =>
    have behind := behind_of_direct (Object.isProxy_of_array kind)
    have isArray : (g.behind r).isArray = true := by rw [behind, Object.isArray, kind]
    have counts : g.Tells (lengthOf (.object r)) _ :=
      fun m hm => Heap.run_lengthOf_array kind short g.apply hm
    have off {P : Prop} (notArray : (g.behind r).isArray = false) : P :=
      absurd isArray (Bool.not_eq_true _ ▸ notArray)
    refine ⟨fun _ => .inl ⟨_, counts⟩, fun _ n told i inside => ?_, off, off, off⟩
    obtain rfl := counts.unique told
    obtain ⟨v, a, item⟩ := full i inside
    exact .inl ⟨v, tells_item item⟩
  | error kind named spelled worded told =>
    have direct : (g.heap.object r).isProxy = false := by rw [Object.isProxy, kind]
    have notArray : (g.behind r).isArray = false := by
      rw [behind_of_direct direct, Object.isArray, kind]
    have isError : (g.heap.object r).isError = true := by rw [Object.isError, kind]
    have off {P : Prop} (isArray : (g.behind r).isArray = true) : P :=
      absurd isArray (Bool.not_eq_true _ ▸ notArray)
    have off' {P : Prop} (notError : (g.heap.object r).isError = false) : P :=
      absurd isError (Bool.not_eq_true _ ▸ notError)
    exact ⟨off, off, fun _ _ => .inl ⟨_, tells_dumpError named spelled worded told⟩, fun _ => off',
      fun _ => off'⟩
  | record direct notArray notError data =>
    rw [← behind_of_direct direct] at notArray
    have lists : g.Tells (shownKeysOf r) _ := fun m hm => Heap.run_shownKeysOf g.apply hm direct
    have off {P : Prop} (isArray : (g.behind r).isArray = true) : P :=
      absurd isArray (Bool.not_eq_true _ ▸ notArray)
    have off' {P : Prop} (isError : (g.heap.object r).isError = true) : P :=
      absurd isError (Bool.not_eq_true _ ▸ notError)
    refine ⟨off, off, fun _ => off', fun _ _ => .inl ⟨_, lists⟩, fun _ _ keys told key listed => ?_⟩
    obtain rfl := lists.unique told
    obtain ⟨p, own, _⟩ := (Option.any_eq_true ..).mp (List.mem_filter.mp listed).2
    obtain ⟨v, content, -⟩ := data key p own
    exact .inl ⟨v, tells_of_data direct own content⟩

/-- An edge from an inert object to another object leads to what the object holds. -/
theorem Edge.held (inert : g.heap.Inert r) {q : Ref} (edge : g.Edge (.object r) (.object q)) :
    .object q ∈ (g.heap.object r).held := by
  cases inert with
  | function kind =>
    have calls := calls_of_function kind
    cases edge with
    | item passive | field passive => cases calls.symm.trans passive
  | array kind short full =>
    have direct := Object.isProxy_of_array kind
    cases edge with
    | field _ notArray => simp [behind_of_direct direct, Object.isArray, kind] at notArray
    | @item _ _ i _ _ _ counts inside reads =>
      obtain rfl := counts.unique fun m hm => Heap.run_lengthOf_array kind short g.apply hm
      obtain ⟨v, a, item⟩ := full i inside
      obtain rfl := (tells_item item).unique reads
      have mem := Array.mem_toList_iff.mpr (Array.mem_of_getElem? item)
      exact List.mem_append_left _ (List.mem_filterMap.mpr ⟨_, mem, rfl⟩)
  | error kind =>
    have direct : (g.heap.object r).isProxy = false := by rw [Object.isProxy, kind]
    cases edge with
    | item _ array => simp [behind_of_direct direct, Object.isArray, kind] at array
    | field _ _ notError => simp [Object.isError, kind] at notError
  | record direct notArray _ data =>
    cases edge with
    | item _ array =>
      rw [behind_of_direct direct, notArray] at array
      cases array
    | field _ _ _ lists listed reads =>
      obtain rfl := lists.unique fun m hm => Heap.run_shownKeysOf g.apply hm direct
      obtain ⟨p, own, _⟩ := (Option.any_eq_true ..).mp (List.mem_filter.mp listed).2
      obtain ⟨v, content, held⟩ := data _ p own
      obtain rfl := (tells_of_data direct own content).unique reads
      exact held q rfl

end Scene

end Objects

/-! ### A check for values -/

namespace Heap

section Checks

variable (h : Heap)

/-- The places that lie one step away from some others. -/
def heldBy (rs : List Ref) : List Ref := rs.flatMap fun r => (h.object r).held.filterMap Value.ref?

/-- What lies at some places is inert, and leads to no other place. -/
def isClosed (rs : List Ref) : Bool :=
  rs.all h.isInert && (h.heldBy rs).all fun r => rs.contains r

/-- In so many steps, all that some places lead to can be listed, and is inert. -/
def keepsFrom : Nat → List Ref → Bool
  | 0, rs => h.isClosed rs
  | steps + 1, rs =>
    h.isClosed rs || keepsFrom steps (rs ++ (h.heldBy rs).filter fun r => !rs.contains r)

/-- All that the values lead to is inert. -/
def keepsData (vs : List Value) : Bool := h.keepsFrom h.objects.size (vs.filterMap Value.ref?)

end Checks

variable {h : Heap} {rs : List Ref}

/-- All that some places lead to is a closed row, if it can be listed.  The induction is on the
steps. -/
theorem exists_isClosed {steps : Nat} (keeps : h.keepsFrom steps rs = true) :
    ∃ rs', (∀ r ∈ rs, r ∈ rs') ∧ h.isClosed rs' = true := by
  induction steps generalizing rs with
  | zero => exact ⟨rs, fun _ => id, keeps⟩
  | succ steps ih =>
    rcases (Bool.or_eq_true ..).mp keeps with closed | keeps
    · exact ⟨rs, fun _ => id, closed⟩
    · obtain ⟨rs', more, closed⟩ := ih keeps
      exact ⟨rs', fun r hr => more r (List.mem_append_left _ hr), closed⟩

/-- Where all that some places lead to lies at these places, nothing else is reached from there. -/
theorem mem_of_reached {g : Scene} {v w : Value} (closed : g.heap.isClosed rs = true)
    (reached : Relation.ReflTransGen g.Edge v w) (start : ∀ r, v = .object r → r ∈ rs) (r : Ref)
    (hw : w = .object r) : r ∈ rs := by
  simp only [isClosed, Bool.and_eq_true, List.all_eq_true, List.contains_iff_mem] at closed
  induction reached generalizing r with
  | refl => exact start r hw
  | @tail u _ _ edge ih =>
    subst hw
    -- only objects have edges, and the last one lies inside by induction
    obtain ⟨q, rfl⟩ : ∃ q, u = .object q := by
      cases edge with
      | item | field => exact ⟨_, rfl⟩
    have inside := ih q rfl
    have held := edge.held (inert_of_isInert (closed.1 q inside))
    exact closed.2 r (List.mem_flatMap.mpr ⟨q, inside, List.mem_filterMap.mpr ⟨_, held, rfl⟩⟩)

end Heap

namespace Scene

variable {g : Scene} {left : Machine → Machine → Prop}

/-- Where all that lies at some places is inert and leads to no other place, the values that lead
there are read without changing anything, however functions are called. -/
theorem steady_of_isClosed {rs : List Ref} (closed : g.heap.isClosed rs = true) {v : Value}
    (start : ∀ r, v = .object r → r ∈ rs) : g.Steady left v := by
  intro r reached passive
  have inside : r ∈ rs := Heap.mem_of_reached closed reached start r rfl
  simp only [Heap.isClosed, Bool.and_eq_true, List.all_eq_true] at closed
  exact calm_of_inert (Heap.inert_of_isInert (closed.1 r inside)) passive

/-- So are values that pass the check. -/
theorem steady_of_keepsData {vs : List Value} (keeps : g.heap.keepsData vs = true) {v : Value}
    (hv : v ∈ vs) : g.Steady left v := by
  obtain ⟨rs, covers, closed⟩ := Heap.exists_isClosed keeps
  refine steady_of_isClosed closed fun r hr => covers r ?_
  exact List.mem_filterMap.mpr ⟨v, hv, by rw [hr]; rfl⟩

end Scene

end ScriptHost
