import ScriptHost.Proofs.Documents

/-!
# Records read field by field

* `Json.said`, `Json.said_eq_said_iff`: the fields of an object that hold anything but null, and when
  two objects have the same ones;
* `Decoder.Refuses`: what a decoder says about an object with a field that does not belong there;
* `Decoder.entries_eq_ok_iff`: which fields are read as a list of entries;
* `Decoder.Slots`: a strict record, each of whose fields is read into a place of its own;
* `Decoder.Slots.fillFields_eq_ok_iff`: which fields are read as which record, told place by place.
-/

namespace ScriptHost

namespace Json

/-! ### Fields in order -/

section Fields

variable {fields fields' : List (String × Json)} {key : String} {j : Json}

/-- Where no two fields share a key, what stands under a key is what is found there. -/
theorem mem_iff_lookup? (distinct : fields.Pairwise fun f g => f.1 ≠ g.1) :
    (key, j) ∈ fields ↔ lookup? key fields = some j := by
  induction fields with
  | nil => simp [lookup?]
  | cons f rest ih =>
    obtain ⟨k, v⟩ := f
    obtain ⟨apart, distinct⟩ := List.pairwise_cons.1 distinct
    rw [lookup?, List.mem_cons]
    by_cases here : k = key
    · subst here
      have later : (k, j) ∉ rest := fun hj => apart _ hj rfl
      rw [if_pos rfl, or_iff_left later]
      simp [eq_comm]
    · rw [if_neg here, ← ih distinct, or_iff_right fun same => here (Prod.mk.inj same).1.symm]

theorem lookup?_eq_none_iff : lookup? key fields = none ↔ ∀ f ∈ fields, f.1 ≠ key := by
  induction fields with
  | nil => simp [lookup?]
  | cons f rest ih =>
    obtain ⟨k, v⟩ := f
    rw [lookup?, List.forall_mem_cons]
    by_cases here : k = key
    · simp [here]
    · rw [if_neg here, ih, and_iff_right here]

theorem sorted_obj_iff :
    (obj fields).Sorted = true ↔ keysIncreasing fields = true ∧ ∀ f ∈ fields, f.2.Sorted = true := by
  have each : ∀ fs : List (String × Json),
      sortedFields fs = true ↔ ∀ f ∈ fs, f.2.Sorted = true := by
    intro fs
    induction fs with
    | nil => simp [sortedFields]
    | cons f rest ih => rw [sortedFields, Bool.and_eq_true, ih, List.forall_mem_cons]
  rw [Sorted, Bool.and_eq_true, each]

end Fields

/-! ### Fields that are not null -/

def isNull : Json → Bool
  | .null => true
  | _ => false

/-- The fields that hold anything but null. -/
def said (fields : List (String × Json)) : List (String × Json) := fields.filter fun f => !f.2.isNull

section Said

variable {fields fields' : List (String × Json)} {key : String} {j : Json}

theorem isNull_iff : j.isNull = true ↔ j = .null := by cases j <;> simp [isNull]

theorem mem_said_iff (distinct : fields.Pairwise fun f g => f.1 ≠ g.1) :
    (key, j) ∈ said fields ↔ (lookup? key fields).getD .null = j ∧ j ≠ .null := by
  rw [said, List.mem_filter, mem_iff_lookup? distinct, Bool.not_eq_true', ← Bool.not_eq_true,
    isNull_iff]
  refine and_congr_left fun some => ?_
  cases lookup? key fields with
  | none => simpa using Ne.symm some
  | some v => simp

/-- Two objects hold the same apart from null just if the same is found under each key, where
nothing is as good as null. -/
theorem said_eq_said_iff (increasing : keysIncreasing fields = true)
    (increasing' : keysIncreasing fields' = true) :
    said fields = said fields' ↔
      ∀ key, (lookup? key fields).getD .null = (lookup? key fields').getD .null := by
  have found (key : String) (j : Json) :
      (key, j) ∈ said fields ↔ (lookup? key fields).getD .null = j ∧ j ≠ .null :=
    mem_said_iff (distinct_of_increasing increasing)
  have found' (key : String) (j : Json) :
      (key, j) ∈ said fields' ↔ (lookup? key fields').getD .null = j ∧ j ≠ .null :=
    mem_said_iff (distinct_of_increasing increasing')
  constructor
  · intro same key
    by_cases null : (lookup? key fields).getD .null = .null
    · rw [null]
      refine Classical.byContradiction fun something => ?_
      -- what is found in the second object only would have to stand in the first one
      have there := (found' key _).2 ⟨rfl, Ne.symm something⟩
      rw [← same] at there
      exact something (null.symm.trans ((found key _).1 there).1)
    · have here := (found key _).2 ⟨rfl, null⟩
      rw [same] at here
      exact ((found' key _).1 here).1.symm
  · intro same
    have ordered {fs : List (String × Json)} (h : keysIncreasing fs = true) :
        keysIncreasing (said fs) = true :=
      keysIncreasing_iff.2 ((keysIncreasing_iff.1 h).filter _)
    have nodup {fs : List (String × Json)} (h : keysIncreasing fs = true) : (said fs).Nodup :=
      (distinct_of_increasing (ordered h)).imp fun apart eq => apart (congrArg Prod.fst eq)
    refine eq_of_perm (ordered increasing) (ordered increasing')
      ((List.perm_ext_iff_of_nodup (nodup increasing) (nodup increasing')).2 fun f => ?_)
    rw [found f.1 f.2, found' f.1 f.2, same]

end Said

end Json

namespace Decoder

/-! ### Numbers -/

theorem unsigned_eq_ok_iff (width : Nat) (name : String) (j : Json) (n : Nat) :
    unsigned width name j = .ok n ↔ j = .nat n ∧ n < twoTo width := by
  constructor
  · intro read
    unfold unsigned at read
    split at read
    · next i =>
      split at read
      · next bounds =>
        cases read
        simp only [Bool.and_eq_true, decide_eq_true_iff] at bounds
        exact ⟨congrArg Json.int (Int.toNat_of_nonneg bounds.1).symm, by omega⟩
      · cases read
    · cases read
  · rintro ⟨rfl, small⟩
    have bounds : (0 ≤ (n : Int) && (n : Int) < twoTo width) = true := by
      simp only [Bool.and_eq_true, decide_eq_true_iff]
      omega
    rw [Json.nat, unsigned, if_pos bounds, Int.toNat_natCast]

/-! ### Keys that are refused -/

section Refusals

variable {α β : Type}

/-- The second of two objects is refused, and if nothing is wrong with the first one the complaint
is this. -/
def Refuses (d : Decoder α) (fields fields' : List (String × Json)) (e : DecodeError) : Prop :=
  (∃ e', d (.obj fields') = .error e') ∧ ∀ a, d (.obj fields) = .ok a → d (.obj fields') = .error e

/-- Where objects are read from the first field to the last, what is refused at the end of an object
is refused after whatever stands before. -/
theorem refuses_append {d : Decoder α} {first : List (String × Json) → Except DecodeError β}
    (next : β → Decoder α)
    (append : ∀ before after, d (.obj (before ++ after)) =
      (first before).bind fun b => next b (.obj after))
    {fields fields' : List (String × Json)} {e : DecodeError}
    (refused : ∀ b, Refuses (next b) fields fields' e) (before : List (String × Json)) :
    Refuses d (before ++ fields) (before ++ fields') e := by
  unfold Refuses
  rw [append, append]
  cases first before with
  | error e' => exact ⟨⟨e', rfl⟩, fun _ h => nomatch h⟩
  | ok b => exact refused b

theorem refuses_of_eq_error {d : Decoder α} {fields' : List (String × Json)} {e : DecodeError}
    (failed : d (.obj fields') = .error e) (fields : List (String × Json)) :
    Refuses d fields fields' e :=
  ⟨⟨e, failed⟩, fun _ _ => failed⟩

theorem Refuses.map {d : Decoder α} {fields fields' : List (String × Json)} {e : DecodeError}
    (refused : Refuses d fields fields' e) (f : α → β) :
    Refuses (fun j => (d j).map f) fields fields' e := by
  obtain ⟨⟨e', failed⟩, named⟩ := refused
  refine ⟨⟨e', ?_⟩, fun b read => ?_⟩
  · show (d _).map f = _
    rw [failed]
    rfl
  · change (d _).map f = _ at read
    show (d _).map f = _
    cases first : d (.obj fields) with
    | error _ =>
      rw [first] at read
      cases read
    | ok a =>
      rw [named a first]
      rfl

end Refusals

/-! ### Maps -/

section Maps

variable {α β : Type} {key : String → Except Mismatch α} {value : Decoder β}

theorem entries_cons_eq_ok_iff {k : String} {j : Json} {rest : List (String × Json)}
    {es : List (α × β)} :
    entries key value ((k, j) :: rest) = .ok es ↔
      ∃ a b more, es = (a, b) :: more ∧ key k = .ok a ∧ value j = .ok b ∧
        entries key value rest = .ok more := by
  rw [entries]
  cases key k with
  | error m => simp
  | ok a =>
    rw [inside]
    cases value j with
    | error e => simp [bind, Except.bind]
    | ok b =>
      cases entries key value rest with
      | error e => simp [bind, Except.bind]
      | ok more =>
        constructor
        · rintro ⟨⟩
          exact ⟨a, b, more, rfl, rfl, rfl, rfl⟩
        · rintro ⟨_, _, _, rfl, ⟨⟩, ⟨⟩, ⟨⟩⟩
          rfl

/-- If single entries are read as what they are written from, so are all entries together. -/
theorem entries_eq_ok_iff {write : α × β → String × Json}
    (single : ∀ a b k j, key k = .ok a ∧ value j = .ok b ↔ write (a, b) = (k, j))
    {fields : List (String × Json)} {es : List (α × β)} :
    entries key value fields = .ok es ↔ es.map write = fields := by
  induction fields generalizing es with
  | nil => simp [entries, eq_comm]
  | cons f rest ih =>
    obtain ⟨k, j⟩ := f
    rw [entries_cons_eq_ok_iff, List.map_eq_cons_iff]
    constructor
    · rintro ⟨a, b, more, rfl, hk, hj, later⟩
      exact ⟨(a, b), more, rfl, (single a b k j).1 ⟨hk, hj⟩, ih.1 later⟩
    · rintro ⟨⟨a, b⟩, more, rfl, here, later⟩
      obtain ⟨hk, hj⟩ := (single a b k j).2 here
      exact ⟨a, b, more, rfl, hk, hj, ih.2 later⟩

theorem entries_append (before after : List (String × Json)) :
    entries key value (before ++ after) =
      (entries key value before).bind fun es => (entries key value after).map (es ++ ·) := by
  induction before with
  | nil =>
    show entries key value after = (entries key value after).map ([] ++ ·)
    cases entries key value after <;> rfl
  | cons f before ih =>
    obtain ⟨k, j⟩ := f
    rw [List.cons_append, entries, entries]
    cases key k with
    | error m => rfl
    | ok a =>
      dsimp only
      rw [ih]
      cases inside (.field k) value j with
      | error e => rfl
      | ok b =>
        cases entries key value before with
        | error e => rfl
        | ok es => cases entries key value after <;> rfl

/-- A map refuses a key that is none of its own. -/
theorem mapping_refuses {k : String} {m : Mismatch} (unknown : key k = .error m)
    (before : List (String × Json)) (j : Json) (after : List (String × Json)) :
    Refuses (mapping key value) (before ++ after) (before ++ (k, j) :: after) (.ofKey k m) := by
  refine refuses_append (fun es j => (mapping key value j).map (es ++ ·)) entries_append
    (fun es => ?_) before
  refine (refuses_of_eq_error ?_ after).map (es ++ ·)
  rw [mapping, entries, unknown]

end Maps

/-! ### Strict records -/

section Records

variable {α : Type} {shape : Shape} {fill : String → α → Decoder α}

theorem record_obj (a : α) (fields : List (String × Json)) :
    record shape fill a (.obj fields) = fillFields shape fill a fields := rfl

theorem fillFields_append (a : α) (before after : List (String × Json)) :
    fillFields shape fill a (before ++ after) =
      (fillFields shape fill a before).bind fun b => fillFields shape fill b after := by
  induction before generalizing a with
  | nil => rfl
  | cons f before ih =>
    obtain ⟨k, j⟩ := f
    rw [List.cons_append, fillFields, fillFields]
    split
    · cases inside (.field k) (fill k a) j with
      | error e => rfl
      | ok b => exact ih b
    · split
      · exact ih a
      · rfl

theorem fillFields_cons_unknown (strict : shape.lenient = false) {k : String}
    (unknown : k ∉ shape.fields) (a : α) (j : Json) (rest : List (String × Json)) :
    fillFields shape fill a ((k, j) :: rest) = .error (.ofKey k (.unknownField k shape.fields)) := by
  rw [fillFields, if_neg (by simpa using unknown), if_neg (by simp [strict])]

/-- A strict record refuses a key that it does not have. -/
theorem record_refuses (strict : shape.lenient = false) {k : String} (unknown : k ∉ shape.fields)
    (a : α) (before : List (String × Json)) (j : Json) (after : List (String × Json)) :
    Refuses (record shape fill a) (before ++ after) (before ++ (k, j) :: after)
      (.ofKey k (.unknownField k shape.fields)) := by
  refine refuses_append (record shape fill) (fillFields_append a) (fun b => ?_) before
  refine refuses_of_eq_error ?_ after
  rw [record_obj, fillFields_cons_unknown strict unknown]

/-- A record whose fields are read into places of their own: what is read under one name shows at
the place of that name, and nowhere else. -/
structure Slots (shape : Shape) (fill : String → α → Decoder α) where
  Slot : Type
  name : Slot → String
  Value : Slot → Type
  read : (s : Slot) → Decoder (Value s)
  get : (s : Slot) → α → Value s
  put : (s : Slot) → Value s → α → α
  strict : shape.lenient = false
  mem_fields_iff : ∀ k, k ∈ shape.fields ↔ ∃ s, name s = k
  name_inj : ∀ s t, name s = name t → s = t
  fill_name : ∀ s a j, fill (name s) a j = (read s j).map fun v => put s v a
  get_put : ∀ s v a, get s (put s v a) = v
  get_put_of_ne : ∀ s t v a, t ≠ s → get t (put s v a) = get t a
  ext : ∀ a b, (∀ s, get s a = get s b) → a = b

namespace Slots

variable (slots : Slots shape fill)

theorem fillFields_cons (s : slots.Slot) (a : α) (j : Json) (rest : List (String × Json)) :
    fillFields shape fill a ((slots.name s, j) :: rest) =
      (inside (.field (slots.name s)) (slots.read s) j).bind fun v =>
        fillFields shape fill (slots.put s v a) rest := by
  have known : slots.name s ∈ shape.fields := (slots.mem_fields_iff _).2 ⟨s, rfl⟩
  rw [fillFields, if_pos (by simpa using known), inside, slots.fill_name, inside]
  cases slots.read s j <;> rfl

/-- What is refused inside a field of a record is refused there by the whole record. -/
theorem record_refuses_inside {s : slots.Slot} {inner inner' : List (String × Json)} {e : DecodeError}
    (refused : Refuses (slots.read s) inner inner' e) (a : α) (before after : List (String × Json)) :
    Refuses (record shape fill a) (before ++ (slots.name s, .obj inner) :: after)
      (before ++ (slots.name s, .obj inner') :: after) (e.within (.field (slots.name s))) := by
  obtain ⟨⟨e', failed⟩, named⟩ := refused
  refine refuses_append (record shape fill) (fillFields_append a) (fun b => ?_) before
  unfold Refuses
  rw [record_obj, record_obj, slots.fillFields_cons, slots.fillFields_cons, inside, inside, failed]
  refine ⟨⟨_, rfl⟩, fun c read => ?_⟩
  cases first : slots.read s (.obj inner) with
  | error _ =>
    rw [first] at read
    cases read
  | ok v =>
    cases failed.symm.trans (named v first)
    rfl

/-- What the fields of an object make of a place: what stands under its name is read as what the
place then holds, and where nothing stands it holds what it held. -/
def Makes (fields : List (String × Json)) (a b : α) (s : slots.Slot) : Prop :=
  match Json.lookup? (slots.name s) fields with
  | some j => slots.read s j = .ok (slots.get s b)
  | none => slots.get s b = slots.get s a

theorem makes_iff_of_found {fields : List (String × Json)} {s : slots.Slot} {j : Json}
    (found : Json.lookup? (slots.name s) fields = some j) (a b : α) :
    slots.Makes fields a b s ↔ slots.read s j = .ok (slots.get s b) := by
  rw [Makes, found]

theorem makes_iff_of_absent {fields : List (String × Json)} {s : slots.Slot}
    (absent : Json.lookup? (slots.name s) fields = none) (a b : α) :
    slots.Makes fields a b s ↔ slots.get s b = slots.get s a := by
  rw [Makes, absent]

/-- One field more is read into its own place, and the others are as the rest makes them. -/
theorem makes_cons_iff {rest : List (String × Json)} {s : slots.Slot} {j : Json}
    {v : slots.Value s} (readable : slots.read s j = .ok v)
    (apart : ∀ f ∈ rest, slots.name s ≠ f.1) (a b : α) (t : slots.Slot) :
    slots.Makes ((slots.name s, j) :: rest) a b t ↔ slots.Makes rest (slots.put s v a) b t := by
  by_cases here : t = s
  · subst here
    have found : Json.lookup? (slots.name t) ((slots.name t, j) :: rest) = some j := if_pos rfl
    have absent := Json.lookup?_eq_none_iff.2 fun f hf => (apart f hf).symm
    rw [slots.makes_iff_of_found found, slots.makes_iff_of_absent absent, readable, slots.get_put,
      Except.ok.injEq]
    exact eq_comm
  · unfold Makes
    rw [Json.lookup?, if_neg fun same => here (slots.name_inj _ _ same).symm,
      slots.get_put_of_ne s t v a here]

/-- An object is read as a record just if the record has all its keys, and each place holds what
stands under its name. -/
theorem fillFields_eq_ok_iff {fields : List (String × Json)}
    (distinct : fields.Pairwise fun f g => f.1 ≠ g.1) (a b : α) :
    fillFields shape fill a fields = .ok b ↔
      (∀ f ∈ fields, f.1 ∈ shape.fields) ∧ ∀ s, slots.Makes fields a b s := by
  induction fields generalizing a with
  | nil =>
    have same : a = b ↔ ∀ s, slots.get s b = slots.get s a :=
      ⟨fun same s => by rw [same], fun same => slots.ext a b fun s => (same s).symm⟩
    simpa [fillFields, Makes, Json.lookup?] using same
  | cons f rest ih =>
    obtain ⟨k, j⟩ := f
    obtain ⟨apart, later⟩ := List.pairwise_cons.1 distinct
    rw [List.forall_mem_cons]
    by_cases known : k ∈ shape.fields
    · obtain ⟨s, rfl⟩ := (slots.mem_fields_iff k).1 known
      rw [slots.fillFields_cons, inside]
      cases readable : slots.read s j with
      | error e =>
        -- the place of this field would have to hold what cannot be read
        refine iff_of_false (fun h => nomatch h) fun ⟨_, makes⟩ => ?_
        have found : Json.lookup? (slots.name s) ((slots.name s, j) :: rest) = some j := if_pos rfl
        cases readable.symm.trans ((slots.makes_iff_of_found found a b).1 (makes s))
      | ok v =>
        rw [and_iff_right known, forall_congr' (slots.makes_cons_iff readable apart a b)]
        exact ih later (slots.put s v a)
    · refine iff_of_false (fun h => ?_) fun ⟨⟨isKnown, _⟩, _⟩ => known isKnown
      cases (fillFields_cons_unknown slots.strict known a j rest).symm.trans h

end Slots

end Records

end Decoder

end ScriptHost
