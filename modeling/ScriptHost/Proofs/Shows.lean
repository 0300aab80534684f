import Mathlib.Data.List.Perm.Basic
import ScriptHost.Proofs.Documents
import ScriptHost.Proofs.Reading

/-!
# Values that show documents

* `Heap.Shows`: whether the objects of a value have the form of a document;
* `Heap.Keeps`, `Heap.Shows.keeps`: it has that form wherever these objects are the same;
* `Heap.run_readItem`, `Heap.run_lengthOf_array`: what a walk reads of a list.
-/

namespace ScriptHost

/-! ### The order of keys -/

namespace Key

theorem insertIndex_perm (n : Nat) (key : Key) (entries : List (Nat × Key)) :
    (insertIndex n key entries).Perm ((n, key) :: entries) := by
  induction entries with
  | nil => exact .refl _
  | cons e rest ih =>
    obtain ⟨m, k⟩ := e
    unfold insertIndex
    split
    · exact .refl _
    · exact (ih.cons _).trans (.swap ..)

/-- Indices are put in another order, and none gets lost. -/
theorem indices_perm (keys : List Key) (acc : List (Nat × Key)) :
    ((keys.foldl (fun acc k =>
      match k.index? with
      | some n => insertIndex n k acc
      | none => acc) acc).map Prod.snd).Perm
        (keys.filter (fun k => k.index?.isSome) ++ acc.map Prod.snd) := by
  induction keys generalizing acc with
  | nil => exact .refl _
  | cons k rest ih =>
    refine (ih _).trans ?_
    cases hk : k.index? with
    | none => simp [hk]
    | some n =>
      have inserted := (insertIndex_perm n k acc).map Prod.snd
      simpa [hk] using (inserted.append_left _).trans List.perm_middle

/-- Texts are listed in some order. -/
theorem arrange_perm {keys : List Key} (texts : ∀ k ∈ keys, k.isText = true) :
    (arrange keys).Perm keys := by
  have others : keys.filter (fun k => k.isText && k.index?.isNone) =
      keys.filter fun k => !k.index?.isSome :=
    List.filter_congr fun k hk => by rw [texts k hk, Bool.true_and, Option.not_isSome]
  have symbols : keys.filter (fun k => !k.isText) = [] :=
    List.filter_eq_nil_iff.2 fun k hk => by rw [texts k hk]; exact Bool.noConfusion
  have indices := indices_perm keys []
  rw [List.map_nil, List.append_nil] at indices
  rw [arrange, symbols, List.append_nil, others]
  exact (indices.append_right _).trans (List.filter_append_perm _ _)

end Key

/-! ### Values in the form of documents -/

/-- A list without holes. -/
def listObject (items : List Value) : Object where
  kind := .array items.length false
  prototype := some Family.array.prototype
  elements := (items.map fun v => some (Property.plain v)).toArray

/-- An object with properties like those that assignments make. -/
def recordObject (fields : List (String × Value)) : Object where
  kind := .plain
  prototype := some Family.object.prototype
  properties := fields.map fun f => (Key.named f.1, .plain f.2)

theorem Key.named_injective {a b : String} (h : Key.named a = Key.named b) : a = b := by
  injection h with h
  injection h

theorem lookup_of_mem {α β : Type} [BEq α] [LawfulBEq α] {ps : List (α × β)} {e : α × β}
    (distinct : ps.Pairwise fun a b => a.1 ≠ b.1) (he : e ∈ ps) : ps.lookup e.1 = some e.2 := by
  obtain ⟨before, after, rfl⟩ := List.append_of_mem he
  refine List.lookup_eq_some_iff.2 ⟨before, after, rfl, fun f hf => ?_⟩
  have other := (List.pairwise_append.1 distinct).2.2 f hf e (List.mem_cons_self ..)
  exact bne_iff_ne.2 (Ne.symm other)

namespace Heap

/-- A value that has the form of a document, whose objects all lie from a place of the heap on. -/
inductive Shows (h : Heap) (start : Nat) : Value → Json → Prop
  | null : Shows h start .null .null
  | bool (b : Bool) : Shows h start (.bool b) (.bool b)
  | int (n : Int) : Shows h start (.number (.ofInt n)) (.int n)
  | double (d : Double) : Shows h start (.number d) (.double d)
  | str (s : String) : Shows h start (.ofString s) (.str s)
  | arr {r : Nat} {rows : List (Value × Json)} (after : start ≤ r) (inside : r < h.objects.size)
    (object : h.object r = listObject (rows.map Prod.fst))
    (items : ∀ e ∈ rows, Shows h start e.1 e.2) :
    Shows h start (.object r) (.arr (rows.map Prod.snd))
  | obj {r : Nat} {rows : List (String × Value × Json)} (after : start ≤ r)
    (inside : r < h.objects.size)
    (object : h.object r = recordObject (rows.map fun e => (e.1, e.2.1)))
    (fields : ∀ e ∈ rows, Shows h start e.2.1 e.2.2) :
    Shows h start (.object r) (.obj (rows.map fun e => (e.1, e.2.2)))

/-- From a place on, the objects of a heap are there on another heap, too. -/
structure Keeps (start : Nat) (h h' : Heap) : Prop where
  size : h.objects.size ≤ h'.objects.size
  object : ∀ r : Nat, start ≤ r → r < h.objects.size → h'.object r = h.object r

variable {h h' h'' : Heap} {start start' : Nat} {v : Value} {j : Json}

namespace Keeps

theorem refl : Keeps start h h := ⟨Nat.le_refl _, fun _ _ _ => rfl⟩

theorem trans (first : Keeps start h h') (second : Keeps start h' h'') : Keeps start h h'' where
  size := Nat.le_trans first.size second.size
  object r after inside :=
    (second.object r after (Nat.lt_of_lt_of_le inside first.size)).trans
      (first.object r after inside)

theorem later (kept : Keeps start h h') (after : start ≤ start') : Keeps start' h h' where
  size := kept.size
  object r hr inside := kept.object r (Nat.le_trans after hr) inside

theorem allocate (o : Object) : Keeps start h (h.allocate o).2 where
  size := by
    rw [h.size_allocate]
    exact Nat.le_succ _
  object _ _ inside := h.object_allocate_of_lt inside o

/-- A change of an object before the place does not matter. -/
theorem modify {r : Nat} (before : r < start) (f : Object → Object) :
    Keeps start h (h.modify r f) where
  size := Nat.le_of_eq (h.size_modify r f).symm
  object _ after _ := h.object_modify_of_ne (Nat.ne_of_gt (Nat.lt_of_lt_of_le before after)) f

end Keeps

/-- A value keeps its form as long as its objects stay. -/
theorem Shows.keeps (shows : h.Shows start v j) (kept : Keeps start h h') : h'.Shows start v j := by
  induction shows with
  | null => exact .null
  | bool b => exact .bool b
  | int n => exact .int n
  | double d => exact .double d
  | str s => exact .str s
  | arr after inside object _ ih =>
    exact .arr after (Nat.lt_of_lt_of_le inside kept.size)
      ((kept.object _ after inside).trans object) ih
  | obj after inside object _ ih =>
    exact .obj after (Nat.lt_of_lt_of_le inside kept.size)
      ((kept.object _ after inside).trans object) ih

theorem Shows.earlier (shows : h.Shows start v j) (before : start' ≤ start) :
    h.Shows start' v j := by
  induction shows with
  | null => exact .null
  | bool b => exact .bool b
  | int n => exact .int n
  | double d => exact .double d
  | str s => exact .str s
  | arr after inside object _ ih => exact .arr (Nat.le_trans before after) inside object ih
  | obj after inside object _ ih => exact .obj (Nat.le_trans before after) inside object ih

/-! ### Lists -/

section Lists

variable {r : Nat}

theorem run_readItem {before : List Value} {w : Value} {rest : List Value}
    (object : h.object r = listObject (before ++ w :: rest)) (apply : Apply) {m : Machine}
    (hm : m.heap = h) : (readItem r before.length).run apply m = .ok w m := by
  have found : (listObject (before ++ w :: rest)).elements[before.length]? =
      some (some (.plain w)) := by
    simp [listObject]
  simp only [readItem, Computation.run_bind, Computation.run_readObject, Object.elements_frame, hm,
    object, found]
  rfl

/-- An array tells its length, whatever else is in it. -/
theorem run_lengthOf_array {length : Nat} {fixed : Bool}
    (array : (h.object r).kind = .array length fixed) (short : length ≤ maxLength) (apply : Apply)
    {m : Machine} (hm : m.heap = h) : (lengthOf (.object r)).run apply m = .ok length m := by
  have direct := Object.isProxy_of_array array
  have own : h.own? (h.object r) (Key.named "length") =
      some (.data (.ofNat length) ⟨!fixed, false, false⟩) := by
    simp only [own?, array, if_true]
  have clamped : ((Double.ofInt length).clampTo 0 maxLength).toNat = length := by
    rw [Double.clampTo_ofInt _ short (by decide), Int.toNat_natCast]
  simp only [lengthOf, toLength, toNumber, Computation.run_bind,
    run_getProperty apply hm direct own, readContent, Property.data, Computation.run_pure]
  exact congrArg (EStateM.Result.ok · m) clamped

theorem run_lengthOf_list {items : List Value} (object : h.object r = listObject items)
    (short : items.length ≤ maxLength) (apply : Apply) {m : Machine} (hm : m.heap = h) :
    (lengthOf (.object r)).run apply m = .ok items.length m :=
  run_lengthOf_array (congrArg Object.kind object) short apply hm

end Lists

end Heap

end ScriptHost
