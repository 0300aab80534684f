import ScriptHost.Conversion.Dump
import ScriptHost.Proofs.Numbers

/-!
# Documents and their nodes

* `Json.NodeAt`: which nodes lie how many levels below the root of a document;
* `Json.induct`: induction on documents;
* `Json.sortFields_of_perm`: fields that are inserted in any order come to stand in the order of
  their keys;
* `Json.norm`, `Json.norm_norm`: a document with its numbers as scripts hold them;
* `Json.walkCost`, `Json.walkCost_norm`: what a walk over the value of a document pays.
-/

namespace ScriptHost

namespace Json

/-! ### Nodes -/

/-- A node that lies so many levels below the root of a document. -/
inductive NodeAt : Json → Nat → Json → Prop
  | root (j : Json) : NodeAt j 0 j
  | item {items : List Json} {j k : Json} {n : Nat} (member : j ∈ items) (below : NodeAt j n k) :
    NodeAt (.arr items) (n + 1) k
  | field {fields : List (String × Json)} {f : String × Json} {k : Json} {n : Nat}
    (member : f ∈ fields) (below : NodeAt f.2 n k) : NodeAt (.obj fields) (n + 1) k

/-- Whether all nodes of a document are of some sort. -/
def Nodes (p : Json → Prop) (j : Json) : Prop := ∀ n k, j.NodeAt n k → p k

/-- Whether a document has no node below so many levels, the root being the first. -/
def Within (levels : Nat) (j : Json) : Prop := ∀ n k, j.NodeAt n k → n < levels

section Nodes

variable {p : Json → Prop} {j : Json} {items : List Json} {fields : List (String × Json)}

theorem Nodes.root (hj : j.Nodes p) : p j := hj 0 j (.root j)

theorem Nodes.item (hj : (arr items).Nodes p) (member : j ∈ items) : j.Nodes p :=
  fun _ _ below => hj _ _ (.item member below)

theorem Nodes.field (hj : (obj fields).Nodes p) {f : String × Json} (member : f ∈ fields) :
    f.2.Nodes p :=
  fun _ _ below => hj _ _ (.field member below)

theorem nodes_leaf (leaf : ∀ n k, j.NodeAt n k → k = j) (root : p j) : j.Nodes p :=
  fun n k below => leaf n k below ▸ root

theorem nodes_arr (root : p (.arr items)) (each : ∀ j ∈ items, j.Nodes p) : (arr items).Nodes p := by
  rintro n k (_ | ⟨member, below⟩)
  · exact root
  · exact each _ member _ k below

theorem nodes_obj (root : p (.obj fields)) (each : ∀ f ∈ fields, f.2.Nodes p) :
    (obj fields).Nodes p := by
  rintro n k (_ | _ | ⟨member, below⟩)
  · exact root
  · exact each _ member _ k below

theorem Within.pos {levels : Nat} (within : j.Within levels) : 0 < levels := within 0 j (.root j)

theorem not_within_zero : ¬ j.Within 0 := fun within => absurd within.pos (Nat.lt_irrefl 0)

theorem within_leaf (leaf : ∀ n k, j.NodeAt n k → n = 0) (levels : Nat) : j.Within (levels + 1) :=
  fun n k below => leaf n k below ▸ Nat.succ_pos _

theorem within_arr {levels : Nat} :
    (arr items).Within (levels + 1) ↔ ∀ j ∈ items, j.Within levels := by
  constructor
  · exact fun within j member n k below => Nat.lt_of_succ_lt_succ (within _ _ (.item member below))
  · rintro within n k (_ | ⟨member, below⟩)
    · exact Nat.succ_pos _
    · exact Nat.succ_lt_succ (within _ member _ _ below)

theorem within_obj {levels : Nat} :
    (obj fields).Within (levels + 1) ↔ ∀ f ∈ fields, f.2.Within levels := by
  constructor
  · exact fun within f member n k below => Nat.lt_of_succ_lt_succ (within _ _ (.field member below))
  · rintro within n k (_ | _ | ⟨member, below⟩)
    · exact Nat.succ_pos _
    · exact Nat.succ_lt_succ (within _ member _ _ below)

end Nodes

/-- Induction on documents: an array is reached from its items, and an object from its fields. -/
@[elab_as_elim]
theorem induct {motive : Json → Prop} (null : motive .null) (bool : ∀ b, motive (.bool b))
    (int : ∀ n, motive (.int n)) (double : ∀ d, motive (.double d)) (str : ∀ s, motive (.str s))
    (arr : ∀ items, (∀ j ∈ items, motive j) → motive (.arr items))
    (obj : ∀ fields, (∀ f ∈ fields, motive f.2) → motive (.obj fields)) (j : Json) : motive j :=
  Json.rec (motive_1 := motive) (motive_2 := fun items => ∀ j ∈ items, motive j)
    (motive_3 := fun fields => ∀ f ∈ fields, motive f.2) (motive_4 := fun f => motive f.2)
    null bool int double str (fun items h => arr items h) (fun fields h => obj fields h)
    (fun _ h => nomatch h)
    (fun _ _ first rest => List.forall_mem_cons.2 ⟨first, rest⟩) (fun _ h => nomatch h)
    (fun _ _ first rest => List.forall_mem_cons.2 ⟨first, rest⟩) (fun _ _ h => h) j

/-! ### Fields in order -/

section Order

variable {fields fields' : List (String × Json)} {key : String} {value : Json}

theorem keysIncreasing_iff :
    keysIncreasing fields = true ↔ fields.Pairwise fun a b => a.1 < b.1 := by
  induction fields with
  | nil => simp [keysIncreasing]
  | cons a rest ih =>
    obtain ⟨key, value⟩ := a
    cases rest with
    | nil => simp [keysIncreasing]
    | cons b rest =>
      obtain ⟨next, v⟩ := b
      simp only [keysIncreasing, Bool.and_eq_true, decide_eq_true_iff, ih]
      rw [List.pairwise_cons (a := (key, value))]
      refine ⟨fun ⟨less, increasing⟩ => ⟨?_, increasing⟩,
        fun ⟨least, increasing⟩ => ⟨least _ (List.mem_cons_self ..), increasing⟩⟩
      rintro f hf
      rcases List.mem_cons.1 hf with rfl | later
      · exact less
      · exact String.lt_trans less ((List.pairwise_cons.1 increasing).1 f later)

/-- A field of a new key is added to the others. -/
theorem insertField_perm (absent : ∀ f ∈ fields, f.1 ≠ key) :
    (insertField key value fields).Perm ((key, value) :: fields) := by
  induction fields with
  | nil => exact .refl _
  | cons f rest ih =>
    obtain ⟨k, v⟩ := f
    obtain ⟨other, absent⟩ := List.forall_mem_cons.1 absent
    unfold insertField
    split
    · exact .refl _
    · rw [if_neg (Ne.symm other)]
      exact ((ih absent).cons _).trans (.swap ..)

theorem mem_insertField {f : String × Json} (hf : f ∈ insertField key value fields) :
    f = (key, value) ∨ f ∈ fields := by
  induction fields with
  | nil => exact .inl (List.mem_singleton.1 hf)
  | cons g rest ih =>
    obtain ⟨k, v⟩ := g
    unfold insertField at hf
    split at hf
    · exact List.mem_cons.1 hf
    · split at hf
      · exact (List.mem_cons.1 hf).imp_right (List.mem_cons_of_mem _)
      · rcases List.mem_cons.1 hf with rfl | later
        · exact .inr (List.mem_cons_self ..)
        · exact (ih later).imp_right (List.mem_cons_of_mem _)

/-- Fields stay in the order of their keys, whether there was one of the new key or not. -/
theorem pairwise_insertField (increasing : fields.Pairwise fun a b => a.1 < b.1) :
    (insertField key value fields).Pairwise fun a b => a.1 < b.1 := by
  induction fields with
  | nil => exact List.pairwise_singleton _ _
  | cons g rest ih =>
    obtain ⟨k, v⟩ := g
    obtain ⟨least, later⟩ := List.pairwise_cons.1 increasing
    unfold insertField
    split
    · next less =>
      refine List.pairwise_cons.2 ⟨fun f hf => ?_, increasing⟩
      rcases List.mem_cons.1 hf with rfl | old
      · exact less
      · exact String.lt_trans less (least f old)
    · next notLess =>
      split
      · next same => exact List.pairwise_cons.2 ⟨same ▸ least, later⟩
      · next other =>
        refine List.pairwise_cons.2 ⟨fun f hf => ?_, ih later⟩
        rcases mem_insertField hf with rfl | old
        · exact Std.lt_of_le_of_ne (String.not_lt.1 notLess) (Ne.symm other)
        · exact least f old

/-- Fields with different keys are put in the order of these, and none gets lost. -/
theorem foldl_insertField (distinct : (fields ++ fields').Pairwise fun a b => a.1 ≠ b.1)
    (increasing : fields.Pairwise fun a b => a.1 < b.1) :
    (fields'.foldl (fun acc f => insertField f.1 f.2 acc) fields).Pairwise (fun a b => a.1 < b.1) ∧
      (fields'.foldl (fun acc f => insertField f.1 f.2 acc) fields).Perm (fields ++ fields') := by
  induction fields' generalizing fields with
  | nil => simpa using increasing
  | cons f rest ih =>
    have absent : ∀ g ∈ fields, g.1 ≠ f.1 := fun g hg =>
      (List.pairwise_append.1 distinct).2.2 g hg f (List.mem_cons_self ..)
    have perm : (insertField f.1 f.2 fields ++ rest).Perm (fields ++ f :: rest) :=
      ((insertField_perm absent).append_right rest).trans List.perm_middle.symm
    obtain ⟨sorted, kept⟩ := ih (distinct.perm perm.symm Ne.symm)
      (pairwise_insertField increasing)
    exact ⟨sorted, kept.trans perm⟩

theorem distinct_of_increasing (increasing : keysIncreasing fields = true) :
    fields.Pairwise fun a b => a.1 ≠ b.1 :=
  (keysIncreasing_iff.1 increasing).imp fun {a b} (less : a.1 < b.1) (same : a.1 = b.1) =>
    String.lt_irrefl b.1 (same ▸ less)

/-- Fields with different keys all come to stand in the order of these. -/
theorem sortFields_perm (distinct : fields.Pairwise fun a b => a.1 ≠ b.1) :
    keysIncreasing (sortFields fields) = true ∧ (sortFields fields).Perm fields := by
  obtain ⟨increasing, perm⟩ : (sortFields fields).Pairwise (fun a b => a.1 < b.1) ∧
      (sortFields fields).Perm ([] ++ fields) := foldl_insertField distinct .nil
  exact ⟨keysIncreasing_iff.2 increasing, perm⟩

/-- Fields in the order of their keys are given by which fields there are. -/
theorem eq_of_perm (increasing : keysIncreasing fields = true)
    (increasing' : keysIncreasing fields' = true) (perm : fields.Perm fields') :
    fields = fields' :=
  List.Perm.eq_of_pairwise (fun _ _ _ _ less greater => absurd greater (String.lt_asymm less))
    (keysIncreasing_iff.1 increasing) (keysIncreasing_iff.1 increasing') perm

/-- Fields in the order of their keys come to stand so again, whatever the order in which they are
inserted. -/
theorem sortFields_of_perm (increasing : keysIncreasing fields = true)
    (perm : fields'.Perm fields) : sortFields fields' = fields := by
  obtain ⟨sorted, kept⟩ :=
    sortFields_perm ((distinct_of_increasing increasing).perm perm.symm Ne.symm)
  exact eq_of_perm sorted increasing (kept.trans perm)

end Order

end Json

/-! ### Numbers as scripts hold them -/

/-- A double as a document: the integer that it is, if that is a safe one. -/
def Double.toNormal (d : Double) : Json :=
  match d.safeInt? with
  | some n => .int n
  | none => .double d

namespace Json

mutual

/-- A document with its numbers as scripts hold them: whole if they are safe integers, and doubles
otherwise. -/
def norm : Json → Json
  | .int n => if n.natAbs ≤ Double.maxSafeInteger then .int n else .double (.ofInt n)
  | .double d => d.toNormal
  | .arr items => .arr (normItems items)
  | .obj fields => .obj (normFields fields)
  | j => j

def normItems : List Json → List Json
  | [] => []
  | j :: rest => norm j :: normItems rest

def normFields : List (String × Json) → List (String × Json)
  | [] => []
  | (k, j) :: rest => (k, norm j) :: normFields rest

end

theorem normItems_eq_map (items : List Json) : normItems items = items.map norm := by
  induction items with
  | nil => rfl
  | cons j rest ih => rw [normItems, ih, List.map_cons]

theorem normFields_eq_map (fields : List (String × Json)) :
    normFields fields = fields.map fun f => (f.1, f.2.norm) := by
  induction fields with
  | nil => rfl
  | cons f rest ih =>
    obtain ⟨k, j⟩ := f
    rw [normFields, ih, List.map_cons]

theorem norm_toNormal (d : Double) : d.toNormal.norm = d.toNormal := by
  unfold Double.toNormal
  cases hd : d.safeInt? with
  | none =>
    show d.toNormal = .double d
    rw [Double.toNormal, hd]
  | some n =>
    have safe : n.natAbs ≤ Double.maxSafeInteger := by
      simpa using (Option.filter_eq_some_iff.1 hd).2
    show norm (.int n) = .int n
    rw [norm, if_pos safe]

/-- The numbers of such a document stay as they are. -/
theorem norm_norm (j : Json) : j.norm.norm = j.norm := by
  induction j using induct with
  | null => rfl
  | bool b => rfl
  | str s => rfl
  | double d => exact norm_toNormal d
  | int n =>
    rw [norm]
    split
    · next safe => rw [norm, if_pos safe]
    · next beyond => rw [norm, Double.toNormal, Double.safeInt?_ofInt_of_unsafe beyond]
  | arr items ih =>
    rw [norm, norm, normItems_eq_map, normItems_eq_map, List.map_map]
    exact congrArg arr (List.map_congr_left ih)
  | obj fields ih =>
    rw [norm, norm, normFields_eq_map, normFields_eq_map, List.map_map]
    exact congrArg obj (List.map_congr_left fun f hf => congrArg (Prod.mk f.1) (ih f hf))

theorem keysIncreasing_map_norm {fields : List (String × Json)} :
    keysIncreasing (fields.map fun f => (f.1, f.2.norm)) = keysIncreasing fields := by
  rw [Bool.eq_iff_iff, keysIncreasing_iff, keysIncreasing_iff, List.pairwise_map]

/-- They are as deep in the document as those that they stand for. -/
theorem Within.norm {j : Json} {levels : Nat} (within : j.Within levels) :
    j.norm.Within levels := by
  obtain ⟨levels, rfl⟩ := Nat.exists_eq_succ_of_ne_zero (Nat.ne_of_gt within.pos)
  induction j using induct generalizing levels with
  | null => exact within
  | bool b => exact within
  | str s => exact within
  | int n =>
    rw [Json.norm]
    split <;> exact within_leaf (by rintro n k ⟨⟩; rfl) levels
  | double d =>
    rw [Json.norm, Double.toNormal]
    split <;> exact within_leaf (by rintro n k ⟨⟩; rfl) levels
  | arr items ih =>
    rw [Json.norm, normItems_eq_map, within_arr, List.forall_mem_map]
    intro j member
    have below := within_arr.1 within j member
    obtain ⟨levels, rfl⟩ := Nat.exists_eq_succ_of_ne_zero (Nat.ne_of_gt below.pos)
    exact ih j member levels below
  | obj fields ih =>
    rw [Json.norm, normFields_eq_map, within_obj, List.forall_mem_map]
    intro f member
    have below := within_obj.1 within f member
    obtain ⟨levels, rfl⟩ := Nat.exists_eq_succ_of_ne_zero (Nat.ne_of_gt below.pos)
    exact ih f member levels below

/-! ### The host's documents -/

/-- What nodes the host can make: integers of 64 bits, finite doubles, lists as long as scripts can
have them, and fields in the order of their keys. -/
def IsHosts : Json → Prop
  | .int n => -(twoTo 63 : Int) ≤ n ∧ n < twoTo 64
  | .double d => d.isFinite = true
  | .arr items => items.length ≤ maxLength
  | .obj fields => keysIncreasing fields = true
  | _ => True

/-- Whether conversions take the keys of an object as they are. -/
def WholeKeys : Json → Prop
  | .obj fields => ∀ f ∈ fields, documentKey f.1 = f.1
  | _ => True

/-- A number of the host is held as `norm` says. -/
theorem toDocument_ofInt {n : Int} (hn : IsHosts (.int n)) :
    (Double.ofInt n).toDocument = norm (.int n) := by
  rw [norm, Double.toDocument]
  by_cases safe : n.natAbs ≤ Double.maxSafeInteger
  · rw [if_pos safe, Double.safeInt?_ofInt safe]
  · have small : n.natAbs < twoTo 64 := by
      obtain ⟨low, high⟩ := hn
      have less : twoTo 63 < twoTo 64 := Nat.pow_lt_pow_right (by decide) (by decide)
      omega
    rw [if_neg safe, Double.safeInt?_ofInt_of_unsafe safe]
    exact if_pos (Double.isFinite_ofInt small)

theorem toDocument_double {d : Double} (hd : IsHosts (.double d)) :
    d.toDocument = norm (.double d) := by
  rw [norm, Double.toDocument, Double.toNormal]
  cases d.safeInt? with
  | some n => rfl
  | none => exact if_pos hd

/-! ### Costs -/

mutual

/-- What a walk over the value of a document pays: a node for each value, each text and each
field, and the bytes of texts and keys. -/
def walkCost : Json → Nat
  | .str s => nodeCost + (nodeCost + s.utf8ByteSize)
  | .arr items => nodeCost + itemsWalkCost items
  | .obj fields => nodeCost + fieldsWalkCost fields
  | _ => nodeCost

def itemsWalkCost : List Json → Nat
  | [] => 0
  | j :: rest => walkCost j + itemsWalkCost rest

def fieldsWalkCost : List (String × Json) → Nat
  | [] => 0
  | (k, j) :: rest => nodeCost + k.utf8ByteSize + (walkCost j + fieldsWalkCost rest)

end

/-- A walk pays for a number what it pays for the one that scripts hold. -/
theorem walkCost_norm (j : Json) : j.norm.walkCost = j.walkCost := by
  induction j using induct with
  | null => rfl
  | bool b => rfl
  | str s => rfl
  | int n =>
    rw [norm]
    split <;> rfl
  | double d =>
    rw [norm, Double.toNormal]
    split <;> rfl
  | arr items ih =>
    rw [norm, walkCost, walkCost, normItems_eq_map]
    congr 1
    induction items with
    | nil => rfl
    | cons j rest rests =>
      obtain ⟨first, later⟩ := List.forall_mem_cons.1 ih
      rw [List.map_cons, itemsWalkCost, itemsWalkCost, first, rests later]
  | obj fields ih =>
    rw [norm, walkCost, walkCost, normFields_eq_map]
    congr 1
    induction fields with
    | nil => rfl
    | cons f rest rests =>
      obtain ⟨first, later⟩ := List.forall_mem_cons.1 ih
      rw [List.map_cons, fieldsWalkCost, fieldsWalkCost, first, rests later]

/-- The order of fields makes no difference to what a walk over them pays. -/
theorem fieldsWalkCost_of_perm {fields fields' : List (String × Json)}
    (perm : fields.Perm fields') : fieldsWalkCost fields = fieldsWalkCost fields' := by
  induction perm with
  | nil => rfl
  | cons f _ ih => rw [fieldsWalkCost, fieldsWalkCost, ih]
  | swap f g rest =>
    simp only [fieldsWalkCost]
    omega
  | trans _ _ first second => exact first.trans second

end Json

end ScriptHost
