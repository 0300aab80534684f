import Mathlib.Data.List.TakeWhile
import ScriptHost.Proofs.Bill
import ScriptHost.Proofs.RoundTrip

/-!
# Documents that conversions make

* `Walker.Ensures`: what holds of all that a part of a walk gives;
* `Json.ofError`: the document of an error, whose texts no walk ever visits;
* `Json.Made`: what documents a walk makes with so many levels left;
* `made_dumpAt`: it makes no others, whatever the value;
* `Json.Returns`, `returns_of_dump`: what becomes of such a document that goes back to a script;
* `returns_errorBelow`: an error at the greatest depth becomes a document that does not go back.
-/

namespace ScriptHost

/-! ### What walks give -/

/-- Whatever a part of a walk gives is of some sort. -/
def Walker.Ensures {α : Type} (x : Walker α) (post : α → Prop) : Prop :=
  ∀ (apply : Apply) (m : Machine) (p : Payment) (a : α) (p' : Payment) (m' : Machine),
    (x p).run apply m = .ok (a, p') m' → post a

namespace Walker.Ensures

variable {α β : Type} {post : α → Prop} {post' : β → Prop}

theorem pure {a : α} (ha : post a) : Ensures (pure a) post := by
  rintro apply m p _ _ _ ⟨⟩
  exact ha

theorem fail (e : ConversionError) : Ensures (fail e) post := by
  rintro apply m p a p' m' ⟨⟩

theorem bind {x : Walker α} {next : α → Walker β} (hx : Ensures x post)
    (hnext : ∀ a, post a → Ensures (next a) post') : Ensures (x >>= next) post' := by
  intro apply m p b p' m' ok
  obtain ⟨a, p₁, m₁, first, second⟩ := ok_bind ok
  exact hnext a (hx _ _ _ _ _ _ first) _ _ _ _ _ _ second

/-- What a first part gives does not matter. -/
theorem any_bind {x : Walker α} {next : α → Walker β} (hnext : ∀ a, Ensures (next a) post') :
    Ensures (x >>= next) post' :=
  bind (fun _ _ _ _ _ _ _ => (trivial : (fun _ => True) _)) fun a _ => hnext a

theorem ofScript {s : Script α} (hs : ∀ apply m a m', s.run apply m = .ok a m' → post a) :
    Ensures (ofScript s) post := by
  intro apply m p a p' m' ok
  rw [run_ofScript] at ok
  cases h : s.run apply m with
  | ok b m₁ =>
    rw [h] at ok
    cases ok
    exact hs apply m a m' h
  | error e m₁ =>
    rw [h] at ok
    cases ok

end Walker.Ensures

namespace Json

/-! ### Documents of errors -/

/-- The document of an error with a name and a message, each of which may be missing. -/
def ofError (name message : Option String) : Json :=
  .obj [("message", .ofOption message), ("name", .ofOption name)]

/-- So many levels below its root a document has that of an error. -/
def HasErrorAt (j : Json) (n : Nat) : Prop := ∃ name message, j.NodeAt n (ofError name message)

theorem NodeAt.deeper {j k l : Json} {n i : Nat} (first : j.NodeAt n k) (second : k.NodeAt i l) :
    j.NodeAt (n + i) l := by
  induction first with
  | root j => rwa [Nat.zero_add]
  | item member _ ih =>
    rw [Nat.add_right_comm]
    exact .item member (ih second)
  | field member _ ih =>
    rw [Nat.add_right_comm]
    exact .field member (ih second)

/-- The texts of an error lie one level below it. -/
theorem HasErrorAt.not_within {j : Json} {n : Nat} (error : j.HasErrorAt n) :
    ¬ j.Within (n + 1) := by
  obtain ⟨name, message, found⟩ := error
  have text : (ofError name message).NodeAt 1 (ofOption message) :=
    .field (List.mem_cons_self ..) (.root _)
  exact fun within => Nat.lt_irrefl _ (within _ _ (found.deeper text))

/-! ### Documents of walks -/

/-- What a walk makes with so many levels left: a document of the host as scripts hold it, which
goes below these levels only where an error stands on the last. -/
structure Made (levels : Nat) (j : Json) : Prop where
  hosts : j.Nodes IsHosts
  whole : j.Nodes WholeKeys
  normal : j.norm = j
  reach : j.Within levels ∨ ∃ i, levels = i + 1 ∧ j.HasErrorAt i

section Made

variable {levels : Nat} {items : List Json} {fields : List (String × Json)}

/-- A document without parts is made if it can be. -/
theorem made_leaf {j : Json} (leaf : ∀ n k, j.NodeAt n k → n = 0 ∧ k = j) (hosts : j.IsHosts)
    (whole : j.WholeKeys) (normal : j.norm = j) : j.Made (levels + 1) where
  hosts n k below := (leaf n k below).2 ▸ hosts
  whole n k below := (leaf n k below).2 ▸ whole
  normal := normal
  reach := .inl fun n k below => (leaf n k below).1 ▸ Nat.succ_pos _

theorem made_null : (null).Made (levels + 1) :=
  made_leaf (by rintro n k ⟨⟩; exact ⟨rfl, rfl⟩) trivial trivial rfl

theorem made_bool (b : Bool) : (bool b).Made (levels + 1) :=
  made_leaf (by rintro n k ⟨⟩; exact ⟨rfl, rfl⟩) trivial trivial rfl

theorem made_str (s : String) : (str s).Made (levels + 1) :=
  made_leaf (by rintro n k ⟨⟩; exact ⟨rfl, rfl⟩) trivial trivial rfl

/-- Scripts hold whole numbers only as far as they are safe. -/
theorem made_number (d : Double) : d.toDocument.Made (levels + 1) := by
  unfold Double.toDocument
  cases hd : d.safeInt? with
  | some n =>
    have safe : n.natAbs ≤ Double.maxSafeInteger := by
      simpa using (Option.filter_eq_some_iff.1 hd).2
    have small : Double.maxSafeInteger < twoTo 63 := by decide
    have wide : twoTo 63 < twoTo 64 := by decide
    refine made_leaf (by rintro n k ⟨⟩; exact ⟨rfl, rfl⟩) ?_ trivial (if_pos safe)
    constructor <;> omega
  | none =>
    cases finite : d.isFinite with
    | false => exact made_null
    | true =>
      refine made_leaf (by rintro n k ⟨⟩; exact ⟨rfl, rfl⟩) finite trivial ?_
      show d.toNormal = .double d
      rw [Double.toNormal, hd]

theorem made_arr (short : items.length ≤ maxLength) (made : ∀ j ∈ items, j.Made levels) :
    (arr items).Made (levels + 1) where
  hosts := by
    rintro n k (_ | ⟨member, below⟩)
    · exact short
    · exact (made _ member).hosts _ _ below
  whole := by
    rintro n k (_ | ⟨member, below⟩)
    · trivial
    · exact (made _ member).whole _ _ below
  normal := by
    rw [norm, normItems_eq_map]
    exact congrArg arr ((List.map_congr_left fun j hj => (made j hj).normal).trans (List.map_id _))
  reach := by
    by_cases within : ∀ j ∈ items, j.Within levels
    · exact .inl (within_arr.2 within)
    · push Not at within
      obtain ⟨j, member, deep⟩ := within
      obtain ⟨i, rfl, name, message, found⟩ := (made j member).reach.resolve_left deep
      exact .inr ⟨i + 1, rfl, name, message, .item member found⟩

theorem made_obj (increasing : fields.Pairwise fun a b => a.1 < b.1)
    (whole : ∀ f ∈ fields, documentKey f.1 = f.1) (made : ∀ f ∈ fields, f.2.Made levels) :
    (obj fields).Made (levels + 1) where
  hosts := by
    rintro n k (_ | _ | ⟨member, below⟩)
    · exact keysIncreasing_iff.2 increasing
    · exact (made _ member).hosts _ _ below
  whole := by
    rintro n k (_ | _ | ⟨member, below⟩)
    · exact whole
    · exact (made _ member).whole _ _ below
  normal := by
    rw [norm, normFields_eq_map]
    have same : ∀ f ∈ fields, (f.1, f.2.norm) = f := fun f hf => Prod.ext rfl (made f hf).normal
    exact congrArg obj ((List.map_congr_left same).trans (List.map_id _))
  reach := by
    by_cases within : ∀ f ∈ fields, f.2.Within levels
    · exact .inl (within_obj.2 within)
    · push Not at within
      obtain ⟨f, member, deep⟩ := within
      obtain ⟨i, rfl, name, message, found⟩ := (made f member).reach.resolve_left deep
      exact .inr ⟨i + 1, rfl, name, message, .field member found⟩

theorem made_ofOption (text : Option String) : (ofOption text).Made (levels + 1) := by
  cases text with
  | none => exact made_null
  | some s => exact made_str s

/-- An error needs no more than the level that it stands on, although its texts lie below. -/
theorem made_error (name message : Option String) : (ofError name message).Made (levels + 1) := by
  have texts (below : Nat) : (ofError name message).Made (below + 2) := by
    refine made_obj ?_ ?_ ?_
    · exact List.pairwise_pair.2 (by decide : "message" < "name")
    · exact List.forall_mem_cons.2 ⟨(by decide : documentKey "message" = "message"),
        List.forall_mem_singleton.2 (by decide : documentKey "name" = "name")⟩
    · exact List.forall_mem_cons.2
        ⟨made_ofOption message, List.forall_mem_singleton.2 (made_ofOption name)⟩
  cases levels with
  | succ levels => exact texts levels
  | zero =>
    obtain ⟨hosts, whole, normal, _⟩ := texts 0
    exact ⟨hosts, whole, normal, .inr ⟨0, rfl, name, message, .root _⟩⟩

end Made

end Json

/-! ### What walks make -/

/-- The walk of each value makes documents for so many levels. -/
def MakesDocuments (levels : Nat) (item : Value → Walker Json) : Prop :=
  ∀ v, (item v).Ensures (Json.Made levels)

theorem length_le_maxLength (v : Value) :
    (Walker.ofScript (lengthOf v)).Ensures fun n => n ≤ maxLength := by
  refine .ofScript fun apply m n m' ok => ?_
  simp only [lengthOf, toLength, Computation.run_bind] at ok
  split at ok
  · split at ok
    · cases ok
      have clamped : ∀ d : Double, d.clampTo 0 maxLength ≤ maxLength := by
        intro d
        unfold Double.clampTo
        split <;> omega
      exact Int.toNat_le.2 (clamped _)
    · cases ok
  · cases ok

theorem documentKey_documentKey (key : String) :
    documentKey (documentKey key) = documentKey key := by
  simp only [documentKey, String.toList_ofList, List.takeWhile_idem]

section Loops

variable {levels : Nat} {item : Value → Walker Json}

theorem made_dumpItems (made : MakesDocuments levels item) (r : Ref) (n i : Nat) {done : Array Json}
    (before : ∀ j ∈ done, j.Made levels) :
    (dumpItems item r n i done).Ensures fun js =>
      js.size = done.size + n ∧ ∀ j ∈ js, j.Made levels := by
  induction n generalizing i done with
  | zero => exact .pure ⟨rfl, before⟩
  | succ n ih =>
    refine .any_bind fun v => .bind (made v) fun j hj => ?_
    have rest := @ih (i + 1) (done.push j) fun k hk => by
      rcases Array.mem_push.1 hk with old | rfl
      · exact before k old
      · exact hj
    rw [Array.size_push, Nat.add_assoc, Nat.add_comm 1] at rest
    exact rest

/-- The fields of a document in the making. -/
structure FieldsMade (levels : Nat) (fields : List (String × Json)) : Prop where
  increasing : fields.Pairwise fun a b => a.1 < b.1
  whole : ∀ f ∈ fields, documentKey f.1 = f.1
  made : ∀ f ∈ fields, f.2.Made levels

theorem made_dumpFields (budget : Budget) (made : MakesDocuments levels item) (r : Ref) (keys : List Key)
    {done : List (String × Json)} (before : FieldsMade levels done) :
    (dumpFields budget item r keys done).Ensures (FieldsMade levels) := by
  induction keys generalizing done with
  | nil => exact .pure before
  | cons key keys ih =>
    refine .any_bind fun name => .any_bind fun v => .any_bind fun omitted => ?_
    split
    · exact ih before
    · refine .any_bind fun _ => .bind (made v) fun j hj => ih ?_
      refine ⟨Json.pairwise_insertField before.increasing, fun f hf => ?_, fun f hf => ?_⟩
      · rcases Json.mem_insertField hf with rfl | old
        · exact documentKey_documentKey name
        · exact before.whole f old
      · rcases Json.mem_insertField hf with rfl | old
        · exact hj
        · exact before.made f old

end Loops

theorem made_dumpError {levels : Nat} (v : Value) :
    (dumpError v).Ensures (Json.Made (levels + 1)) :=
  .any_bind fun name => .any_bind fun message => .pure (Json.made_error name message)

/-- A walk makes no other documents, whatever the value.  The induction is on the levels that are
left. -/
theorem made_dumpAt (budget : Budget) (levels : Nat) :
    MakesDocuments levels (dumpAt budget levels) := by
  induction levels with
  | zero => exact fun v => .fail _
  | succ levels ih =>
    refine fun v => .any_bind fun _ => ?_
    cases v with
    | undefined => exact .pure Json.made_null
    | null => exact .pure Json.made_null
    | bigint n => exact .pure Json.made_null
    | symbol s => exact .pure Json.made_null
    | bool b => exact .pure (Json.made_bool b)
    | number d => exact .pure (Json.made_number d)
    | string t =>
      dsimp only
      split
      · exact .any_bind fun _ => .pure (Json.made_str _)
      · exact .fail _
    | object r =>
      refine .any_bind fun callable => ?_
      split
      · exact .pure Json.made_null
      refine .any_bind fun isArray => ?_
      split
      · refine .bind (length_le_maxLength _) fun length short => ?_
        refine .bind (made_dumpItems ih r length 0 (by simp)) fun items ⟨size, made⟩ => .pure ?_
        refine Json.made_arr ?_ fun j hj => made j (by simpa using hj)
        rw [Array.length_toList, size]
        simpa using short
      refine .any_bind fun o => ?_
      split
      · exact made_dumpError _
      refine .any_bind fun keys => ?_
      refine .bind (made_dumpFields budget ih r keys ⟨.nil, by simp, by simp⟩) fun fields h => ?_
      exact .pure (Json.made_obj h.increasing h.whole h.made)

theorem made_of_dump {budget : Budget} {v : Value} {apply : Apply} {m m' : Machine} {j : Json}
    (ok : (dump budget v).run apply m = .ok j m') : j.Made (maxDepth + 1) := by
  simp only [dump, Computation.run_sequel] at ok
  cases walked : (dumpAt budget (maxDepth + 1) v {}).run apply m with
  | error e m₁ =>
    rw [walked] at ok
    cases ok
  | ok result m₁ =>
    obtain ⟨k, p⟩ := result
    rw [walked] at ok
    cases ok
    exact made_dumpAt budget (maxDepth + 1) v apply m {} _ _ _ walked

/-! ### The way back -/

/-- What becomes of a document that a conversion has made when it goes back to a script. -/
structure Json.Returns (apply : Apply) (m : Machine) (j : Json) : Prop where
  /-- It becomes a value, unless it has an error on the last level. -/
  given : (∃ v m', (marshal j).run apply m = .ok v m') ↔ ¬ j.HasErrorAt maxDepth
  /-- If it has one, the texts of that lie too deep. -/
  tooDeep : j.HasErrorAt maxDepth → ∃ m', (marshal j).run apply m = .error .tooDeep m'
  /-- The value becomes the same document again, under every budget without a deadline that has room
  for the walk. -/
  back : ∀ v m', (marshal j).run apply m = .ok v m' → ∀ (again : Apply) (budget : Budget),
    budget.deadline = none → j.walkCost ≤ budget.maxBytes →
      ∃ clock, (dump budget v).run again m' = .ok j { m' with clock }

/-- What becomes of the document of a value, on every machine where its keys make properties of
their own. -/
theorem returns_of_dump {budget : Budget} {v : Value} {apply : Apply} {m m' : Machine} {j : Json}
    (ok : (dump budget v).run apply m = .ok j m') (apply' : Apply) {m'' : Machine}
    (ground : m''.heap.Grounded) (settable : j.Nodes m''.heap.SettableKeys) :
    j.Returns apply' m'' := by
  have made := made_of_dump ok
  have trip := Json.roundTrip apply' ground settable made.hosts made.whole
  have shallow : j.Within (maxDepth + 1) ↔ ¬ j.HasErrorAt maxDepth := by
    refine ⟨fun within error => error.not_within within, fun errorless => ?_⟩
    refine made.reach.resolve_right ?_
    rintro ⟨i, same, error⟩
    obtain rfl : maxDepth = i := Nat.succ.inj same
    exact errorless error
  refine ⟨?_, fun error => ?_, fun w m₁ ran again budget' timeless room => ?_⟩
  · rw [trip.given, ← Json.within_maxDepth, shallow]
  · have deep := mt shallow.1 (not_not.2 error)
    simp only [Json.Within, not_forall] at deep
    obtain ⟨n, k, below, deep⟩ := deep
    exact trip.tooDeep n k below (by omega)
  · have again := trip.back w m₁ ran again budget' timeless room
    rwa [made.normal] at again

/-! ### Errors on the last level -/

section Nested

open Walker (Makes)

variable {budget : Budget} {h : Heap} {r : Nat} {w : Value} {j : Json} {levels cost : Nat}

theorem makes_singleton (timeless : budget.deadline = none) (object : h.object r = listObject [w])
    (walk : Makes budget h (dumpAt budget levels w) j cost) :
    Makes budget h (dumpAt budget (levels + 1) (.object r)) (.arr [j]) (Json.nodeCost + cost) := by
  have direct := Object.isProxy_of_array (congrArg Object.kind object)
  have callable : (h.object r).callable?.isSome = false := by rw [object]; rfl
  have isArray : (h.object r).isArray = true := by rw [object]; rfl
  refine (Makes.charge timeless 0).bind
    (.free_bind (.ofScript fun apply m hm => Heap.run_isCallable apply hm direct) ?_)
  rw [callable, if_neg Bool.false_ne_true]
  refine .free_bind (.ofScript fun apply m hm => Heap.run_holdsArray apply hm direct) ?_
  rw [isArray, if_pos rfl]
  refine .free_bind
    (.ofScript fun apply m hm =>
      Heap.run_lengthOf_list object (show 1 ≤ maxLength by decide) apply hm) ?_
  have item : Makes budget h (.ofScript (readItem r 0)) w 0 :=
    .ofScript fun apply m hm =>
      Heap.run_readItem (show h.object r = listObject ([] ++ [w]) from object) apply hm
  have items : Makes budget h (dumpItems (dumpAt budget levels) r 1 0 #[]) #[j] cost :=
    .free_bind item (walk.bind (d := 0) (.pure _))
  exact items.bind (d := 0) (.pure _)

/-- A heap with an error, and that many lists one inside the other around it. -/
def errorBelow : Nat → Heap
  | 0 => errorMachine.heap
  | n + 1 => ((errorBelow n).allocate (listObject [.object n])).2

/-- The document of that error below so many lists. -/
def errorDocumentBelow : Nat → Json
  | 0 => errorDocument
  | n + 1 => .arr [errorDocumentBelow n]

theorem size_errorBelow (n : Nat) : (errorBelow n).objects.size = n + 1 := by
  induction n with
  | zero => rfl
  | succ n ih => rw [errorBelow, Heap.size_allocate, ih]

theorem hasErrorAt_errorDocumentBelow (n : Nat) : (errorDocumentBelow n).HasErrorAt n := by
  induction n with
  | zero => exact ⟨some "TypeError", some "bad color", .root _⟩
  | succ n ih =>
    obtain ⟨name, message, found⟩ := ih
    exact ⟨name, message, .item (List.mem_singleton_self _) found⟩

/-- Each list needs a level, and the error one more. -/
theorem makes_errorBelow (timeless : budget.deadline = none) (n : Nat)
    (kept : Heap.Keeps 0 (errorBelow n) h) :
    Makes budget h (dumpAt budget (n + 1) (.object n)) (errorDocumentBelow n)
      (Json.nodeCost * (n + 1)) := by
  induction n with
  | zero =>
    have object : h.object 0 = errorMachine.heap.object 0 :=
      kept.object 0 (Nat.le_refl _) (by decide)
    have own (key : Key) : h.own? (h.object 0) key = (h.object 0).stored? key := by
      rw [object]
      rfl
    exact makes_error (by rw [object]; rfl) (by rw [own, object]; rfl) rfl
      (by rw [own, object]; rfl) rfl timeless 0
  | succ n ih =>
    have object : h.object (n + 1) = listObject [.object n] := by
      rw [kept.object _ (Nat.zero_le _) (by rw [size_errorBelow]; exact Nat.lt_succ_self _),
        errorBelow, ← size_errorBelow n, Heap.object_allocate_self]
    rw [Nat.mul_succ, Nat.add_comm (Json.nodeCost * (n + 1))]
    exact makes_singleton timeless object (ih ((Heap.Keeps.allocate _).trans kept))

/-- Below as many lists as there are levels but one the error becomes a document. -/
theorem dump_errorBelow : ∃ m', (dump ⟨1040, none⟩ (.object maxDepth)).run .none
    { errorMachine with heap := errorBelow maxDepth } = .ok (errorDocumentBelow maxDepth) m' := by
  have makes : Makes ⟨1040, none⟩ (errorBelow maxDepth) _ _ _ := makes_errorBelow rfl maxDepth .refl
  obtain ⟨clock, dumped⟩ :=
    (run_dump_of_makes (m := { errorMachine with heap := errorBelow maxDepth }) makes .none).1
      (by decide)
  exact ⟨_, dumped⟩

/-- That document does not go back to a script. -/
theorem returns_errorBelow :
    ∃ m', (dump ⟨1040, none⟩ (.object maxDepth)).run .none
        { errorMachine with heap := errorBelow maxDepth } =
          .ok (errorDocumentBelow maxDepth) m' ∧
      Json.bareMachine.heap.Grounded ∧
      (errorDocumentBelow maxDepth).Nodes Json.bareMachine.heap.SettableKeys ∧
      (errorDocumentBelow maxDepth).Returns .none Json.bareMachine ∧
      ∃ m', (marshal (errorDocumentBelow maxDepth)).run .none Json.bareMachine =
        .error .tooDeep m' := by
  obtain ⟨m', dumped⟩ := dump_errorBelow
  have settable : (errorDocumentBelow maxDepth).Nodes Json.bareMachine.heap.SettableKeys :=
    fun _ k _ => Heap.settableKeys_bare k
  have returns := returns_of_dump dumped .none Heap.grounded_bare settable
  exact ⟨m', dumped, Heap.grounded_bare, settable, returns,
    returns.tooDeep (hasErrorAt_errorDocumentBelow maxDepth)⟩

end Nested

end ScriptHost
