import ScriptHost.Proofs.Shows
import ScriptHost.Proofs.Walk

/-!
# Values that depict documents

`Heap.Shows` tells of values that are made from documents of the host.  Here a value is told from the
document that a walk over it makes, whatever the budget and the deadline.

* `Walker.Costs`: a walk that makes something in so many visits and for a cost, as long as there is
  room and time;
* `Json.walkVisits`: how many nodes a walk visits;
* `Object.Lists`: a plain object with some fields, whatever it inherits from;
* `Heap.Depicts`, `Heap.Depicts.costs`: the walk over a value that depicts a document makes it;
* `Heap.Shows.depicts`, `Heap.Shows.makes`: so it does for a value that shows a document, with its
  numbers as scripts hold them;
* `Converted`, `converted_of_depicts`: so a conversion of the value gives it.
-/

namespace ScriptHost

/-! ### Room and time -/

namespace Walker

/-- How the run of a walk ends that makes something in so many visits and for a cost: it makes it, or
the budget has no room for the cost, or the time was up at one of the visits. -/
inductive Paid {α : Type} (budget : Budget) (m : Machine) (p : Payment) (a : α) (visits cost : Nat) :
    EStateM.Result (ConversionError × Payment) Machine (α × Payment) → Prop
  | made (spent clock : Nat) (low : min (p.spent + cost) maxCount ≤ spent)
    (high : spent ≤ p.spent + cost) (room : spent ≤ budget.maxBytes) :
    Paid budget m p a visits cost (.ok (a, ⟨spent, p.visited + visits⟩) { m with clock })
  | tooLarge (beyond : budget.maxBytes < p.spent + cost) (p' : Payment) (m' : Machine) :
    Paid budget m p a visits cost (.error (.tooLarge budget.maxBytes, p') m')
  | late (p' : Payment) (m' : Machine) (limited : budget.deadline.isSome = true)
    (looked : clockStride ≤ p'.visited) (within : p'.visited ≤ p.visited + visits) :
    Paid budget m p a visits cost (.error (.deadlineExpired, p') m')

/-- On machines with a heap, and under a budget, a walk makes something in so many visits and for a
cost, as long as there is room and time.  Nothing but the clock of the machine runs on. -/
def Costs {α : Type} (budget : Budget) (h : Heap) (x : Walker α) (a : α) (visits cost : Nat) : Prop :=
  ∀ (apply : Apply) (m : Machine) (p : Payment), m.heap = h → p.spent ≤ budget.maxBytes →
    Paid budget m p a visits cost ((x p).run apply m)

namespace Costs

variable {α β : Type} {budget : Budget} {h : Heap}

theorem pure (a : α) : Costs budget h (pure a) a 0 0 := fun _ m p _ room =>
  .made p.spent m.clock (Nat.min_le_left _ _) (Nat.le_refl _) room

theorem ofScript {s : Script α} {a : α}
    (does : ∀ (apply : Apply) (m : Machine), m.heap = h → s.run apply m = .ok a m) :
    Costs budget h (ofScript s) a 0 0 := by
  intro apply m p hm room
  rw [run_ofScript, does apply m hm]
  exact .made p.spent m.clock (Nat.min_le_left _ _) (Nat.le_refl _) room

theorem bind {x : Walker α} {next : α → Walker β} {a : α} {b : β} {n k c d : Nat}
    (hx : Costs budget h x a n c) (hnext : Costs budget h (next a) b k d) :
    Costs budget h (x >>= next) b (n + k) (c + d) := by
  intro apply m p hm room
  have first := hx apply m p hm room
  rw [run_bind]
  generalize (x p).run apply m = r at first ⊢
  cases first with
  | tooLarge beyond p' m' => exact .tooLarge (by omega) p' m'
  | late p' m' limited looked within => exact .late p' m' limited looked (by omega)
  | made spent clock low high room' =>
    have second := hnext apply { m with clock } ⟨spent, p.visited + n⟩ hm room'
    dsimp only
    generalize (next a ⟨spent, p.visited + n⟩).run apply { m with clock } = r' at second ⊢
    cases second with
    | tooLarge beyond p' m' =>
      have beyond : budget.maxBytes < spent + d := beyond
      exact .tooLarge (by omega) p' m'
    | late p' m' limited looked within =>
      have within : p'.visited ≤ p.visited + n + k := within
      exact .late p' m' limited looked (by omega)
    | made spent' clock' low' high' room'' =>
      have low' : min (spent + d) maxCount ≤ spent' := low'
      have high' : spent' ≤ spent + d := high'
      have visited : p.visited + n + k = p.visited + (n + k) := Nat.add_assoc ..
      show Paid budget m p b (n + k) (c + d)
        (.ok (b, ⟨spent', p.visited + n + k⟩) { m with clock := clock' })
      rw [visited]
      exact .made spent' clock' (by omega) (by omega) room''

/-- A part that costs nothing comes first. -/
theorem free_bind {x : Walker α} {next : α → Walker β} {a : α} {b : β} {n c : Nat}
    (hx : Costs budget h x a 0 0) (hnext : Costs budget h (next a) b n c) :
    Costs budget h (x >>= next) b n c := by
  simpa using hx.bind hnext

theorem charge (payload : Nat) :
    Costs budget h (charge budget payload) () 1 (Json.nodeCost + payload) := by
  intro apply m p _ room
  have sum : saturatingAdd (saturatingAdd p.spent Json.nodeCost) payload ≤
      p.spent + (Json.nodeCost + payload) := by
    simp only [saturatingAdd]
    omega
  have low : min (p.spent + (Json.nodeCost + payload)) maxCount ≤
      saturatingAdd (saturatingAdd p.spent Json.nodeCost) payload := by
    simp only [saturatingAdd]
    omega
  unfold ScriptHost.charge
  dsimp only
  by_cases exceeds : saturatingAdd (saturatingAdd p.spent Json.nodeCost) payload > budget.maxBytes
  · rw [if_pos exceeds]
    exact .tooLarge (by omega) _ _
  · rw [if_neg exceeds, Computation.run_bind, Computation.run_tick]
    dsimp only
    cases late : decide ((p.visited + 1) % clockStride = 0) &&
        budget.deadline.any fun end_ => decide (end_ ≤ m.clock + 1) with
    | false =>
      rw [if_neg Bool.false_ne_true, Bool.or_false]
      exact .made _ _ low sum (by omega)
    | true =>
      obtain ⟨look, up⟩ := Bool.and_eq_true_iff.1 late
      have limited : budget.deadline.isSome = true := by
        cases h : budget.deadline with
        | none =>
          rw [h] at up
          cases up
        | some end_ => rfl
      -- the visits count from one look at the clock to the next
      have looked : clockStride ≤ p.visited + 1 :=
        Nat.le_of_dvd (Nat.succ_pos _) (Nat.dvd_of_mod_eq_zero (of_decide_eq_true look))
      rw [if_pos rfl]
      exact .late _ _ limited looked (Nat.le_refl _)

/-- Without a deadline there is always time. -/
theorem makes {x : Walker α} {a : α} {n c : Nat} (costs : Costs budget h x a n c)
    (timeless : budget.deadline = none) : Makes budget h x a c where
  made apply m p hm fits := by
    have ran := costs apply m p hm (by omega)
    generalize (x p).run apply m = r at ran ⊢
    cases ran with
    | made spent clock low high room => exact ⟨_, clock, rfl, low, high⟩
    | tooLarge beyond p' m' => exact absurd fits (Nat.not_le_of_lt beyond)
    | late p' m' limited =>
      rw [timeless] at limited
      cases limited
  tooLarge apply m p hm counted within beyond := by
    have ran := costs apply m p hm within
    generalize (x p).run apply m = r at ran ⊢
    cases ran with
    | made spent clock low high room => omega
    | tooLarge beyond' p' m' => exact ⟨p', m', rfl⟩
    | late p' m' limited =>
      rw [timeless] at limited
      cases limited

end Costs

end Walker

/-! ### Visits -/

namespace Json

mutual

/-- How many nodes a walk over the value of a document visits: one for each value, each text and each
field. -/
def walkVisits : Json → Nat
  | .str _ => 2
  | .arr items => 1 + itemsWalkVisits items
  | .obj fields => 1 + fieldsWalkVisits fields
  | _ => 1

def itemsWalkVisits : List Json → Nat
  | [] => 0
  | j :: rest => walkVisits j + itemsWalkVisits rest

def fieldsWalkVisits : List (String × Json) → Nat
  | [] => 0
  | (_, j) :: rest => 1 + (walkVisits j + fieldsWalkVisits rest)

end

/-- The order of fields makes no difference to how many nodes a walk over them visits. -/
theorem fieldsWalkVisits_of_perm {fields fields' : List (String × Json)}
    (perm : fields.Perm fields') : fieldsWalkVisits fields = fieldsWalkVisits fields' := by
  induction perm with
  | nil => rfl
  | cons f _ ih => rw [fieldsWalkVisits, fieldsWalkVisits, ih]
  | swap f g rest =>
    simp only [fieldsWalkVisits]
    omega
  | trans _ _ first second => exact first.trans second

end Json

/-- The document of a number is an integer, a double or null. -/
theorem Double.toDocument_cases {p : Json → Prop} (int : ∀ n, p (.int n)) (double : ∀ d, p (.double d))
    (null : p .null) (d : Double) : p d.toDocument := by
  unfold Double.toDocument
  split
  · exact int _
  · split
    · exact double d
    · exact null

/-- A number is one visit, as a value and as a document. -/
theorem walk_toDocument (d : Double) :
    d.toDocument.walkVisits = 1 ∧ d.toDocument.walkCost = Json.nodeCost :=
  d.toDocument_cases (p := fun j => j.walkVisits = 1 ∧ j.walkCost = Json.nodeCost)
    (fun _ => ⟨rfl, rfl⟩) (fun _ => ⟨rfl, rfl⟩) ⟨rfl, rfl⟩

theorem within_toDocument (d : Double) (levels : Nat) : d.toDocument.Within (levels + 1) := by
  refine d.toDocument_cases (p := fun j => j.Within (levels + 1)) (fun n => ?_) (fun d => ?_) ?_
  all_goals exact Json.within_leaf (by rintro n k ⟨⟩; rfl) levels

/-! ### Values -/

/-- A plain object with some fields, whatever it inherits from. -/
structure Object.Lists (o : Object) (fields : List (String × Value)) : Prop where
  kind : o.kind = .plain
  elements : o.elements = #[]
  properties : o.properties = fields.map fun f => (Key.named f.1, .plain f.2)

theorem Object.lists_recordObject (fields : List (String × Value)) :
    (recordObject fields).Lists fields := ⟨rfl, rfl, rfl⟩

namespace Heap

variable {h h' : Heap} {o : Object} {fields : List (String × Value)}

/-- Under each of its names, if no two are the same, such an object has the value. -/
theorem own?_of_lists (lists : o.Lists fields) (distinct : fields.Pairwise fun a b => a.1 ≠ b.1)
    {f : String × Value} (hf : f ∈ fields) :
    h.own? o (Key.named f.1) = some (.plain f.2) := by
  have keys : o.properties.Pairwise fun a b => a.1 ≠ b.1 := by
    rw [lists.properties]
    exact List.pairwise_map.2 (distinct.imp fun other same => other (Key.named_injective same))
  rw [h.own?_of_plain lists.kind, Object.stored?_of_no_elements _ _ lists.elements]
  refine lookup_of_mem (e := (Key.named f.1, .plain f.2)) keys ?_
  rw [lists.properties]
  exact List.mem_map_of_mem hf

/-- Under other names it has nothing. -/
theorem own?_of_lists_of_absent (lists : o.Lists fields) {name : String}
    (absent : ∀ f ∈ fields, f.1 ≠ name) : h.own? o (Key.named name) = none := by
  rw [h.own?_of_plain lists.kind, Object.stored?_of_no_elements _ _ lists.elements,
    lists.properties, List.lookup_eq_none_iff]
  intro e he
  obtain ⟨f, hf, rfl⟩ := List.mem_map.1 he
  exact bne_iff_ne.2 fun same => absent f hf (Key.named_injective same).symm

/-- It lists its names in some order. -/
theorem run_shownKeysOf_lists {r : Nat} (lists : (h.object r).Lists fields)
    (distinct : fields.Pairwise fun a b => a.1 ≠ b.1) (apply : Apply) {m : Machine}
    (hm : m.heap = h) :
    (shownKeysOf r).run apply m = .ok (Key.arrange (fields.map fun f => Key.named f.1)) m := by
  have direct := Object.isProxy_of_plain lists.kind
  have keys : h.ownKeys (h.object r) = Key.arrange (fields.map fun f => Key.named f.1) := by
    simp [ownKeys, lists.kind, lists.elements, lists.properties, Object.elementKeys, Function.comp_def]
  have named : ∀ k ∈ Key.arrange (fields.map fun f => Key.named f.1),
      ∃ f ∈ fields, Key.named f.1 = k := by
    intro k hk
    refine List.mem_map.1 ((Key.arrange_perm ?_).mem_iff.1 hk)
    intro k hk
    obtain ⟨f, _, rfl⟩ := List.mem_map.1 hk
    rfl
  rw [run_shownKeysOf apply hm direct, keys, List.filter_eq_self.2, List.filter_eq_self.2]
  · intro k hk
    obtain ⟨f, _, rfl⟩ := named k hk
    rfl
  · intro k hk
    obtain ⟨f, hf, rfl⟩ := named k (List.mem_of_mem_filter hk)
    rw [own?_of_lists lists distinct hf]
    rfl

/-- A value of which a walk makes a document; its objects all lie from a place of the heap on. -/
inductive Depicts (h : Heap) (start : Nat) : Value → Json → Prop
  | null : Depicts h start .null .null
  | bool (b : Bool) : Depicts h start (.bool b) (.bool b)
  | number (d : Double) : Depicts h start (.number d) d.toDocument
  | string (t : Text) (s : String) (spelled : t.toUnicode = .ok s) :
    Depicts h start (.string t) (.str s)
  | arr {r : Nat} {rows : List (Value × Json)} (after : start ≤ r) (inside : r < h.objects.size)
    (object : h.object r = listObject (rows.map Prod.fst)) (short : rows.length ≤ maxLength)
    (items : ∀ e ∈ rows, Depicts h start e.1 e.2) :
    Depicts h start (.object r) (.arr (rows.map Prod.snd))
  | obj {r : Nat} {fields : List (String × Value)} {rows : List (String × Value × Json)}
    (after : start ≤ r) (inside : r < h.objects.size) (lists : (h.object r).Lists fields)
    (perm : fields.Perm (rows.map fun e => (e.1, e.2.1)))
    (increasing : Json.keysIncreasing (rows.map fun e => (e.1, e.2.2)) = true)
    (whole : ∀ e ∈ rows, documentKey e.1 = e.1)
    (below : ∀ e ∈ rows, Depicts h start e.2.1 e.2.2) :
    Depicts h start (.object r) (.obj (rows.map fun e => (e.1, e.2.2)))

variable {start start' : Nat} {v : Value} {j : Json}

/-- A value depicts the same as long as its objects stay. -/
theorem Depicts.keeps (depicts : h.Depicts start v j) (kept : Keeps start h h') :
    h'.Depicts start v j := by
  induction depicts with
  | null => exact .null
  | bool b => exact .bool b
  | number d => exact .number d
  | string t s spelled => exact .string t s spelled
  | arr after inside object short _ ih =>
    exact .arr after (Nat.lt_of_lt_of_le inside kept.size)
      ((kept.object _ after inside).trans object) short ih
  | obj after inside lists perm increasing whole _ ih =>
    refine .obj after (Nat.lt_of_lt_of_le inside kept.size) ?_ perm increasing whole ih
    rwa [kept.object _ after inside]

theorem Depicts.earlier (depicts : h.Depicts start v j) (before : start' ≤ start) :
    h.Depicts start' v j := by
  induction depicts with
  | null => exact .null
  | bool b => exact .bool b
  | number d => exact .number d
  | string t s spelled => exact .string t s spelled
  | arr after inside object short _ ih =>
    exact .arr (Nat.le_trans before after) inside object short ih
  | obj after inside lists perm increasing whole _ ih =>
    exact .obj (Nat.le_trans before after) inside lists perm increasing whole ih

/-! ### Walks -/

section Walks

variable {budget : Budget} {item : Value → Walker Json} {r : Nat}

open Walker (Costs)

/-- No field that holds such a value is left out. -/
theorem Depicts.run_isOmitted (depicts : h.Depicts start v j) (apply : Apply) {m : Machine}
    (hm : m.heap = h) : (isOmitted v).run apply m = .ok false m := by
  cases depicts with
  | arr after inside object short items =>
    have direct := Object.isProxy_of_array (congrArg Object.kind object)
    show (isCallable (.object _)).run apply m = _
    rw [run_isCallable apply hm direct, object]
    rfl
  | obj after inside lists perm increasing whole below =>
    have direct := Object.isProxy_of_plain lists.kind
    show (isCallable (.object _)).run apply m = _
    rw [run_isCallable apply hm direct, Object.callable?, lists.kind]
    rfl
  | _ => rfl

/-- The items from one on, where `before` are those that come first. -/
theorem costs_dumpItems (before : List (Value × Json)) {rows : List (Value × Json)}
    (object : h.object r = listObject ((before ++ rows).map Prod.fst))
    (walks : ∀ e ∈ rows, Costs budget h (item e.1) e.2 e.2.walkVisits e.2.walkCost)
    (done : Array Json) :
    Costs budget h (dumpItems item r rows.length before.length done)
      (done ++ (rows.map Prod.snd).toArray) (Json.itemsWalkVisits (rows.map Prod.snd))
      (Json.itemsWalkCost (rows.map Prod.snd)) := by
  induction rows generalizing before done with
  | nil =>
    simp only [List.map_nil, Array.append_empty]
    exact .pure _
  | cons e rest ih =>
    obtain ⟨first, later⟩ := List.forall_mem_cons.1 walks
    have read : Costs budget h (.ofScript (readItem r before.length)) e.1 0 0 := by
      rw [List.map_append, List.map_cons] at object
      rw [← before.length_map Prod.fst]
      exact .ofScript fun apply m hm => run_readItem object apply hm
    have tail := ih (before ++ [e]) (by simpa using object) later (done.push e.2)
    rw [List.length_append, List.length_singleton] at tail
    refine .free_bind read (first.bind ?_)
    simpa using tail

/-- The fields under the names of some rows, in any order. -/
theorem costs_dumpFields {rows : List (String × Value × Json)}
    (direct : (h.object r).isProxy = false)
    (held : ∀ e ∈ rows, h.own? (h.object r) (Key.named e.1) = some (.plain e.2.1))
    (below : ∀ e ∈ rows, ∃ start, h.Depicts start e.2.1 e.2.2)
    (whole : ∀ e ∈ rows, documentKey e.1 = e.1)
    (walks : ∀ e ∈ rows, Costs budget h (item e.2.1) e.2.2 e.2.2.walkVisits e.2.2.walkCost)
    (done : List (String × Json)) :
    Costs budget h (dumpFields budget item r (rows.map fun e => Key.named e.1) done)
      ((rows.map fun e => (e.1, e.2.2)).foldl (fun acc f => Json.insertField f.1 f.2 acc) done)
      (Json.fieldsWalkVisits (rows.map fun e => (e.1, e.2.2)))
      (Json.fieldsWalkCost (rows.map fun e => (e.1, e.2.2))) := by
  induction rows generalizing done with
  | nil => exact .pure _
  | cons e rest ih =>
    obtain ⟨held, laterHeld⟩ := List.forall_mem_cons.1 held
    obtain ⟨⟨start, depicts⟩, laterBelow⟩ := List.forall_mem_cons.1 below
    obtain ⟨whole, laterWhole⟩ := List.forall_mem_cons.1 whole
    obtain ⟨walks, laterWalks⟩ := List.forall_mem_cons.1 walks
    have key : Costs budget h (keyText (Key.named e.1)) e.1 0 0 := .pure _
    have read : Costs budget h (.ofScript (getOf r (Key.named e.1))) e.2.1 0 0 :=
      .ofScript fun apply m hm => run_getOf apply hm direct held
    have kept : Costs budget h (.ofScript (isOmitted e.2.1)) false 0 0 :=
      .ofScript fun apply m hm => depicts.run_isOmitted apply hm
    refine .free_bind key (.free_bind read (.free_bind kept ?_))
    rw [if_neg Bool.false_ne_true, whole]
    exact (Costs.charge _).bind
      (walks.bind (ih laterHeld laterBelow laterWhole laterWalks _))

theorem distinct_names {rows : List (String × Value × Json)}
    (increasing : Json.keysIncreasing (rows.map fun e => (e.1, e.2.2)) = true) :
    (rows.map fun e => (e.1, e.2.1)).Pairwise fun a b => a.1 ≠ b.1 := by
  have distinct := Json.distinct_of_increasing increasing
  rw [List.pairwise_map] at distinct ⊢
  exact distinct

/-- The fields of an object.  Whatever the order in which it lists them, they come to stand in the
order of their names. -/
theorem costs_dumpObject {rows : List (String × Value × Json)} (lists : (h.object r).Lists fields)
    (perm : fields.Perm (rows.map fun e => (e.1, e.2.1)))
    (increasing : Json.keysIncreasing (rows.map fun e => (e.1, e.2.2)) = true)
    (below : ∀ e ∈ rows, ∃ start, h.Depicts start e.2.1 e.2.2)
    (whole : ∀ e ∈ rows, documentKey e.1 = e.1)
    (walks : ∀ e ∈ rows, Costs budget h (item e.2.1) e.2.2 e.2.2.walkVisits e.2.2.walkCost) :
    Costs budget h (dumpFields budget item r (Key.arrange (fields.map fun f => Key.named f.1)) [])
      (rows.map fun e => (e.1, e.2.2)) (Json.fieldsWalkVisits (rows.map fun e => (e.1, e.2.2)))
      (Json.fieldsWalkCost (rows.map fun e => (e.1, e.2.2))) := by
  have distinct : fields.Pairwise fun a b => a.1 ≠ b.1 :=
    (distinct_names increasing).perm perm.symm Ne.symm
  have texts : ∀ k ∈ fields.map fun f => Key.named f.1, k.isText = true := by
    intro k hk
    obtain ⟨f, _, rfl⟩ := List.mem_map.1 hk
    rfl
  have keys : (Key.arrange (fields.map fun f => Key.named f.1)).Perm
      (rows.map fun e => Key.named e.1) := by
    have named := perm.map fun f => Key.named f.1
    rw [List.map_map] at named
    exact (Key.arrange_perm texts).trans named
  obtain ⟨rows', listed, perm'⟩ : ∃ rows' : List (String × Value × Json),
      Key.arrange (fields.map fun f => Key.named f.1) = rows'.map (fun e => Key.named e.1) ∧
        rows'.Perm rows :=
    (congrFun (congrFun (List.eq_map_comp_perm _) _) rows).mpr keys
  have held : ∀ e ∈ rows', h.own? (h.object r) (Key.named e.1) = some (.plain e.2.1) := by
    intro e he
    exact own?_of_lists (f := (e.1, e.2.1)) lists distinct
      (perm.mem_iff.2 (List.mem_map_of_mem (perm'.mem_iff.1 he)))
  have walked := costs_dumpFields (Object.isProxy_of_plain lists.kind) held
    (fun e he => below e (perm'.mem_iff.1 he)) (fun e he => whole e (perm'.mem_iff.1 he))
    (fun e he => walks e (perm'.mem_iff.1 he)) []
  have sorted : (rows'.map fun e => (e.1, e.2.2)).foldl
      (fun acc f => Json.insertField f.1 f.2 acc) [] = rows.map fun e => (e.1, e.2.2) :=
    Json.sortFields_of_perm increasing (perm'.map _)
  have visits := Json.fieldsWalkVisits_of_perm (perm'.map fun e => (e.1, e.2.2))
  have cost := Json.fieldsWalkCost_of_perm (perm'.map fun e => (e.1, e.2.2))
  rw [sorted, visits, cost] at walked
  rwa [listed]

/-- A value without parts takes one visit. -/
theorem costs_leaf {levels : Nat}
    (leaf : dumpAt budget (levels + 1) v = charge budget 0 >>= fun _ => pure j) :
    Costs budget h (dumpAt budget (levels + 1) v) j 1 Json.nodeCost := by
  rw [leaf]
  exact (Costs.charge 0).bind (k := 0) (d := 0) (.pure j)

theorem costs_text {levels : Nat} {t : Text} {s : String} (spelled : t.toUnicode = .ok s) :
    Costs budget h (dumpAt budget (levels + 1) (.string t)) (.str s) (1 + 1)
      (Json.nodeCost + (Json.nodeCost + s.utf8ByteSize)) := by
  have text : Costs budget h (charge budget s.utf8ByteSize >>= fun _ => pure (Json.str s)) (.str s) 1
      (Json.nodeCost + s.utf8ByteSize) :=
    (Costs.charge _).bind (k := 0) (d := 0) (.pure _)
  refine (Costs.charge 0).bind (k := 1) (d := Json.nodeCost + s.utf8ByteSize) ?_
  dsimp only
  rw [spelled]
  exact text

/-- A list, if the walks over its items make theirs. -/
theorem costs_list {levels : Nat} {rows : List (Value × Json)}
    (object : h.object r = listObject (rows.map Prod.fst)) (short : rows.length ≤ maxLength)
    (walks : ∀ e ∈ rows, Costs budget h (dumpAt budget levels e.1) e.2 e.2.walkVisits e.2.walkCost) :
    Costs budget h (dumpAt budget (levels + 1) (.object r)) (.arr (rows.map Prod.snd))
      (Json.arr (rows.map Prod.snd)).walkVisits (Json.arr (rows.map Prod.snd)).walkCost := by
  have node : Costs budget h (charge budget 0) () 1 Json.nodeCost := .charge 0
  have direct := Object.isProxy_of_array (congrArg Object.kind object)
  have callable : (h.object r).callable?.isSome = false := by rw [object]; rfl
  have isArray : (h.object r).isArray = true := by rw [object]; rfl
  have length : (rows.map Prod.fst).length ≤ maxLength := by rwa [List.length_map]
  have walked := costs_dumpItems [] (by simpa using object) walks #[]
  refine node.bind (.free_bind (.ofScript fun apply m hm => run_isCallable apply hm direct) ?_)
  rw [callable, if_neg Bool.false_ne_true]
  refine .free_bind (.ofScript fun apply m hm => run_holdsArray apply hm direct) ?_
  rw [isArray, if_pos rfl]
  refine .free_bind (.ofScript fun apply m hm => run_lengthOf_list object length apply hm) ?_
  rw [List.length_map]
  refine walked.bind (k := 0) (d := 0) ?_
  simpa using Costs.pure (Json.arr (rows.map Prod.snd))

/-- An object, if the walks over its fields make theirs. -/
theorem costs_object {levels : Nat} {rows : List (String × Value × Json)}
    (lists : (h.object r).Lists fields) (perm : fields.Perm (rows.map fun e => (e.1, e.2.1)))
    (increasing : Json.keysIncreasing (rows.map fun e => (e.1, e.2.2)) = true)
    (below : ∀ e ∈ rows, ∃ start, h.Depicts start e.2.1 e.2.2)
    (whole : ∀ e ∈ rows, documentKey e.1 = e.1)
    (walks : ∀ e ∈ rows,
      Costs budget h (dumpAt budget levels e.2.1) e.2.2 e.2.2.walkVisits e.2.2.walkCost) :
    Costs budget h (dumpAt budget (levels + 1) (.object r)) (.obj (rows.map fun e => (e.1, e.2.2)))
      (Json.obj (rows.map fun e => (e.1, e.2.2))).walkVisits
      (Json.obj (rows.map fun e => (e.1, e.2.2))).walkCost := by
  have node : Costs budget h (charge budget 0) () 1 Json.nodeCost := .charge 0
  have direct := Object.isProxy_of_plain lists.kind
  have callable : (h.object r).callable?.isSome = false := by rw [Object.callable?, lists.kind]; rfl
  have isArray : (h.object r).isArray = false := Object.isArray_of_plain lists.kind
  have isError : (h.object r).isError = false := by simp [Object.isError, lists.kind]
  refine node.bind (.free_bind (.ofScript fun apply m hm => run_isCallable apply hm direct) ?_)
  rw [callable, if_neg Bool.false_ne_true]
  refine .free_bind (.ofScript fun apply m hm => run_holdsArray apply hm direct) ?_
  rw [isArray, if_neg Bool.false_ne_true]
  refine .free_bind (a := (h.object r).frame) (.ofScript fun apply m hm => ?_) ?_
  · rw [Computation.run_readObject, hm]
  rw [Object.isError_frame, isError, if_neg Bool.false_ne_true]
  have distinct : fields.Pairwise fun a b => a.1 ≠ b.1 :=
    (distinct_names increasing).perm perm.symm Ne.symm
  have keys := run_shownKeysOf_lists lists distinct
  refine .free_bind (.ofScript fun apply m hm => keys apply hm) ?_
  exact (costs_dumpObject lists perm increasing below whole walks).bind (k := 0) (d := 0) (.pure _)

/-- The walk over a value that depicts a document makes the document.  The induction is on what is
depicted; no part of it lies deeper than there are levels. -/
theorem Depicts.costs (budget : Budget) (depicts : h.Depicts start v j) {levels : Nat}
    (within : j.Within levels) :
    Costs budget h (dumpAt budget levels v) j j.walkVisits j.walkCost := by
  induction depicts generalizing levels with
  | arr after inside object short items ih =>
    obtain ⟨levels, rfl⟩ := Nat.exists_eq_succ_of_ne_zero (Nat.ne_of_gt within.pos)
    exact costs_list object short fun e he =>
      ih e he (Json.within_arr.1 within _ (List.mem_map_of_mem he))
  | obj after inside lists perm increasing whole below ih =>
    obtain ⟨levels, rfl⟩ := Nat.exists_eq_succ_of_ne_zero (Nat.ne_of_gt within.pos)
    exact costs_object lists perm increasing (fun e he => ⟨start, below e he⟩) whole fun e he =>
      ih e he (Json.within_obj.1 within _
        (List.mem_map_of_mem (f := fun e : String × Value × Json => (e.1, e.2.2)) he))
  | number d =>
    obtain ⟨levels, rfl⟩ := Nat.exists_eq_succ_of_ne_zero (Nat.ne_of_gt within.pos)
    rw [(walk_toDocument d).1, (walk_toDocument d).2]
    exact costs_leaf rfl
  | string t s spelled =>
    obtain ⟨levels, rfl⟩ := Nat.exists_eq_succ_of_ne_zero (Nat.ne_of_gt within.pos)
    exact costs_text spelled
  | null | bool b =>
    obtain ⟨levels, rfl⟩ := Nat.exists_eq_succ_of_ne_zero (Nat.ne_of_gt within.pos)
    exact costs_leaf rfl

end Walks

/-! ### Documents of the host -/

/-- A value that shows a document of the host depicts it, with its numbers as scripts hold them. -/
theorem Shows.depicts (shows : h.Shows start v j) (hosts : j.Nodes Json.IsHosts)
    (whole : j.Nodes Json.WholeKeys) : h.Depicts start v j.norm := by
  induction shows with
  | null => exact .null
  | bool b => exact .bool b
  | int n =>
    rw [← Json.toDocument_ofInt hosts.root]
    exact .number _
  | double d =>
    rw [← Json.toDocument_double hosts.root]
    exact .number d
  | str s => exact .string _ s rfl
  | @arr r rows after inside object items ih =>
    have short : rows.length ≤ maxLength := by
      simpa [Json.IsHosts] using hosts.root
    have depicts : h.Depicts start (.object r)
        (.arr ((rows.map fun e => (e.1, e.2.norm)).map Prod.snd)) := by
      refine .arr after inside ?_ (by rwa [List.length_map]) (List.forall_mem_map.2 fun e he => ?_)
      · rw [object, List.map_map]
        rfl
      · have member : e.2 ∈ rows.map Prod.snd := List.mem_map_of_mem he
        exact ih e he (hosts.item member) (whole.item member)
    rw [List.map_map] at depicts
    rwa [Json.norm, Json.normItems_eq_map, List.map_map]
  | @obj r rows after inside object fields ih =>
    have increasing : Json.keysIncreasing (rows.map fun e => (e.1, e.2.2)) = true := hosts.root
    have taken : ∀ f ∈ rows.map fun e => (e.1, e.2.2), documentKey f.1 = f.1 := whole.root
    have depicts : h.Depicts start (.object r)
        (.obj ((rows.map fun e => (e.1, e.2.1, e.2.2.norm)).map fun e => (e.1, e.2.2))) := by
      have lists := Object.lists_recordObject (rows.map fun e => (e.1, e.2.1))
      rw [← object] at lists
      refine .obj after inside lists ?_ ?_ (List.forall_mem_map.2 fun e he => ?_)
        (List.forall_mem_map.2 fun e he => ?_)
      · rw [List.map_map]
        exact .refl _
      · rw [← Json.keysIncreasing_map_norm, List.map_map] at increasing
        rw [List.map_map]
        exact increasing
      · exact taken (e.1, e.2.2)
          (List.mem_map_of_mem (f := fun e : String × Value × Json => (e.1, e.2.2)) he)
      · have member : (e.1, e.2.2) ∈ rows.map fun e => (e.1, e.2.2) :=
          List.mem_map_of_mem (f := fun e : String × Value × Json => (e.1, e.2.2)) he
        exact ih e he (hosts.field member) (whole.field member)
    rw [List.map_map] at depicts
    rwa [Json.norm, Json.normFields_eq_map, List.map_map]

/-- The walk over a value in the form of a document of the host makes the document, with its numbers
as scripts hold them. -/
theorem Shows.makes {budget : Budget} (timeless : budget.deadline = none)
    (shows : h.Shows start v j) (hosts : j.Nodes Json.IsHosts) (whole : j.Nodes Json.WholeKeys)
    {levels : Nat} (within : j.Within levels) :
    Walker.Makes budget h (dumpAt budget levels v) j.norm j.walkCost := by
  rw [← j.walkCost_norm]
  exact ((shows.depicts hosts whole).costs budget within.norm).makes timeless

end Heap

/-! ### Conversions -/

/-- How the conversion of a value ends that depicts a document: it gives the document, or the budget
has no room for what that costs, or so many nodes are visited that the time is looked at, and it is
up. -/
inductive Converted (budget : Budget) (m : Machine) (j : Json) :
    EStateM.Result ConversionError Machine Json → Prop
  | given (clock : Nat) (room : min j.walkCost maxCount ≤ budget.maxBytes) :
    Converted budget m j (.ok j { m with clock })
  | tooLarge (beyond : budget.maxBytes < j.walkCost) (m' : Machine) :
    Converted budget m j (.error (.tooLarge budget.maxBytes) m')
  | late (limited : budget.deadline.isSome = true) (looked : clockStride ≤ j.walkVisits)
    (m' : Machine) : Converted budget m j (.error .deadlineExpired m')

/-- A conversion of a value that depicts a document. -/
theorem converted_of_depicts {v : Value} {j : Json} {m : Machine} {start : Nat}
    (depicts : m.heap.Depicts start v j) (within : j.Within (maxDepth + 1)) (budget : Budget)
    (apply : Apply) : Converted budget m j ((dump budget v).run apply m) := by
  have walked := depicts.costs budget within apply m {} rfl (Nat.zero_le _)
  rw [run_dump_walk]
  generalize (dumpAt budget (maxDepth + 1) v {}).run apply m = r at walked ⊢
  cases walked with
  | made spent clock low high room =>
    refine .given clock (Nat.le_trans ?_ room)
    simpa using low
  | tooLarge beyond p' m' => exact .tooLarge (by simpa using beyond) m'
  | late p' m' limited looked within =>
    have within : p'.visited ≤ 0 + j.walkVisits := within
    exact .late limited (by omega) m'

end ScriptHost
