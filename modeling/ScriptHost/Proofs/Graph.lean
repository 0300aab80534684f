import Mathlib.Data.List.Forall2
import Mathlib.Logic.Relation
import ScriptHost.Proofs.Walk

/-!
# Values as graphs

Conversions follow what scripts have built, whether parts are shared or lead back to where they came
from.  They keep no account of where they have been.  As long as reading changes nothing, what they
make is told by the graph of the parts of a value.

* `Scene`, `Scene.Tells`, `Scene.Settles`: what reading tells on a heap;
* `Scene.Edge`, `Scene.Path`: the parts of a value, and how deep they go;
* `Scene.Unfolds`: the tree that a value unfolds to;
* `Scene.Steady`: nothing that can be reached from a value changes anything when it is read;
* `Scene.Ends`: how a part of a walk ends; `Scene.EndsAt`, `Scene.ends_dumpAt`: how that of a value
  does.
-/

namespace ScriptHost

variable {ε α β : Type}

/-- A heap, and the way in which functions are called on it. -/
structure Scene where
  apply : Apply
  heap : Heap

namespace Scene

variable (g : Scene)

/-! ### Reading -/

/-- A computation tells something, and leaves the machine as it is. -/
def Tells (x : Computation ε α) (a : α) : Prop :=
  ∀ m, m.heap = g.heap → x.run g.apply m = .ok a m

/-- A computation fails; `left` is what it may do to the machine by that. -/
def Fails (left : Machine → Machine → Prop) (x : Computation ε α) : Prop :=
  ∀ m, m.heap = g.heap → ∃ e m', x.run g.apply m = .error e m' ∧ left m m'

/-- A computation always ends in the same way. -/
def Settles (left : Machine → Machine → Prop) (x : Computation ε α) : Prop :=
  (∃ a, g.Tells x a) ∨ g.Fails left x

/-- What stands behind the proxies before an object. -/
def behind (r : Ref) : Object := g.heap.unwrap (g.heap.objects.size + 1) r

/-- The value can be called. -/
def calls : Value → Bool
  | .object r => (g.behind r).callable?.isSome
  | _ => false

/-- A field that holds the value is left out. -/
def omits : Value → Bool
  | .undefined => true
  | v => g.calls v

variable {g}

theorem Tells.unique {x : Computation ε α} {a b : α} (ha : g.Tells x a) (hb : g.Tells x b) :
    a = b := by
  have first := ha ⟨g.heap, {}, {}, 0, false, none⟩ rfl
  rw [hb _ rfl] at first
  cases first
  rfl

variable (g)

theorem tells_isCallable (v : Value) : g.Tells (isCallable v) (g.calls v) := by
  rintro m hm
  cases v with
  | object r => simp [isCallable, behindProxies, Look.ask, calls, behind, ← hm]
  | _ => rfl

theorem tells_holdsArray (r : Ref) : g.Tells (holdsArray r) (g.behind r).isArray := by
  rintro m hm
  simp [holdsArray, behindProxies, Look.ask, behind, ← hm]

theorem tells_isOmitted (v : Value) : g.Tells (isOmitted v) (g.omits v) := by
  cases v with
  | undefined => exact fun _ _ => rfl
  | _ => exact g.tells_isCallable _

/-! ### Parts -/

/-- A value is kept as a part of another one: as an item of an array, or as a field that shows and
is not left out. -/
inductive Edge : Value → Value → Prop
  | item {r : Ref} {length i : Nat} {v : Value} (passive : g.calls (.object r) = false)
      (array : (g.behind r).isArray = true) (counts : g.Tells (lengthOf (.object r)) length)
      (inside : i < length) (reads : g.Tells (readItem r i) v) : Edge (.object r) v
  | field {r : Ref} {keys : List Key} {key : Key} {v : Value}
      (passive : g.calls (.object r) = false) (notArray : (g.behind r).isArray = false)
      (notError : (g.heap.object r).isError = false) (lists : g.Tells (shownKeysOf r) keys)
      (listed : key ∈ keys) (reads : g.Tells (getOf r key) v) (kept : g.omits v = false) :
      Edge (.object r) v

/-- From a value so many edges can be followed, one after the other. -/
def Path : Nat → Value → Prop
  | 0, _ => True
  | n + 1, v => ∃ w, g.Edge v w ∧ Path n w

/-- What is read from an object always ends in the same way. -/
structure Calm (left : Machine → Machine → Prop) (r : Ref) : Prop where
  length : (g.behind r).isArray = true → g.Settles left (lengthOf (.object r))
  items : (g.behind r).isArray = true → ∀ n, g.Tells (lengthOf (.object r)) n →
    ∀ i < n, g.Settles left (readItem r i)
  error : (g.behind r).isArray = false → (g.heap.object r).isError = true →
    (∃ j, ∀ p, g.Tells (dumpError (.object r) p) (j, p)) ∨
      ∀ p, g.Fails left (dumpError (.object r) p)
  keys : (g.behind r).isArray = false → (g.heap.object r).isError = false →
    g.Settles left (shownKeysOf r)
  fields : (g.behind r).isArray = false → (g.heap.object r).isError = false →
    ∀ keys, g.Tells (shownKeysOf r) keys → ∀ key ∈ keys, g.Settles left (getOf r key)

/-- So it is with everything that can be reached from a value. -/
def Steady (left : Machine → Machine → Prop) (v : Value) : Prop :=
  ∀ r, Relation.ReflTransGen g.Edge v (.object r) → g.calls (.object r) = false → g.Calm left r

variable {g} in
theorem Steady.part {left : Machine → Machine → Prop} {v w : Value} (hv : g.Steady left v)
    (edge : g.Edge v w) : g.Steady left w :=
  fun r reached => hv r (.head edge reached)

/-! ### Trees -/

/-- A value that is no object, as a document; a text may be none. -/
def leaf? : Value → Option Json
  | .undefined | .null | .bigint _ | .symbol _ => some .null
  | .bool b => some (.bool b)
  | .number d => some d.toDocument
  | .string t => t.toUnicode.toOption.map .str
  | .object _ => none

/-- The name of a field in a document, as the conversion reads it: cut at the first NUL.  A text may be
none. -/
def fieldName? : Key → Option String
  | .text t => t.toUnicode.toOption.map documentKey
  | .symbol _ => some (documentKey "")

/-- The items of an array from an index on. -/
inductive Items (r : Ref) : Nat → List Value → Prop
  | nil {i : Nat} : Items r i []
  | cons {i : Nat} {v : Value} {vs : List Value} (reads : g.Tells (readItem r i) v)
      (rest : Items r (i + 1) vs) : Items r i (v :: vs)

/-- The fields that an object keeps under some keys, with their names in a document. -/
inductive Fields (r : Ref) : List Key → List (String × Value) → Prop
  | nil : Fields r [] []
  | omitted {key : Key} {keys : List Key} {v : Value} {fields : List (String × Value)}
      (reads : g.Tells (getOf r key) v) (omits : g.omits v = true) (rest : Fields r keys fields) :
      Fields r (key :: keys) fields
  | kept {key : Key} {keys : List Key} {name : String} {v : Value} {fields : List (String × Value)}
      (named : fieldName? key = some name) (reads : g.Tells (getOf r key) v)
      (keeps : g.omits v = false) (rest : Fields r keys fields) :
      Fields r (key :: keys) ((name, v) :: fields)

/-- The documents of fields under their names. -/
def labelled (fields : List (String × Value)) (js : List Json) : List (String × Json) :=
  List.zipWith (fun f j => (f.1, j)) fields js

/-- A value as a document, where `part` tells the documents of its parts. -/
inductive Node (part : Value → Json → Prop) : Value → Json → Prop
  | leaf {v : Value} {j : Json} (bare : leaf? v = some j) : Node part v j
  | function {r : Ref} (calls : g.calls (.object r) = true) : Node part (.object r) .null
  | array {r : Ref} {vs : List Value} {js : List Json} (passive : g.calls (.object r) = false)
      (array : (g.behind r).isArray = true) (counts : g.Tells (lengthOf (.object r)) vs.length)
      (items : g.Items r 0 vs) (parts : List.Forall₂ part vs js) : Node part (.object r) (.arr js)
  | error {r : Ref} {j : Json} (passive : g.calls (.object r) = false)
      (notArray : (g.behind r).isArray = false) (isError : (g.heap.object r).isError = true)
      (tells : ∀ p, g.Tells (dumpError (.object r) p) (j, p)) : Node part (.object r) j
  | object {r : Ref} {keys : List Key} {fields : List (String × Value)} {js : List Json}
      (passive : g.calls (.object r) = false) (notArray : (g.behind r).isArray = false)
      (notError : (g.heap.object r).isError = false) (lists : g.Tells (shownKeysOf r) keys)
      (offers : g.Fields r keys fields) (parts : List.Forall₂ (fun f j => part f.2 j) fields js) :
      Node part (.object r) (.obj (Json.sortFields (labelled fields js)))

/-- The value unfolds to a tree of so many levels at most. -/
def Unfolds : Nat → Value → Json → Prop
  | 0, _, _ => False
  | n + 1, v, j => g.Node (Unfolds n) v j

section Uniqueness

variable {g} {r : Ref}

theorem Items.unique {i : Nat} {vs ws : List Value} (hv : g.Items r i vs) (hw : g.Items r i ws)
    (same : vs.length = ws.length) : vs = ws := by
  induction hv generalizing ws with
  | nil => exact (List.length_eq_zero_iff.mp same.symm).symm
  | cons reads _ ih =>
    cases hw with
    | nil => cases same
    | cons reads' rest' => rw [reads.unique reads', ih rest' (Nat.succ.inj same)]

theorem Items.mem {i : Nat} {vs : List Value} (hv : g.Items r i vs) {k : Nat} {w : Value}
    (above : i ≤ k) (inside : k < i + vs.length) (reads : g.Tells (readItem r k) w) : w ∈ vs := by
  induction hv with
  | nil => exact absurd inside (Nat.not_lt_of_le above)
  | @cons i v vs first _ ih =>
    rcases Nat.eq_or_lt_of_le above with rfl | later
    · exact reads.unique first ▸ List.mem_cons_self ..
    · refine List.mem_cons_of_mem _ (ih later ?_)
      rw [List.length_cons] at inside
      omega

theorem Fields.unique {keys : List Key} {fields fields' : List (String × Value)}
    (hf : g.Fields r keys fields) (hf' : g.Fields r keys fields') : fields = fields' := by
  induction hf generalizing fields' with
  | nil =>
    cases hf'
    rfl
  | omitted reads omits _ ih =>
    cases hf' with
    | omitted reads' omits' rest' => exact ih rest'
    | kept named' reads' keeps' rest' =>
      rw [reads.unique reads', keeps'] at omits
      cases omits
  | kept named reads keeps _ ih =>
    cases hf' with
    | omitted reads' omits' rest' =>
      rw [reads.unique reads', omits'] at keeps
      cases keeps
    | kept named' reads' keeps' rest' =>
      rw [reads.unique reads', Option.some.inj (named.symm.trans named'), ih rest']

theorem Fields.mem {keys : List Key} {fields : List (String × Value)} (hf : g.Fields r keys fields)
    {key : Key} {w : Value} (listed : key ∈ keys) (reads : g.Tells (getOf r key) w)
    (kept : g.omits w = false) : ∃ name, (name, w) ∈ fields := by
  induction hf with
  | nil => cases listed
  | omitted first omits _ ih =>
    rcases List.mem_cons.mp listed with rfl | listed
    · rw [reads.unique first, omits] at kept
      cases kept
    · exact ih listed
  | @kept _ _ name _ _ _ first _ _ ih =>
    rcases List.mem_cons.mp listed with rfl | listed
    · exact ⟨name, reads.unique first ▸ List.mem_cons_self ..⟩
    · exact (ih listed).imp fun _ => List.mem_cons_of_mem _

variable {part part' : Value → Json → Prop}

/-- Documents of the same parts are the same if those of each part are. -/
theorem parts_unique {γ : Type} {f : γ → Value} {vs : List γ} {js js' : List Json}
    (agree : ∀ v j j', part v j → part' v j' → j = j')
    (hj : List.Forall₂ (fun v j => part (f v) j) vs js)
    (hj' : List.Forall₂ (fun v j => part' (f v) j) vs js') : js = js' := by
  induction hj generalizing js' with
  | nil =>
    cases hj'
    rfl
  | cons head _ ih =>
    cases hj' with
    | cons head' rest' => rw [agree _ _ _ head head', ih rest']

theorem Node.unique (agree : ∀ v j j', part v j → part' v j' → j = j') {v : Value} {j j' : Json}
    (hj : g.Node part v j) (hj' : g.Node part' v j') : j = j' := by
  cases hj with
  | leaf bare =>
    cases hj' with
    | leaf bare' => exact Option.some.inj (bare.symm.trans bare')
    | _ => cases bare
  | function calls =>
    cases hj' with
    | leaf bare' => cases bare'
    | function => rfl
    | array passive' => cases calls.symm.trans passive'
    | error passive' => cases calls.symm.trans passive'
    | object passive' => cases calls.symm.trans passive'
  | array passive array counts items parts =>
    cases hj' with
    | leaf bare' => cases bare'
    | function calls' => cases calls'.symm.trans passive
    | array _ _ counts' items' parts' =>
      obtain rfl := items.unique items' (counts.unique counts')
      rw [parts_unique (f := id) agree parts parts']
    | error _ notArray' => cases array.symm.trans notArray'
    | object _ notArray' => cases array.symm.trans notArray'
  | error passive notArray isError tells =>
    cases hj' with
    | leaf bare' => cases bare'
    | function calls' => cases calls'.symm.trans passive
    | array _ array' => cases array'.symm.trans notArray
    | error _ _ _ tells' => exact congrArg Prod.fst ((tells {}).unique (tells' {}))
    | object _ _ notError' => cases isError.symm.trans notError'
  | object passive notArray notError lists offers parts =>
    cases hj' with
    | leaf bare' => cases bare'
    | function calls' => cases calls'.symm.trans passive
    | array _ array' => cases array'.symm.trans notArray
    | error _ _ isError' => cases isError'.symm.trans notError
    | object _ _ _ lists' offers' parts' =>
      obtain rfl := lists.unique lists'
      obtain rfl := offers.unique offers'
      rw [parts_unique (f := Prod.snd) agree parts parts']

/-- A value unfolds to one tree at most.  The induction is on the levels of the first one. -/
theorem Unfolds.unique {n n' : Nat} {v : Value} {j j' : Json} (hj : g.Unfolds n v j)
    (hj' : g.Unfolds n' v j') : j = j' := by
  induction n generalizing n' v j j' with
  | zero => exact hj.elim
  | succ n ih =>
    cases n' with
    | zero => exact hj'.elim
    | succ n' =>
      have agree (v : Value) (j j' : Json) (hv : g.Unfolds n v j) (hv' : g.Unfolds n' v j') :
          j = j' := ih hv hv'
      exact Node.unique agree hj hj'

end Uniqueness

/-! ### How a walk ends -/

/-- The same machine, later. -/
def Later (m m' : Machine) : Prop := ∃ clock expired, m' = { m with clock, expired }

theorem Later.refl (m : Machine) : Later m m := ⟨m.clock, m.expired, rfl⟩

theorem Later.trans {a b c : Machine} : Later a b → Later b c → Later a c := by
  rintro ⟨_, _, rfl⟩ ⟨clock, expired, rfl⟩
  exact ⟨clock, expired, rfl⟩

theorem Later.heap {m m' : Machine} : Later m m' → m'.heap = m.heap := by
  rintro ⟨_, _, rfl⟩
  rfl

/-- The machine that a walk leaves when it fails: the same one, later, apart from what the reading
did that has failed. -/
def Given (left : Machine → Machine → Prop) (m m' : Machine) : Prop :=
  ∃ m₁, Later m m₁ ∧ (m' = m₁ ∨ left m₁ m')

/-- How a part of a walk ends that reads a steady value: well, with something that is `good` and
nothing changed, or with a complaint, which is of the depth only if there is something `deep`. -/
structure Ends (left : Machine → Machine → Prop) (x : Walker α) (good : α → Prop) (deep : Prop) :
    Prop where
  ok : ∀ m p a p' m', m.heap = g.heap → (x p).run g.apply m = .ok (a, p') m' → Later m m' ∧ good a
  error : ∀ m p e p' m', m.heap = g.heap → (x p).run g.apply m = .error (e, p') m' →
    Given left m m' ∧ (e = .tooDeep → deep)

namespace Ends

variable {g} {left : Machine → Machine → Prop} {deep : Prop}

theorem pure {good : α → Prop} {a : α} (ha : good a) : g.Ends left (pure a) good deep where
  ok := by
    rintro m p _ _ _ _ ⟨⟩
    exact ⟨.refl m, ha⟩
  error := by
    rintro _ _ _ _ _ _ ⟨⟩

theorem fail {good : α → Prop} {e : ConversionError} (he : e = .tooDeep → deep) :
    g.Ends left (Walker.fail e) good deep where
  ok := by
    rintro _ _ _ _ _ _ ⟨⟩
  error := by
    rintro m _ _ _ _ _ ⟨⟩
    exact ⟨⟨m, .refl m, .inl rfl⟩, he⟩

theorem bind {x : Walker α} {next : α → Walker β} {good : α → Prop} {good' : β → Prop}
    (hx : g.Ends left x good deep) (hnext : ∀ a, good a → g.Ends left (next a) good' deep) :
    g.Ends left (x >>= next) good' deep where
  ok m p b p' m' hm ok := by
    obtain ⟨a, p₁, m₁, first, rest⟩ := Walker.ok_bind ok
    obtain ⟨later, ha⟩ := hx.ok _ _ _ _ _ hm first
    obtain ⟨later', hb⟩ := (hnext a ha).ok _ _ _ _ _ (later.heap.trans hm) rest
    exact ⟨later.trans later', hb⟩
  error m p e p' m' hm failed := by
    rw [Walker.run_bind] at failed
    cases h : (x p).run g.apply m with
    | error r m₁ =>
      rw [h] at failed
      cases failed
      exact hx.error _ _ _ _ _ hm h
    | ok r m₁ =>
      rw [h] at failed
      obtain ⟨later, ha⟩ := hx.ok _ _ _ _ _ hm h
      obtain ⟨⟨m₂, later', given⟩, why⟩ :=
        (hnext _ ha).error _ _ _ _ _ (later.heap.trans hm) failed
      exact ⟨⟨m₂, later.trans later', given⟩, why⟩

theorem mono {x : Walker α} {good good' : α → Prop} {deep' : Prop}
    (hx : g.Ends left x good deep) (better : ∀ a, good a → good' a) (deeper : deep → deep') :
    g.Ends left x good' deep' where
  ok m p a p' m' hm h := (hx.ok m p a p' m' hm h).imp_right (better a)
  error m p e p' m' hm h := (hx.error m p e p' m' hm h).imp_right fun why he => deeper (why he)

theorem charge (budget : Budget) (payload : Nat) :
    g.Ends left (charge budget payload) (fun _ => True) deep where
  ok m p a p' m' _ ok := by
    unfold ScriptHost.charge at ok
    dsimp only at ok
    split at ok
    · cases ok
    · simp only [Computation.run_bind, Computation.run_tick] at ok
      split at ok
      · cases ok
      · cases ok
        exact ⟨⟨_, _, rfl⟩, trivial⟩
  error m p e p' m' _ failed := by
    unfold ScriptHost.charge at failed
    dsimp only at failed
    split at failed
    · cases failed
      exact ⟨⟨m, .refl m, .inl rfl⟩, fun he => nomatch he⟩
    · simp only [Computation.run_bind, Computation.run_tick] at failed
      split at failed
      · cases failed
        exact ⟨⟨_, ⟨_, _, rfl⟩, .inl rfl⟩, fun he => nomatch he⟩
      · cases failed

theorem ofScript {s : Script α} (settles : g.Settles left s) :
    g.Ends left (Walker.ofScript s) (g.Tells s) deep where
  ok m p a p' m' hm ok := by
    rw [Walker.run_ofScript] at ok
    rcases settles with ⟨b, tells⟩ | fails
    · rw [tells m hm] at ok
      cases ok
      exact ⟨.refl m, tells⟩
    · obtain ⟨e, m₁, failed, _⟩ := fails m hm
      rw [failed] at ok
      cases ok
  error m p e p' m' hm failed := by
    rw [Walker.run_ofScript] at failed
    rcases settles with ⟨b, tells⟩ | fails
    · rw [tells m hm] at failed
      cases failed
    · obtain ⟨h, m₁, halted, spoilt⟩ := fails m hm
      rw [halted] at failed
      cases failed
      exact ⟨⟨m, .refl m, .inr spoilt⟩, fun he => nomatch he⟩

/-- What a look tells is known. -/
theorem look {s : Script α} {a : α} (tells : g.Tells s a) :
    g.Ends left (Walker.ofScript s) (fun b => b = a) deep :=
  (ofScript (.inl ⟨a, tells⟩)).mono (fun _ told => told.unique tells) id

theorem dumpError {v : Value}
    (settles : (∃ j, ∀ p, g.Tells (dumpError v p) (j, p)) ∨ ∀ p, g.Fails left (dumpError v p)) :
    g.Ends left (dumpError v) (fun j => ∀ p, g.Tells (ScriptHost.dumpError v p) (j, p)) deep where
  ok m p a p' m' hm ok := by
    rcases settles with ⟨j, tells⟩ | fails
    · rw [tells p m hm] at ok
      cases ok
      exact ⟨.refl m, tells⟩
    · obtain ⟨e, m₁, failed, _⟩ := fails p m hm
      rw [failed] at ok
      cases ok
  error m p e p' m' hm failed := by
    rcases settles with ⟨j, tells⟩ | fails
    · rw [tells p m hm] at failed
      cases failed
    · obtain ⟨h, m₁, halted, spoilt⟩ := fails p m hm
      obtain ⟨-, cause, rfl⟩ := (unpaid_dumpError v).of_error failed
      rw [halted] at failed
      cases failed
      exact ⟨⟨m, .refl m, .inr spoilt⟩, fun he => nomatch he⟩

theorem keyText (key : Key) :
    g.Ends left (keyText key) (fun name => fieldName? key = some (documentKey name)) deep := by
  unfold ScriptHost.keyText
  cases key with
  | symbol s => exact .pure rfl
  | text t =>
    dsimp only
    cases h : t.toUnicode with
    | ok s => exact .pure (by simp [fieldName?, h, Except.toOption])
    | error i => exact .fail fun he => nomatch he

end Ends

/-! ### The walk of a steady value -/

section Walks

variable {g} {left : Machine → Machine → Prop} {deep : Prop} {part : Value → Json → Prop}
  {item : Value → Walker Json} {r : Ref}

theorem ends_dumpItems (n i : Nat) (done : Array Json)
    (reads : ∀ k, i ≤ k → k < i + n → g.Settles left (readItem r k))
    (parts : ∀ k v, i ≤ k → k < i + n → g.Tells (readItem r k) v →
      g.Ends left (item v) (part v) deep) :
    g.Ends left (dumpItems item r n i done) (fun js => ∃ vs ts, js.toList = done.toList ++ ts ∧
      vs.length = n ∧ g.Items r i vs ∧ List.Forall₂ part vs ts) deep := by
  induction n generalizing i done with
  | zero => exact .pure ⟨[], [], (List.append_nil _).symm, rfl, .nil, .nil⟩
  | succ n ih =>
    have here : i < i + (n + 1) := Nat.lt_add_of_pos_right (Nat.succ_pos n)
    refine .bind (.ofScript (reads i (Nat.le_refl i) here)) fun v told => ?_
    refine .bind (parts i v (Nat.le_refl i) here told) fun j hj => ?_
    have rest := ih (i + 1) (done.push j) (fun k _ _ => reads k (by omega) (by omega))
      fun k w _ _ => parts k w (by omega) (by omega)
    refine rest.mono ?_ id
    rintro js ⟨vs, ts, eq, len, items, hts⟩
    refine ⟨v :: vs, j :: ts, ?_, congrArg Nat.succ len, .cons told items, .cons hj hts⟩
    rw [eq, Array.toList_push, List.append_assoc]
    rfl

theorem ends_dumpFields (budget : Budget) (keys : List Key) (done : List (String × Json))
    (reads : ∀ key ∈ keys, g.Settles left (getOf r key))
    (parts : ∀ key ∈ keys, ∀ v, g.Tells (getOf r key) v → g.omits v = false →
      g.Ends left (item v) (part v) deep) :
    g.Ends left (dumpFields budget item r keys done) (fun js => ∃ fields ts,
      js = (labelled fields ts).foldl (fun acc f => Json.insertField f.1 f.2 acc) done ∧
      g.Fields r keys fields ∧ List.Forall₂ (fun f j => part f.2 j) fields ts) deep := by
  induction keys generalizing done with
  | nil => exact .pure ⟨[], [], rfl, .nil, .nil⟩
  | cons key keys ih =>
    have later (done : List (String × Json)) :=
      ih done (fun k hk => reads k (.tail _ hk)) fun k hk => parts k (.tail _ hk)
    refine .bind (.keyText key) fun name named => ?_
    refine .bind (.ofScript (reads key (.head _))) fun v told => ?_
    refine .bind (.look (g.tells_isOmitted v)) fun omitted ho => ?_
    subst ho
    cases omits : g.omits v with
    | true =>
      refine (later done).mono ?_ id
      rintro js ⟨fields, ts, eq, hf, hts⟩
      exact ⟨fields, ts, eq, .omitted told omits hf, hts⟩
    | false =>
      refine .bind (.charge budget _) fun _ _ => ?_
      refine .bind (parts key (.head _) v told omits) fun j hj => ?_
      refine (later _).mono ?_ id
      rintro js ⟨fields, ts, eq, hf, hts⟩
      exact ⟨(documentKey name, v) :: fields, j :: ts, eq, .kept named told omits hf, .cons hj hts⟩

/-- How a walk ends that has so many levels left for a value: well only if no path from the value is
that long, and then with the tree that the value unfolds to.  It complains of the depth only if
there is such a path. -/
def EndsAt (g : Scene) (left : Machine → Machine → Prop) (levels : Nat) (v : Value)
    (x : Walker Json) : Prop :=
  g.Ends left x (fun j => ¬ g.Path levels v ∧ g.Unfolds levels v j) (g.Path levels v)

variable {budget : Budget} {levels : Nat}

theorem endsAt_leaf {v : Value} {j : Json} (bare : leaf? v = some j) :
    g.EndsAt left (levels + 1) v (pure j) := by
  refine .pure ⟨?_, .leaf bare⟩
  rintro ⟨w, edge, -⟩
  cases edge <;> cases bare

theorem endsAt_function (calls : g.calls (.object r) = true) :
    g.EndsAt left (levels + 1) (.object r) (pure .null) := by
  refine .pure ⟨?_, .function calls⟩
  rintro ⟨w, ⟨passive, _⟩ | ⟨passive, _⟩, -⟩
  · cases calls.symm.trans passive
  · cases calls.symm.trans passive

theorem endsAt_array {n : Nat} (calm : g.Calm left r) (passive : g.calls (.object r) = false)
    (array : (g.behind r).isArray = true) (counts : g.Tells (lengthOf (.object r)) n)
    (walks : ∀ {w}, g.Edge (.object r) w → g.EndsAt left levels w (dumpAt budget levels w)) :
    g.EndsAt left (levels + 1) (.object r) (do
      let items ← dumpItems (dumpAt budget levels) r n 0 #[]
      return .arr items.toList) := by
  have reads : ∀ k, 0 ≤ k → k < 0 + n → g.Settles left (readItem r k) := fun k _ inside =>
    calm.items array n counts k (Nat.zero_add n ▸ inside)
  have parts : ∀ k w, 0 ≤ k → k < 0 + n → g.Tells (readItem r k) w →
      g.Ends left (dumpAt budget levels w) (fun j => ¬ g.Path levels w ∧ g.Unfolds levels w j)
        (g.Path (levels + 1) (.object r)) := by
    intro k w _ inside told
    have edge : g.Edge (.object r) w := .item passive array counts (Nat.zero_add n ▸ inside) told
    exact (walks edge).mono (fun _ => id) fun path => ⟨w, edge, path⟩
  refine .bind (ends_dumpItems n 0 #[] reads parts) ?_
  rintro js ⟨vs, ts, eq, len, items, hts⟩
  obtain ⟨shallow, unfold⟩ := (List.forall₂_and_left ..).mp hts
  refine .pure ⟨?_, ?_⟩
  · -- What an edge leads to is an item, and every item was found shallow.
    rintro ⟨w, edge, path⟩
    cases edge with
    | item _ _ counts' inside told =>
      rw [← counts.unique counts', ← len] at inside
      exact shallow w (items.mem (Nat.zero_le _) (by omega) told) path
    | field _ notArray => cases array.symm.trans notArray
  · rw [eq]
    exact .array passive array (len ▸ counts) items unfold

theorem endsAt_error (calm : g.Calm left r) (passive : g.calls (.object r) = false)
    (notArray : (g.behind r).isArray = false) (error : (g.heap.object r).isError = true) :
    g.EndsAt left (levels + 1) (.object r) (dumpError (.object r)) := by
  refine (Ends.dumpError (calm.error notArray error)).mono (fun j told => ⟨?_, ?_⟩) id
  · rintro ⟨w, edge, -⟩
    cases edge with
    | item _ array => cases notArray.symm.trans array
    | field _ _ notError => cases error.symm.trans notError
  · exact .error passive notArray error told

theorem endsAt_object {keys : List Key} (calm : g.Calm left r)
    (passive : g.calls (.object r) = false) (notArray : (g.behind r).isArray = false)
    (notError : (g.heap.object r).isError = false) (lists : g.Tells (shownKeysOf r) keys)
    (walks : ∀ {w}, g.Edge (.object r) w → g.EndsAt left levels w (dumpAt budget levels w)) :
    g.EndsAt left (levels + 1) (.object r) (do
      let fields ← dumpFields budget (dumpAt budget levels) r keys []
      return .obj fields) := by
  have parts : ∀ key ∈ keys, ∀ w, g.Tells (getOf r key) w → g.omits w = false →
      g.Ends left (dumpAt budget levels w) (fun j => ¬ g.Path levels w ∧ g.Unfolds levels w j)
        (g.Path (levels + 1) (.object r)) := by
    intro key hk w told kept
    have edge : g.Edge (.object r) w := .field passive notArray notError lists hk told kept
    exact (walks edge).mono (fun _ => id) fun path => ⟨w, edge, path⟩
  refine .bind (ends_dumpFields budget keys [] (calm.fields notArray notError keys lists) parts) ?_
  rintro js ⟨fields, ts, rfl, offers, hts⟩
  obtain ⟨shallow, unfold⟩ := (List.forall₂_and_left ..).mp hts
  refine .pure ⟨?_, .object passive notArray notError lists offers unfold⟩
  -- What an edge leads to is a field that is kept, and each of those was found shallow.
  rintro ⟨w, edge, path⟩
  cases edge with
  | item _ array => cases notArray.symm.trans array
  | field _ _ _ lists' hk told kept =>
    obtain ⟨name, listed⟩ := offers.mem (lists'.unique lists ▸ hk) told kept
    exact shallow _ listed path

/-- The walk of a steady value ends so.  The induction is on the levels. -/
theorem ends_dumpAt (budget : Budget) (levels : Nat) {v : Value} (steady : g.Steady left v) :
    g.EndsAt left levels v (dumpAt budget levels v) := by
  induction levels generalizing v with
  | zero => exact .fail fun _ => trivial
  | succ levels ih =>
    refine .bind (.charge budget 0) fun _ _ => ?_
    cases v with
    | string t =>
      dsimp only
      cases h : t.toUnicode with
      | ok s =>
        exact .bind (.charge budget _) fun _ _ =>
          endsAt_leaf (by simp [leaf?, h, Except.toOption])
      | error i => exact .fail fun he => nomatch he
    | object r =>
      refine .bind (.look (g.tells_isCallable _)) fun callable hc => ?_
      subst hc
      cases calls : g.calls (.object r) with
      | true => exact endsAt_function calls
      | false =>
      have calm := steady r .refl calls
      have walks {w : Value} (edge : g.Edge (.object r) w) :
          g.EndsAt left levels w (dumpAt budget levels w) := ih (steady.part edge)
      refine .bind (.look (g.tells_holdsArray r)) fun isArray ha => ?_
      subst ha
      cases array : (g.behind r).isArray with
      | true =>
        exact .bind (.ofScript (calm.length array)) fun n counts =>
          endsAt_array calm calls array counts walks
      | false =>
      refine .bind (.look (a := (g.heap.object r).frame) fun m hm => by
        rw [Computation.run_readObject, hm]) fun o ho => ?_
      subst ho
      rw [Object.isError_frame]
      cases error : (g.heap.object r).isError with
      | true => exact endsAt_error calm calls array error
      | false =>
        exact .bind (.ofScript (calm.keys array error)) fun keys lists =>
          endsAt_object calm calls array error lists walks
    | _ => exact endsAt_leaf rfl

end Walks

end Scene

end ScriptHost
