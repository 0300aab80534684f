import ScriptHost.Proofs.Reading
import ScriptHost.Proofs.Walk

/-!
# The bill of a conversion

* `Bill`: what a conversion has paid for, and the errors that it has met;
* `billedAt`, `billed`: a value as a document, with the bill;
* `dumpAt_eq`: without its bill this is the conversion;
* `billedAt_accounts`: all that a document takes is on the bill;
* `dump_bill`: what is paid for keeps to the budget, so that only errors can go beyond it.
-/

namespace ScriptHost

/-! ### Bills -/

/-- What a conversion has done with its budget. -/
structure Bill where
  /-- The bytes that were paid for. -/
  paid : Nat := 0
  /-- The documents that errors have become.  Only one node was paid for each. -/
  errors : List Json := []
  /-- The bytes on the bill that the document lacks: the second node that is paid for a text or a
  field, and fields that gave way to later ones of the same name. -/
  spare : Nat := 0

namespace Bill

/-- The bill of a single node. -/
def node : Bill := { paid := Json.nodeCost }

/-- The bill of so many bytes of text, on top of their node. -/
def text (bytes : Nat) : Bill := { paid := Json.nodeCost + bytes, spare := Json.nodeCost }

/-- The bill of a name of so many bytes that replaces some others. -/
def name (bytes replaced : Nat) : Bill :=
  { paid := Json.nodeCost + bytes, spare := Json.nodeCost + replaced }

/-- The bill of the document of an error. -/
def error (j : Json) : Bill := { paid := Json.nodeCost, errors := [j] }

/-- Two bills in one. -/
def plus (a b : Bill) : Bill := ⟨a.paid + b.paid, a.errors ++ b.errors, a.spare + b.spare⟩

/-- The bytes that nobody has paid for. -/
def unpaid (b : Bill) : Nat := total (b.errors.map fun j => j.size - Json.nodeCost)

end Bill

/-- The bytes of the field that a new one of the same name replaces. -/
def Json.replacedBy (key : String) : List (String × Json) → Nat
  | [] => 0
  | (k, v) :: rest =>
    if key < k then 0 else if key = k then k.utf8ByteSize + v.size else replacedBy key rest

/-! ### The walk with its bill -/

/-- The items of an array as documents, with their bill. -/
def billedItems (item : Value → Walker (Json × Bill)) (r : Ref) :
    Nat → Nat → Array Json × Bill → Walker (Array Json × Bill)
  | 0, _, done => return done
  | n + 1, i, done => do
    let v ← Walker.ofScript (readItem r i)
    let j ← item v
    billedItems item r n (i + 1) (done.1.push j.1, done.2.plus j.2)

/-- The fields of an object under some keys, with their bill. -/
def billedFields (budget : Budget) (item : Value → Walker (Json × Bill)) (r : Ref) :
    List Key → List (String × Json) × Bill → Walker (List (String × Json) × Bill)
  | [], done => return done
  | key :: keys, done => do
    let name := documentKey (← keyText key)
    let v ← Walker.ofScript (getOf r key)
    if ← Walker.ofScript (isOmitted v) then billedFields budget item r keys done
    else
      charge budget name.utf8ByteSize
      let j ← item v
      let named := Bill.name name.utf8ByteSize (Json.replacedBy name done.1)
      billedFields budget item r keys
        (Json.insertField name j.1 done.1, (done.2.plus named).plus j.2)

/-- A value as a document, with its bill. -/
def billedAt (budget : Budget) : Nat → Value → Walker (Json × Bill)
  | 0, _ => .fail .tooDeep
  | levels + 1, v => do
    charge budget 0
    match v with
    | .undefined | .null | .bigint _ | .symbol _ => return (.null, .node)
    | .bool b => return (.bool b, .node)
    | .number d => return (d.toDocument, .node)
    | .string t =>
      match t.toUnicode with
      | .ok s => do
        charge budget s.utf8ByteSize
        return (.str s, Bill.node.plus (.text s.utf8ByteSize))
      | .error i => .fail (.engine (.brokenText i))
    | .object r =>
      let item := billedAt budget levels
      if ← Walker.ofScript (isCallable v) then return (.null, .node)
      else if ← Walker.ofScript (holdsArray r) then
        let length ← Walker.ofScript (lengthOf v)
        let items ← billedItems item r length 0 (#[], .node)
        return (.arr items.1.toList, items.2)
      else if (← Walker.ofScript (readObject r)).isError then
        let j ← dumpError v
        return (j, .error j)
      else
        let keys ← Walker.ofScript (shownKeysOf r)
        let fields ← billedFields budget item r keys ([], .node)
        return (.obj fields.1, fields.2)

/-- A value as a document, with its bill, under a budget. -/
def billed (budget : Budget) (v : Value) : Conversion (Json × Bill) :=
  (billedAt budget (maxDepth + 1) v {}).sequel (fun (j, _) => .give j) fun (e, _) => .fail e

/-! ### Without the bill -/

section Erasure

variable {budget : Budget} {item : Value → Walker Json} {counted : Value → Walker (Json × Bill)}

theorem dumpItems_eq (hitem : ∀ v, item v = Prod.fst <$> counted v) (r : Ref) (n i : Nat)
    (done : Array Json × Bill) :
    dumpItems item r n i done.1 = Prod.fst <$> billedItems counted r n i done := by
  induction n generalizing i done with
  | zero => simp [dumpItems, billedItems]
  | succ n ih => simp [dumpItems, billedItems, hitem, ← ih]

theorem dumpFields_eq (hitem : ∀ v, item v = Prod.fst <$> counted v) (r : Ref) (keys : List Key)
    (done : List (String × Json) × Bill) :
    dumpFields budget item r keys done.1 = Prod.fst <$> billedFields budget counted r keys done := by
  induction keys generalizing done with
  | nil => simp [dumpFields, billedFields]
  | cons key keys ih =>
    simp only [dumpFields, billedFields, map_bind]
    refine bind_congr fun name => bind_congr fun v => bind_congr fun omitted => ?_
    split
    · exact ih done
    · simp [hitem, ← ih]

/-- Without its bill a walk is the walk of the conversion. -/
theorem dumpAt_eq (levels : Nat) (v : Value) :
    dumpAt budget levels v = Prod.fst <$> billedAt budget levels v := by
  induction levels generalizing v with
  | zero => rfl
  | succ levels ih =>
    simp only [dumpAt, billedAt, map_bind]
    refine bind_congr fun _ => ?_
    cases v with
    | string t =>
      dsimp only
      cases t.toUnicode with
      | ok s => simp
      | error i => rfl
    | object r =>
      simp only [map_bind]
      refine bind_congr fun callable => ?_
      split
      · rfl
      · simp only [map_bind]
        refine bind_congr fun isArray => ?_
        split
        · have items (n : Nat) := dumpItems_eq ih r n 0 (#[], .node)
          simp [items]
        · simp only [map_bind]
          refine bind_congr fun o => ?_
          split
          · simp
          · have fields (keys : List Key) := @dumpFields_eq budget _ _ ih r keys ([], .node)
            simp [fields]
    | _ => simp

end Erasure

/-! ### Sizes -/

theorem total_append (ms ns : List Nat) : total (ms ++ ns) = total ms + total ns := by
  induction ms with
  | nil => simp [total]
  | cons m ms ih => simp [total, ih, Nat.add_assoc]

namespace Bill

@[simp] theorem unpaid_plus (a b : Bill) : (a.plus b).unpaid = a.unpaid + b.unpaid := by
  simp [unpaid, plus, total_append]

@[simp] theorem unpaid_node : node.unpaid = 0 := rfl

@[simp] theorem unpaid_text (bytes : Nat) : (text bytes).unpaid = 0 := rfl

@[simp] theorem unpaid_name (bytes replaced : Nat) : (name bytes replaced).unpaid = 0 := rfl

@[simp] theorem unpaid_error (j : Json) : (error j).unpaid = j.size - Json.nodeCost := by
  simp [unpaid, error, total]

end Bill

namespace Json

theorem nodeCost_le_size (j : Json) : nodeCost ≤ j.size := by
  cases j <;> simp [size]

theorem itemsSize_append (as bs : List Json) :
    itemsSize (as ++ bs) = itemsSize as + itemsSize bs := by
  induction as with
  | nil => simp [itemsSize]
  | cons a as ih => simp [itemsSize, ih, Nat.add_assoc]

/-- A new field adds its bytes, and takes away those of the field that it replaces. -/
theorem fieldsSize_insertField (key : String) (value : Json) (fields : List (String × Json)) :
    fieldsSize (insertField key value fields) + replacedBy key fields =
      key.utf8ByteSize + value.size + fieldsSize fields := by
  induction fields with
  | nil => simp [insertField, replacedBy, fieldsSize]
  | cons field rest ih =>
    obtain ⟨k, v⟩ := field
    simp only [insertField, replacedBy]
    split
    · simp [fieldsSize]
    · split
      · simp only [fieldsSize]
        omega
      · simp only [fieldsSize]
        omega

end Json

/-! ### Payments -/

namespace Walker

variable {α β : Type} {apply : Apply} {m m' : Machine} {p p' : Payment}

/-- A part of a walk that nothing is paid for. -/
def Free (x : Walker α) : Prop :=
  ∀ apply m p a p' m', (x p).run apply m = .ok (a, p') m' → p' = p

theorem Unpaid.free {x : Walker α} (hx : Unpaid x) : Free x := fun _ _ _ _ _ _ ok => (hx.of_ok ok).1

theorem Free.ofScript (s : Script α) : Free (ofScript s) := (Unpaid.ofScript s).free

/-- After a free part the payment is what it was. -/
theorem Free.ok_bind {x : Walker α} {next : α → Walker β} {b : β} (hx : Free x)
    (ok : ((x >>= next) p).run apply m = .ok (b, p') m') :
    ∃ a m₁, (next a p).run apply m₁ = .ok (b, p') m' := by
  obtain ⟨a, p₁, m₁, first, second⟩ := Walker.ok_bind ok
  exact ⟨a, m₁, hx _ _ _ _ _ _ first ▸ second⟩

end Walker

/-- Between two payments so many bytes were paid for, within the budget. -/
structure Pays (budget : Budget) (p p' : Payment) (bytes : Nat) : Prop where
  covered : min (p.spent + bytes) maxCount ≤ p'.spent
  within : p.spent ≤ budget.maxBytes → p'.spent ≤ budget.maxBytes

namespace Pays

variable {budget : Budget} {p p' p'' : Payment} {a b : Nat}

theorem trans (first : Pays budget p p' a) (second : Pays budget p' p'' b) :
    Pays budget p p'' (a + b) where
  covered := by
    have ha := first.covered
    have hb := second.covered
    omega
  within h := second.within (first.within h)

/-- A charge pays for a node and its text. -/
theorem of_charge {payload : Nat} {apply : Apply} {m m' : Machine} {u : Unit}
    (ok : (charge budget payload p).run apply m = .ok (u, p') m') :
    Pays budget p p' (Json.nodeCost + payload) := by
  unfold charge at ok
  dsimp only at ok
  split at ok
  · cases ok
  · next fits =>
    simp only [Computation.run_bind, Computation.run_tick] at ok
    split at ok
    · cases ok
    · cases ok
      refine ⟨?_, fun _ => Nat.le_of_not_lt fits⟩
      simp only [saturatingAdd]
      omega

end Pays

/-! ### Accounts -/

/-- All that a document takes is on its bill, and what the bill says is paid for was. -/
structure Accounted (budget : Budget) (p p' : Payment) (size : Nat) (bill : Bill) : Prop where
  pays : Pays budget p p' bill.paid
  balance : size + bill.spare = bill.paid + bill.unpaid

namespace Accounted

variable {budget : Budget} {p p' p'' : Payment} {m n : Nat} {a b : Bill}

theorem plus (first : Accounted budget p p' m a) (second : Accounted budget p' p'' n b) :
    Accounted budget p p'' (m + n) (a.plus b) where
  pays := first.pays.trans second.pays
  balance := by
    have ha := first.balance
    have hb := second.balance
    rw [Bill.unpaid_plus]
    simp only [Bill.plus]
    omega

end Accounted

/-- The walk of each value is accounted for. -/
def Accounts (budget : Budget) (counted : Value → Walker (Json × Bill)) : Prop :=
  ∀ v apply m p r p' m', (counted v p).run apply m = .ok (r, p') m' →
    Accounted budget p p' r.1.size r.2

section Loops

variable {budget : Budget} {counted : Value → Walker (Json × Bill)}

/-- The induction is on the items that are left; what is done is accounted for from the start of
the array on. -/
theorem billedItems_accounts (hcounted : Accounts budget counted) (r : Ref) (n i : Nat)
    {done result : Array Json × Bill} {start p p' : Payment} {apply : Apply} {m m' : Machine}
    (before : Accounted budget start p (Json.nodeCost + Json.itemsSize done.1.toList) done.2)
    (ok : (billedItems counted r n i done p).run apply m = .ok (result, p') m') :
    Accounted budget start p' (Json.nodeCost + Json.itemsSize result.1.toList) result.2 := by
  induction n generalizing i done p m with
  | zero =>
    cases ok
    exact before
  | succ n ih =>
    obtain ⟨v, m₁, ok⟩ := (Walker.Free.ofScript _).ok_bind ok
    obtain ⟨j, p₂, m₂, item, ok⟩ := Walker.ok_bind ok
    refine ih (i + 1) ?_ ok
    have more := before.plus (hcounted v _ _ _ _ _ _ item)
    rw [Array.toList_push, Json.itemsSize_append, Json.itemsSize, Json.itemsSize]
    simpa [Nat.add_assoc] using more

theorem billedFields_accounts (hcounted : Accounts budget counted) (r : Ref) (keys : List Key)
    {done result : List (String × Json) × Bill} {start p p' : Payment} {apply : Apply}
    {m m' : Machine}
    (before : Accounted budget start p (Json.nodeCost + Json.fieldsSize done.1) done.2)
    (ok : (billedFields budget counted r keys done p).run apply m = .ok (result, p') m') :
    Accounted budget start p' (Json.nodeCost + Json.fieldsSize result.1) result.2 := by
  induction keys generalizing done p m with
  | nil =>
    cases ok
    exact before
  | cons key keys ih =>
    obtain ⟨name, m₁, ok⟩ := (unpaid_keyText key).free.ok_bind ok
    obtain ⟨v, m₂, ok⟩ := (Walker.Free.ofScript _).ok_bind ok
    obtain ⟨omitted, m₃, ok⟩ := (Walker.Free.ofScript _).ok_bind ok
    split at ok
    · exact ih before ok
    · obtain ⟨_, p₁, m₄, charged, ok⟩ := Walker.ok_bind ok
      obtain ⟨j, p₂, m₅, item, ok⟩ := Walker.ok_bind ok
      refine ih ?_ ok
      have field := hcounted v _ _ _ _ _ _ item
      have inserted := Json.fieldsSize_insertField (documentKey name) j.1 done.1
      refine ⟨(before.pays.trans (Pays.of_charge charged)).trans field.pays, ?_⟩
      have old := before.balance
      have new := field.balance
      rw [Bill.unpaid_plus, Bill.unpaid_plus, Bill.unpaid_name]
      simp only [Bill.plus, Bill.name]
      omega

end Loops

/-- The walk of a value is accounted for, from any level on. -/
theorem billedAt_accounts (budget : Budget) (levels : Nat) : Accounts budget (billedAt budget levels) := by
  induction levels with
  | zero =>
    rintro v apply m p r p' m' ⟨⟩
  | succ levels ih =>
    intro v apply m p r p' m' ok
    obtain ⟨_, p₁, m₁, charged, ok⟩ := Walker.ok_bind ok
    have node : Pays budget p p₁ Json.nodeCost := Pays.of_charge charged
    have leaf : Accounted budget p p₁ Json.nodeCost .node := ⟨node, rfl⟩
    cases v with
    | string t =>
      dsimp only at ok
      cases ht : t.toUnicode with
      | error i =>
        rw [ht] at ok
        cases ok
      | ok s =>
        rw [ht] at ok
        obtain ⟨_, p₂, m₂, chargedText, ok⟩ := Walker.ok_bind ok
        cases ok
        refine ⟨node.trans (Pays.of_charge chargedText), ?_⟩
        rw [Bill.unpaid_plus, Bill.unpaid_node, Bill.unpaid_text]
        simp only [Json.size, Bill.plus, Bill.node, Bill.text]
        omega
    | object r =>
      obtain ⟨callable, m₂, ok⟩ := (Walker.Free.ofScript _).ok_bind ok
      split at ok
      · cases ok
        exact leaf
      · obtain ⟨isArray, m₃, ok⟩ := (Walker.Free.ofScript _).ok_bind ok
        split at ok
        · obtain ⟨length, m₄, ok⟩ := (Walker.Free.ofScript _).ok_bind ok
          obtain ⟨items, p₂, m₅, walked, ok⟩ := Walker.ok_bind ok
          cases ok
          exact billedItems_accounts ih r length 0 leaf walked
        · obtain ⟨o, m₄, ok⟩ := (Walker.Free.ofScript _).ok_bind ok
          split at ok
          · obtain ⟨j, m₅, ok⟩ := (unpaid_dumpError _).free.ok_bind ok
            cases ok
            refine ⟨node, ?_⟩
            have least := j.nodeCost_le_size
            rw [Bill.unpaid_error]
            simp only [Bill.error]
            omega
          · obtain ⟨keys, m₅, ok⟩ := (Walker.Free.ofScript _).ok_bind ok
            obtain ⟨fields, p₂, m₆, walked, ok⟩ := Walker.ok_bind ok
            cases ok
            exact billedFields_accounts ih r keys leaf walked
    | number d =>
      cases ok
      have size : d.toDocument.size = Json.nodeCost := by
        unfold Double.toDocument
        split
        · rfl
        · split <;> rfl
      exact ⟨node, by rw [size]; rfl⟩
    | _ =>
      cases ok
      exact leaf

/-! ### Conversions -/

/-- Without its bill a conversion is what it is. -/
theorem run_dump (budget : Budget) (v : Value) (apply : Apply) (m : Machine) :
    (dump budget v).run apply m = (Prod.fst <$> billed budget v).run apply m := by
  simp only [dump, billed, dumpAt_eq, Computation.run_map, Computation.run_sequel, Walker.run_map]
  cases (billedAt budget (maxDepth + 1) v {}).run apply m <;> rfl

/-- How a document and its bill keep to a budget. -/
structure Bill.Settles (budget : Budget) (j : Json) (bill : Bill) : Prop where
  /-- What was paid for keeps to the budget, as far as it is counted. -/
  paid : min bill.paid maxCount ≤ budget.maxBytes
  /-- All that the document takes is on the bill. -/
  balance : j.size + bill.spare = bill.paid + bill.unpaid
  /-- The document keeps to the budget just as far as what was not paid for fits into the rest. -/
  limit : budget.maxBytes < maxCount →
    (j.size ≤ budget.maxBytes ↔ bill.unpaid ≤ budget.maxBytes - bill.paid + bill.spare)
  /-- Without errors it does. -/
  sound : budget.maxBytes < maxCount → bill.errors = [] → j.size ≤ budget.maxBytes

/-- A conversion that ends well has a bill that settles its budget: only the documents of errors
are not paid for. -/
theorem dump_bill {budget : Budget} {v : Value} {apply : Apply} {m m' : Machine} {j : Json}
    (ok : (dump budget v).run apply m = .ok j m') :
    ∃ bill, (billed budget v).run apply m = .ok (j, bill) m' ∧ bill.Settles budget j := by
  rw [run_dump, Computation.run_map] at ok
  cases hbilled : (billed budget v).run apply m with
  | error e m₁ =>
    rw [hbilled] at ok
    cases ok
  | ok r m₁ =>
    rw [hbilled] at ok
    cases ok
    obtain ⟨j, bill⟩ := r
    obtain ⟨p', walked⟩ : ∃ p', (billedAt budget (maxDepth + 1) v {}).run apply m =
        .ok ((j, bill), p') m' := by
      simp only [billed, Computation.run_sequel] at hbilled
      cases hwalk : (billedAt budget (maxDepth + 1) v {}).run apply m with
      | error e m₁ =>
        rw [hwalk] at hbilled
        cases hbilled
      | ok r m₁ =>
        obtain ⟨r, p'⟩ := r
        rw [hwalk] at hbilled
        cases hbilled
        exact ⟨p', rfl⟩
    have accounted := billedAt_accounts budget _ v _ _ _ _ _ _ walked
    have covered : min (0 + bill.paid) maxCount ≤ p'.spent := accounted.pays.covered
    have within : p'.spent ≤ budget.maxBytes := accounted.pays.within (Nat.zero_le _)
    have balance : j.size + bill.spare = bill.paid + bill.unpaid := accounted.balance
    rw [Nat.zero_add] at covered
    refine ⟨bill, rfl, Nat.le_trans covered within, balance, fun counted => ?_,
      fun counted errorless => ?_⟩
    · show j.size ≤ budget.maxBytes ↔ _
      omega
    · show j.size ≤ budget.maxBytes
      have unpaid : bill.unpaid = 0 := by rw [Bill.unpaid, errorless]; rfl
      omega

/-! ### Errors -/

section Errors

variable {h : Heap} {r : Nat} {name message : String} {p q : Property}

/-- An error makes the document of its name and its message, however long these are, for the cost
of one node. -/
theorem makes_error (hr : (h.object r).kind = .error)
    (hname : h.own? (h.object r) (Key.named "name") = some p)
    (hp : p.content = .data (.ofString name))
    (hmessage : h.own? (h.object r) (Key.named "message") = some q)
    (hq : q.content = .data (.ofString message)) {budget : Budget}
    (timeless : budget.deadline = none) (levels : Nat) :
    Walker.Makes budget h (dumpAt budget (levels + 1) (.object r))
      (.obj [("message", .str message), ("name", .str name)]) Json.nodeCost := by
  have direct : (h.object r).isProxy = false := by simp [Object.isProxy, hr]
  have callable : (h.object r).callable?.isSome = false := by simp [Object.callable?, hr]
  have isArray : (h.object r).isArray = false := by simp [Object.isArray, hr]
  have isError : (h.object r).isError = true := by simp [Object.isError, hr]
  have named : Walker.Makes budget h (errorName (.object r)) (some name) 0 := by
    refine .free_bind (a := .ofString name) (.ofScript fun apply m hm => ?_) (.pure _)
    rw [Heap.run_getProperty apply hm direct hname, readContent, hp]
    rfl
  have readable : Walker.Makes budget h (.ofScript (readableText (.object r) "message"))
      (some message) 0 := by
    refine .ofScript fun apply m hm => ?_
    simp only [readableText, attempt, catchThrown, Computation.run_sequel, Computation.run_bind,
      Heap.run_getProperty apply hm direct hmessage, readContent, hq]
    rfl
  have errored : Walker.Makes budget h (dumpError (.object r))
      (.obj [("message", .str message), ("name", .str name)]) 0 :=
    .free_bind named (.free_bind readable (.pure _))
  refine (Walker.Makes.charge timeless 0).bind (d := 0) (.free_bind
    (.ofScript fun apply m hm => Heap.run_isCallable apply hm direct) ?_)
  rw [callable, if_neg Bool.false_ne_true]
  refine .free_bind (.ofScript fun apply m hm => Heap.run_holdsArray apply hm direct) ?_
  rw [isArray, if_neg Bool.false_ne_true]
  refine .free_bind (a := (h.object r).frame) (.ofScript fun apply m hm => ?_) ?_
  · rw [Computation.run_readObject, hm]
  · rw [Object.isError_frame, isError, if_pos rfl]
    exact errored

end Errors

/-- A machine with a single object: an error with a name and a message. -/
def errorMachine : Machine where
  heap := { objects := #[{ kind := .error, prototype := none
                           properties := [("message", .plain (.ofString "bad color")),
                             ("name", .plain (.ofString "TypeError"))] }] }
  backend := .empty
  logs := {}

/-- The document of the error of that machine. -/
def errorDocument : Json := .obj [("message", .str "bad color"), ("name", .str "TypeError")]

theorem dump_errorMachine :
    ∃ m', (dump ⟨16, none⟩ (.object 0)).run .none errorMachine = .ok errorDocument m' := by
  have makes : Walker.Makes ⟨16, none⟩ errorMachine.heap
      (dumpAt ⟨16, none⟩ (maxDepth + 1) (.object 0)) errorDocument Json.nodeCost :=
    makes_error rfl rfl rfl rfl rfl rfl _
  obtain ⟨clock, dumped⟩ := (run_dump_of_makes makes .none).1 (Nat.le_refl _)
  exact ⟨_, dumped⟩

/-- The bill of that error. -/
theorem dump_bill_error :
    ∃ m', (dump ⟨16, none⟩ (.object 0)).run .none errorMachine = .ok errorDocument m' ∧
      ∃ bill, (billed ⟨16, none⟩ (.object 0)).run .none errorMachine =
        .ok (errorDocument, bill) m' ∧ bill.Settles ⟨16, none⟩ errorDocument := by
  obtain ⟨m', dumped⟩ := dump_errorMachine
  exact ⟨m', dumped, dump_bill dumped⟩

/-- An error can make a document that its budget does not allow. -/
theorem dump_error_too_large :
    ∃ m', (dump ⟨16, none⟩ (.object 0)).run .none errorMachine = .ok errorDocument m' ∧
      ¬ errorDocument.size ≤ 16 := by
  obtain ⟨m', dumped⟩ := dump_errorMachine
  exact ⟨m', dumped, by decide⟩

end ScriptHost
