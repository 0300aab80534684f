import ScriptHost.Proofs.EntityNumbers
import ScriptHost.Proofs.Prototypes

/-!
# The document that comes back

A document that goes to a script as a value comes back as another one: integers become doubles on the
way, and a field `__proto__` becomes a prototype.  The references in the document stay the same.

* `Json.echo`: the document that comes back;
* `Json.within_echo`, `Json.walk_echo`: it is no larger;
* `EntityRef.ofJson?_echo`, `referencesOf_echo`: it carries the same references.
-/

namespace ScriptHost

namespace Json

/-! ### The document that comes back -/

mutual

/-- The document of the value that a document becomes: its numbers as scripts hold them, and without
fields that become prototypes. -/
def echo : Json → Json
  | .int n => (Double.ofInt n).toDocument
  | .double d => d.toDocument
  | .arr items => .arr (echoItems items)
  | .obj fields => .obj (echoFields fields)
  | j => j

def echoItems : List Json → List Json
  | [] => []
  | j :: rest => echo j :: echoItems rest

def echoFields : List (String × Json) → List (String × Json)
  | [] => []
  | (k, j) :: rest => if k = protoName then echoFields rest else (k, echo j) :: echoFields rest

end

section Echo

variable {key : String} {fields : List (String × Json)} {items : List Json} {j : Json}

theorem echoItems_eq_map (items : List Json) : echoItems items = items.map echo := by
  induction items with
  | nil => rfl
  | cons j rest ih => rw [echoItems, ih, List.map_cons]

theorem echoFields_cons_proto (j : Json) (rest : List (String × Json)) :
    echoFields ((protoName, j) :: rest) = echoFields rest := by
  rw [echoFields, if_pos rfl]

theorem echoFields_cons (other : key ≠ protoName) (j : Json) (rest : List (String × Json)) :
    echoFields ((key, j) :: rest) = (key, j.echo) :: echoFields rest := by
  rw [echoFields, if_neg other]

theorem echoFields_append (fields rest : List (String × Json)) :
    echoFields (fields ++ rest) = echoFields fields ++ echoFields rest := by
  induction fields with
  | nil => rfl
  | cons f fields ih =>
    obtain ⟨k, j⟩ := f
    by_cases proto : k = protoName
    · subst proto
      rw [List.cons_append, echoFields_cons_proto, echoFields_cons_proto, ih]
    · rw [List.cons_append, echoFields_cons proto, echoFields_cons proto, ih, List.cons_append]

/-- A field that comes back comes from one of another name than the prototype's. -/
theorem mem_echoFields {f : String × Json} (hf : f ∈ echoFields fields) :
    ∃ g ∈ fields, g.1 ≠ protoName ∧ f = (g.1, g.2.echo) := by
  induction fields with
  | nil => cases hf
  | cons g fields ih =>
    obtain ⟨k, j⟩ := g
    by_cases proto : k = protoName
    · subst proto
      rw [echoFields_cons_proto] at hf
      obtain ⟨g, hg, found⟩ := ih hf
      exact ⟨g, List.mem_cons_of_mem _ hg, found⟩
    · rw [echoFields_cons proto] at hf
      rcases List.mem_cons.1 hf with rfl | later
      · exact ⟨(k, j), List.mem_cons_self .., proto, rfl⟩
      · obtain ⟨g, hg, found⟩ := ih later
        exact ⟨g, List.mem_cons_of_mem _ hg, found⟩

theorem keysIncreasing_echoFields (increasing : keysIncreasing fields = true) :
    keysIncreasing (echoFields fields) = true := by
  rw [keysIncreasing_iff] at increasing ⊢
  induction fields with
  | nil => exact .nil
  | cons f fields ih =>
    obtain ⟨k, j⟩ := f
    obtain ⟨least, later⟩ := List.pairwise_cons.1 increasing
    by_cases proto : k = protoName
    · subst proto
      rw [echoFields_cons_proto]
      exact ih later
    · rw [echoFields_cons proto]
      refine List.pairwise_cons.2 ⟨fun f hf => ?_, ih later⟩
      obtain ⟨g, hg, -, rfl⟩ := mem_echoFields hf
      exact least g hg

/-! ### Its size -/

/-- It is no deeper than the document. -/
theorem within_echo {levels : Nat} (within : j.Within levels) : j.echo.Within levels := by
  obtain ⟨levels, rfl⟩ := Nat.exists_eq_succ_of_ne_zero (Nat.ne_of_gt within.pos)
  induction j using induct generalizing levels with
  | null => exact within
  | bool b => exact within
  | str s => exact within
  | int n => exact within_toDocument _ levels
  | double d => exact within_toDocument d levels
  | arr items ih =>
    rw [echo, echoItems_eq_map]
    refine within_arr.2 fun k hk => ?_
    obtain ⟨j, hj, rfl⟩ := List.mem_map.1 hk
    have below := within_arr.1 within j hj
    obtain ⟨levels, rfl⟩ := Nat.exists_eq_succ_of_ne_zero (Nat.ne_of_gt below.pos)
    exact ih j hj levels below
  | obj fields ih =>
    rw [echo]
    refine within_obj.2 fun f hf => ?_
    obtain ⟨g, hg, -, rfl⟩ := mem_echoFields hf
    have below := within_obj.1 within g hg
    obtain ⟨levels, rfl⟩ := Nat.exists_eq_succ_of_ne_zero (Nat.ne_of_gt below.pos)
    exact ih g hg levels below

/-- The walk over it costs no more, and visits no more nodes. -/
theorem walk_echo (j : Json) : j.echo.walkCost ≤ j.walkCost ∧ j.echo.walkVisits ≤ j.walkVisits := by
  have number (d : Double) : d.toDocument.walkCost ≤ nodeCost ∧ d.toDocument.walkVisits ≤ 1 :=
    ⟨Nat.le_of_eq (walk_toDocument d).2, Nat.le_of_eq (walk_toDocument d).1⟩
  induction j using induct with
  | null => exact ⟨Nat.le_refl _, Nat.le_refl _⟩
  | bool b => exact ⟨Nat.le_refl _, Nat.le_refl _⟩
  | str s => exact ⟨Nat.le_refl _, Nat.le_refl _⟩
  | int n => exact number _
  | double d => exact number d
  | arr items ih =>
    have all : itemsWalkCost (echoItems items) ≤ itemsWalkCost items ∧
        itemsWalkVisits (echoItems items) ≤ itemsWalkVisits items := by
      induction items with
      | nil => exact ⟨Nat.le_refl _, Nat.le_refl _⟩
      | cons j rest ihRest =>
        obtain ⟨first, later⟩ := List.forall_mem_cons.1 ih
        have rest := ihRest later
        simp only [echoItems, itemsWalkCost, itemsWalkVisits]
        omega
    simp only [echo, walkCost, walkVisits]
    omega
  | obj fields ih =>
    have all : fieldsWalkCost (echoFields fields) ≤ fieldsWalkCost fields ∧
        fieldsWalkVisits (echoFields fields) ≤ fieldsWalkVisits fields := by
      induction fields with
      | nil => exact ⟨Nat.le_refl _, Nat.le_refl _⟩
      | cons f rest ihRest =>
        obtain ⟨k, j⟩ := f
        obtain ⟨first, later⟩ := List.forall_mem_cons.1 ih
        have first : j.echo.walkCost ≤ j.walkCost ∧ j.echo.walkVisits ≤ j.walkVisits := first
        have rest := ihRest later
        by_cases proto : k = protoName
        · subst proto
          simp only [echoFields_cons_proto, fieldsWalkCost, fieldsWalkVisits]
          omega
        · simp only [echoFields_cons proto, fieldsWalkCost, fieldsWalkVisits]
          omega
    simp only [echo, walkCost, walkVisits]
    omega

/-! ### Its references -/

theorem lookup?_echoFields (other : key ≠ protoName) :
    lookup? key (echoFields fields) = (lookup? key fields).map echo := by
  induction fields with
  | nil => rfl
  | cons f fields ih =>
    obtain ⟨k, j⟩ := f
    by_cases proto : k = protoName
    · subst proto
      rw [echoFields_cons_proto, ih, lookup?, if_neg (Ne.symm other)]
    · rw [echoFields_cons proto, lookup?, lookup?]
      by_cases same : k = key
      · rw [if_pos same, if_pos same]
        rfl
      · rw [if_neg same, if_neg same, ih]

theorem field?_toDocument (d : Double) : d.toDocument.field? key = none :=
  d.toDocument_cases (p := fun j => j.field? key = none) (fun _ => rfl) (fun _ => rfl) rfl

/-- Each field but the prototype's comes back. -/
theorem field?_echo (other : key ≠ protoName) : j.echo.field? key = (j.field? key).map echo := by
  cases j with
  | obj fields => exact lookup?_echoFields other
  | int n => exact field?_toDocument _
  | double d => exact field?_toDocument d
  | _ => rfl

theorem asString?_echo (j : Json) : j.echo.asString? = j.asString? := by
  have number (d : Double) : d.toDocument.asString? = none :=
    d.toDocument_cases (p := fun j => j.asString? = none) (fun _ => rfl) (fun _ => rfl) rfl
  cases j with
  | int n => exact number _
  | double d => exact number d
  | _ => rfl

end Echo

end Json

/-- An integer names an entity as the double does that scripts hold for it.  Where the two are not
the same number, neither fits 32 bits. -/
theorem expressId?_ofInt (n : Int) : (Double.ofInt n).expressId? = expressIdOfInt? n := by
  by_cases safe : n.natAbs ≤ Double.maxSafeInteger
  · have whole : (Double.ofInt n).toInt? = some n :=
      (Option.filter_eq_some_iff.1 (Double.safeInt?_ofInt safe)).1
    rw [Double.expressId?, whole, Option.bind_some]
  · have large {k : Int} (beyond : ¬ k.natAbs ≤ Double.maxSafeInteger) : expressIdOfInt? k = none := by
      have bound : twoTo 32 ≤ Double.maxSafeInteger := by decide +kernel
      rw [expressIdOfInt?, if_neg]
      simp only [Bool.and_eq_true, decide_eq_true_eq, not_and, not_lt]
      omega
    rw [large safe, Double.expressId?]
    have unsafe_ := Double.safeInt?_ofInt_of_unsafe safe
    rw [Double.safeInt?, Option.filter_eq_none_iff] at unsafe_
    cases whole : (Double.ofInt n).toInt? with
    | none => rfl
    | some k => exact large (by simpa using unsafe_ k whole)

namespace EntityRef

theorem expressIdOf?_echo (j : Json) : expressIdOf? j.echo = expressIdOf? j := by
  cases j with
  | int n => exact (expressIdOf?_toDocument _).trans (expressId?_ofInt n)
  | double d => exact expressIdOf?_toDocument d
  | _ => rfl

theorem ofBare?_echo (j : Json) : ofBare? j.echo = ofBare? j := by
  have model : j.echo.field? "modelId" = (j.field? "modelId").map Json.echo :=
    Json.field?_echo (by decide)
  have number : j.echo.field? "expressId" = (j.field? "expressId").map Json.echo :=
    Json.field?_echo (by decide)
  simp only [ofBare?, model, number, Option.bind_eq_bind, Option.bind_map, Function.comp_def,
    Json.asString?_echo, expressIdOf?_echo]

/-- The document that comes back carries the same reference. -/
theorem ofJson?_echo (j : Json) : ofJson? j.echo = ofJson? j := by
  have wrapped : j.echo.field? "ref" = (j.field? "ref").map Json.echo :=
    Json.field?_echo (by decide)
  simp only [ofJson?, wrapped, Option.bind_map, Function.comp_def, ofBare?_echo]

end EntityRef

/-- It carries the same references, in the same order. -/
theorem referencesOf_echo (j : Json) : referencesOf j.echo = referencesOf j := by
  have number (d : Double) : referencesOf d.toDocument = [] :=
    d.toDocument_cases (p := fun j => referencesOf j = []) (fun _ => rfl) (fun _ => rfl) rfl
  cases j with
  | arr items =>
    rw [Json.echo, Json.echoItems_eq_map, referencesOf, referencesOf, List.filterMap_map]
    exact congrArg (List.filterMap · items) (funext EntityRef.ofJson?_echo)
  | obj fields => exact congrArg Option.toList (EntityRef.ofJson?_echo (.obj fields))
  | int n => exact number _
  | double d => exact number d
  | _ => rfl

end ScriptHost
