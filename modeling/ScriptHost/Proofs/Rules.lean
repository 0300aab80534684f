import ScriptHost.Capability.Registry

/-!
# The rules of a table

* `Method.WellFormed`, `Namespace.WellFormed`, `Registry.WellFormed`: tables that keep the rules;
* `Check`, `Registry.checks`: what is asked of a table, in the order in which it is looked at;
* `FirstBroken`, `Reports`: the fault of the first of some checks that does not hold;
* `Registry.reports_checks`: this is the fault of a table;
* `Registry.Judged`, `Registry.judged`: which tables are accepted, what is reported of the others, and
  what look-ups by name find in the accepted ones.
-/

namespace ScriptHost

/-! ### Tables that keep the rules -/

/-- Whether no rest argument comes before the last place. -/
def Method.RestLast (m : Method) : Prop :=
  ∀ i, m.args[i]? = some .restStrings → i + 1 = m.args.length

structure Method.WellFormed (m : Method) : Prop where
  restLast : m.RestLast
  arity : m.invoke.arity = m.args.length

structure Namespace.WellFormed (ns : Namespace) : Prop where
  gate : ns.permission.key = ns.name
  inhabited : ns.methods ≠ []
  distinct : ns.methods.Pairwise fun a b => a.name ≠ b.name
  methods : ∀ m ∈ ns.methods, m.WellFormed

structure Registry.WellFormed (rows : Registry) : Prop where
  distinct : rows.Pairwise fun a b => a.name ≠ b.name
  namespaces : ∀ ns ∈ rows, ns.WellFormed

/-! ### Checks -/

/-- A check of a table: what it asks for, and the fault if that does not hold. -/
structure Check where
  asked : Prop
  fault : SchemaFault

/-- What is asked of a row that comes after some others. -/
def Method.checks (namespaceName : String) (before : List Method) (m : Method) : List Check :=
  [⟨∀ b ∈ before, b.name ≠ m.name, .duplicateMethod namespaceName m.name⟩,
    ⟨m.RestLast, .restNotLast namespaceName m.name⟩,
    ⟨m.invoke.arity = m.args.length,
      .arityMismatch namespaceName m.name m.args.length m.invoke.arity⟩]

/-- What is asked of each item of a row, which may depend on the items before it. -/
def checksOfEach {α : Type} (checks : List α → α → List Check) (items : List α) : List Check :=
  items.zipIdx.flatMap fun (a, i) => checks (items.take i) a

/-- What is asked of a namespace that comes after some others. -/
def Namespace.checks (before : List Namespace) (ns : Namespace) : List Check :=
  [⟨∀ b ∈ before, b.name ≠ ns.name, .duplicateNamespace ns.name⟩,
    ⟨ns.permission.key = ns.name, .permissionMismatch ns.name ns.permission⟩,
    ⟨ns.methods ≠ [], .emptyNamespace ns.name⟩] ++
  checksOfEach (Method.checks ns.name) ns.methods

/-- What is asked of a table. -/
def Registry.checks (rows : Registry) : List Check := checksOfEach Namespace.checks rows

/-- The first of some checks that does not hold has the fault. -/
inductive FirstBroken : List Check → SchemaFault → Prop
  | here {c : Check} {rest : List Check} (broken : ¬ c.asked) : FirstBroken (c :: rest) c.fault
  | later {c : Check} {rest : List Check} {f : SchemaFault} (kept : c.asked)
    (found : FirstBroken rest f) : FirstBroken (c :: rest) f

theorem FirstBroken.unique {checks : List Check} {f g : SchemaFault} (hf : FirstBroken checks f)
    (hg : FirstBroken checks g) : f = g := by
  induction hf with
  | here broken =>
    cases hg with
    | here _ => rfl
    | later kept _ => exact absurd kept broken
  | later kept _ ih =>
    cases hg with
    | here broken => exact absurd kept broken
    | later _ found => exact ih found

theorem FirstBroken.not_all {checks : List Check} {f : SchemaFault} (hf : FirstBroken checks f) :
    ¬ ∀ c ∈ checks, c.asked := by
  intro all
  induction hf with
  | here broken => exact broken (all _ (List.mem_cons_self ..))
  | later _ _ ih => exact ih fun c hc => all c (List.mem_cons_of_mem _ hc)

/-- The fault that is reported of some checks, if any, is that of the first that does not hold. -/
def Reports (checks : List Check) : Option SchemaFault → Prop
  | none => ∀ c ∈ checks, c.asked
  | some f => FirstBroken checks f

namespace Reports

variable {checks checks' : List Check} {found found' : Option SchemaFault}

theorem nil : Reports [] none := List.forall_mem_nil _

/-- One check after the other. -/
theorem cons_of_asked {c : Check} (asked : c.asked) (rest : Reports checks found) :
    Reports (c :: checks) found := by
  cases found with
  | none => exact List.forall_mem_cons.2 ⟨asked, rest⟩
  | some f => exact .later asked rest

/-- Some checks after others are looked at only if all of those hold. -/
theorem append (first : Reports checks found) (second : Reports checks' found') :
    Reports (checks ++ checks') (found.or found') := by
  induction checks with
  | nil =>
    cases found with
    | none => exact second
    | some f => cases first
  | cons c checks ih =>
    cases found with
    | none =>
      obtain ⟨asked, rest⟩ := List.forall_mem_cons.1 first
      exact cons_of_asked asked (ih rest)
    | some f =>
      cases first with
      | here broken => exact .here broken
      | later kept found => exact .later kept (ih found)

theorem eq_none_iff (reports : Reports checks found) : found = none ↔ ∀ c ∈ checks, c.asked := by
  cases found with
  | none => exact ⟨fun _ => reports, fun _ => rfl⟩
  | some f => exact ⟨(nomatch ·), fun all => absurd all (FirstBroken.not_all reports)⟩

theorem eq_some_iff (reports : Reports checks found) (f : SchemaFault) :
    found = some f ↔ FirstBroken checks f := by
  cases found with
  | none => exact ⟨(nomatch ·), fun broken => absurd reports broken.not_all⟩
  | some g =>
    constructor
    · rintro ⟨⟩
      exact reports
    · exact fun broken => congrArg some (FirstBroken.unique reports broken)

end Reports

/-! ### The fault of a table -/

theorem Method.restLast_iff (m : Method) :
    m.RestLast ↔ ¬ m.args.dropLast.contains .restStrings = true := by
  rw [List.contains_iff_mem, List.mem_iff_getElem?, RestLast]
  simp only [List.getElem?_dropLast]
  constructor
  · rintro restLast ⟨i, found⟩
    split at found
    · have := restLast i found
      omega
    · cases found
  · intro apart i found
    have inside : i < m.args.length := (List.getElem?_eq_some_iff.1 found).1
    rcases Nat.lt_or_ge i (m.args.length - 1) with early | last
    · exact absurd ⟨i, by rw [if_pos early, found]⟩ apart
    · omega

/-- What is reported of a single row, whose name is looked at elsewhere. -/
theorem Method.reports_fault? (namespaceName : String) (m : Method) :
    Reports ((m.checks namespaceName []).tail) (m.fault? namespaceName) := by
  unfold fault? checks
  split
  · next early => exact .here fun restLast => (restLast_iff m).1 restLast early
  · next restLast =>
    refine .cons_of_asked ((restLast_iff m).2 restLast) ?_
    split
    · next differs => exact .here differs
    · next same => exact .cons_of_asked (Decidable.not_not.1 same) .nil

section Rows

variable {α : Type} {checks : List α → α → List Check}

/-- What is asked of the items of a row from some item on, where some others come before that. -/
def checksFrom (checks : List α → α → List Check) (before rest : List α) : List Check :=
  (rest.zipIdx before.length).flatMap fun (a, i) => checks ((before ++ rest).take i) a

theorem checksFrom_cons (before : List α) (a : α) (rest : List α) :
    checksFrom checks before (a :: rest) =
      checks before a ++ checksFrom checks (before ++ [a]) rest := by
  simp [checksFrom]

end Rows

/-- The names that were seen are those of the rows before. -/
def Seen {α : Type} (name : α → String) (seen : List String) (before : List α) : Prop :=
  ∀ n, seen.contains n = true ↔ ∃ b ∈ before, name b = n

namespace Seen

variable {α : Type} {name : α → String} {seen : List String} {before : List α}

theorem nil : Seen name [] [] := fun n => by simp

theorem concat (h : Seen name seen before) (a : α) : Seen name (name a :: seen) (before ++ [a]) := by
  intro n
  have old := h n
  simp only [List.contains_cons, Bool.or_eq_true, beq_iff_eq, old, List.mem_append,
    List.mem_singleton]
  grind

theorem not_contains_iff (h : Seen name seen before) (n : String) :
    ¬ seen.contains n = true ↔ ∀ b ∈ before, name b ≠ n := by
  rw [h n]
  exact ⟨fun unseen b hb same => unseen ⟨b, hb, same⟩, fun apart ⟨b, hb, same⟩ => apart b hb same⟩

end Seen

theorem Namespace.reports_methodsFault? (namespaceName : String) {seen : List String}
    {before : List Method} (hseen : Seen Method.name seen before) (rest : List Method) :
    Reports (checksFrom (Method.checks namespaceName) before rest)
      (methodsFault? namespaceName seen rest) := by
  -- the names seen grow with the rows before, which is what the induction carries along
  induction rest generalizing seen before with
  | nil => exact .nil
  | cons m rest ih =>
    rw [checksFrom_cons, methodsFault?]
    split
    · next again =>
      exact .here fun unseen => (hseen.not_contains_iff m.name).2 unseen again
    · next unseen =>
      have unseen := (hseen.not_contains_iff m.name).1 unseen
      exact .cons_of_asked unseen ((m.reports_fault? namespaceName).append (ih (hseen.concat m)))

theorem Registry.reports_faultAfter? {seen : List String} {before : List Namespace}
    (hseen : Seen Namespace.name seen before) (rest : Registry) :
    Reports (checksFrom Namespace.checks before rest) (faultAfter? seen rest) := by
  induction rest generalizing seen before with
  | nil => exact .nil
  | cons ns rest ih =>
    rw [checksFrom_cons, faultAfter?]
    split
    · next again =>
      exact .here fun unseen => (hseen.not_contains_iff ns.name).2 unseen again
    · next unseen =>
      have unseen := (hseen.not_contains_iff ns.name).1 unseen
      refine .cons_of_asked unseen (.append ?_ (ih (hseen.concat ns)))
      unfold Namespace.fault?
      split
      · next differs => exact .here differs
      · next same =>
        refine .cons_of_asked (Decidable.not_not.1 same) ?_
        split
        · next empty => exact .here fun inhabited => inhabited (List.isEmpty_iff.1 empty)
        · next inhabited =>
          exact .cons_of_asked (fun empty => inhabited (List.isEmpty_iff.2 empty))
            (Namespace.reports_methodsFault? ns.name .nil ns.methods)

/-- The fault of a table is that of the first check that does not hold. -/
theorem Registry.reports_checks (rows : Registry) : Reports rows.checks rows.fault? :=
  reports_faultAfter? .nil rows

/-! ### Accepted tables -/

/-- Items are pairwise apart if each is apart from those before it. -/
theorem pairwise_iff_take {α : Type} {r : α → α → Prop} (items : List α) :
    items.Pairwise r ↔ ∀ (a : α) (i : Nat), items[i]? = some a → ∀ b ∈ items.take i, r b a := by
  rw [List.pairwise_iff_getElem]
  constructor
  · intro apart a i found b hb
    obtain ⟨inside, rfl⟩ := List.getElem?_eq_some_iff.1 found
    obtain ⟨j, early, rfl⟩ := List.mem_take_iff_getElem.1 hb
    exact apart j i _ inside (by omega)
  · intro apart i j hi hj less
    exact apart _ j (List.getElem?_eq_getElem hj) _ (List.mem_take_iff_getElem.2 ⟨i, by omega, rfl⟩)

theorem forall_checksOfEach {α : Type} {checks : List α → α → List Check} {items : List α} :
    (∀ c ∈ checksOfEach checks items, c.asked) ↔
      ∀ (a : α) (i : Nat), items[i]? = some a → ∀ c ∈ checks (items.take i) a, c.asked := by
  simp only [checksOfEach, List.mem_flatMap, Prod.exists, List.mem_zipIdx_iff_getElem?]
  exact ⟨fun h a i found c hc => h c ⟨a, i, found, hc⟩,
    fun h c ⟨a, i, found, hc⟩ => h a i found c hc⟩

theorem Method.forall_checks {namespaceName : String} {before : List Method} {m : Method} :
    (∀ c ∈ m.checks namespaceName before, c.asked) ↔
      (∀ b ∈ before, b.name ≠ m.name) ∧ m.WellFormed := by
  simp only [checks, List.forall_mem_cons, List.not_mem_nil, false_implies, implies_true, and_true]
  exact ⟨fun ⟨fresh, last, arity⟩ => ⟨fresh, last, arity⟩,
    fun ⟨fresh, last, arity⟩ => ⟨fresh, last, arity⟩⟩

theorem Namespace.forall_checks {before : List Namespace} {ns : Namespace} :
    (∀ c ∈ ns.checks before, c.asked) ↔ (∀ b ∈ before, b.name ≠ ns.name) ∧ ns.WellFormed := by
  simp only [checks, List.forall_mem_append, List.forall_mem_cons, List.not_mem_nil, false_implies,
    implies_true, and_true, forall_checksOfEach, Method.forall_checks]
  constructor
  · rintro ⟨⟨fresh, gate, inhabited⟩, methods⟩
    refine ⟨fresh, gate, inhabited, (pairwise_iff_take _).2 fun m i found => (methods m i found).1,
      fun m hm => ?_⟩
    obtain ⟨i, found⟩ := List.mem_iff_getElem?.1 hm
    exact (methods m i found).2
  · rintro ⟨fresh, wellFormed⟩
    exact ⟨⟨fresh, wellFormed.gate, wellFormed.inhabited⟩, fun m i found =>
      ⟨(pairwise_iff_take _).1 wellFormed.distinct m i found,
        wellFormed.methods m (List.mem_of_getElem? found)⟩⟩

theorem Registry.forall_checks {rows : Registry} :
    (∀ c ∈ rows.checks, c.asked) ↔ rows.WellFormed := by
  simp only [checks, forall_checksOfEach, Namespace.forall_checks]
  constructor
  · intro h
    refine ⟨(pairwise_iff_take _).2 fun ns i found => (h ns i found).1, fun ns hns => ?_⟩
    obtain ⟨i, found⟩ := List.mem_iff_getElem?.1 hns
    exact (h ns i found).2
  · rintro wellFormed ns i found
    exact ⟨(pairwise_iff_take _).1 wellFormed.distinct ns i found,
      wellFormed.namespaces ns (List.mem_of_getElem? found)⟩

/-- The table is accepted just if it keeps the rules. -/
theorem Registry.fault?_eq_none_iff (rows : Registry) : rows.fault? = none ↔ rows.WellFormed :=
  rows.reports_checks.eq_none_iff.trans forall_checks

/-! ### Look-ups -/

/-- Where no two items share a name, a look-up finds the only one that has it. -/
theorem filter_eq_find?_toList {α : Type} {name : α → String} {items : List α}
    (distinct : items.Pairwise fun a b => name a ≠ name b) (n : String) :
    items.filter (fun a => name a = n) = (items.find? fun a => name a = n).toList := by
  induction items with
  | nil => rfl
  | cons a rest ih =>
    obtain ⟨apart, distinct⟩ := List.pairwise_cons.1 distinct
    by_cases same : name a = n
    · have none : rest.filter (fun b => name b = n) = [] := by
        refine List.filter_eq_nil_iff.2 fun b hb => ?_
        have other := apart b hb
        rw [same] at other
        simpa using other.symm
      rw [List.filter_cons_of_pos (by simpa using same), none,
        List.find?_cons_of_pos (by simpa using same)]
      rfl
    · rw [List.filter_cons_of_neg (by simpa using same),
        List.find?_cons_of_neg (by simpa using same)]
      exact ih distinct

/-- Where no two items share a name, each is found under its own. -/
theorem find?_of_distinct {α : Type} {name : α → String} {items : List α}
    (distinct : items.Pairwise fun a b => name a ≠ name b) {a : α} (ha : a ∈ items) :
    items.find? (fun b => name b = name a) = some a := by
  have named : a ∈ items.filter fun b => name b = name a := List.mem_filter.2 ⟨ha, by simp⟩
  rw [filter_eq_find?_toList distinct] at named
  exact Option.mem_toList.1 named

/-- How a table is judged. -/
structure Registry.Judged (rows : Registry) : Prop where
  /-- It is accepted just if it keeps the rules. -/
  accepted : rows.fault? = none ↔ rows.WellFormed
  /-- Of others the fault of the first check is reported that does not hold. -/
  refused : ∀ f, rows.fault? = some f ↔ FirstBroken rows.checks f
  /-- In an accepted table no permission gates two namespaces. -/
  gates : rows.fault? = none → rows.Pairwise fun a b => a.permission ≠ b.permission
  /-- A look-up in it finds the only namespace of a name, if there is one. -/
  namespaces : rows.fault? = none → ∀ name,
    List.filter (fun ns => ns.name = name) rows = (rows.namespace? name).toList
  /-- A look-up in one of its namespaces finds the only row of a name, if there is one. -/
  methods : rows.fault? = none → ∀ ns ∈ rows, ∀ name,
    ns.methods.filter (fun m => m.name = name) = (ns.method? name).toList

/-- How every table is judged. -/
theorem Registry.judged (rows : Registry) : rows.Judged where
  accepted := rows.fault?_eq_none_iff
  refused := rows.reports_checks.eq_some_iff
  gates valid := by
    have wellFormed := rows.fault?_eq_none_iff.1 valid
    have gate {ns : Namespace} (hns : ns ∈ rows) := (wellFormed.namespaces ns hns).gate
    refine wellFormed.distinct.imp_of_mem fun {a b} ha hb apart same => apart ?_
    rw [← gate ha, ← gate hb, same]
  namespaces valid name := filter_eq_find?_toList (rows.fault?_eq_none_iff.1 valid).distinct name
  methods valid ns hns name :=
    filter_eq_find?_toList ((rows.fault?_eq_none_iff.1 valid).namespaces ns hns).distinct name

end ScriptHost
