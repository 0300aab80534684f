import Mathlib.Data.Option.Basic
import ScriptHost.Config

/-!
# Layers of configurations

Configurations are laid on top of each other, and only the whole is resolved.  What it resolves to
can be told from the layers: each setting is what the last layer says that says anything about it,
and only the limits that come out have to be ones that a session can run under.

* `Config.Setting`: one thing that a configuration may say, with what merging does to it;
* `Config.Setting.Settled`: what a list of configurations says in all about a setting;
* `Config.Layering`: configurations merged in some grouping;
* `Overrides.ListedBy`: the decisions one by one, in whatever order;
* `Config.layers_compose`: the laws of merging, and what layers resolve to.
-/

namespace ScriptHost

attribute [ext] Overrides Permissions LimitOverrides Config

/-! ### Limits to run under -/

/-- A session can run under the ceilings. -/
structure Limits.Suffice (l : Limits) : Prop where
  memory : Limits.minMemoryBytes ≤ l.memoryBytes
  stack : Limits.minStackBytes ≤ l.maxStackBytes
  time : l.timeoutMs ≠ 0

theorem Limits.fault?_eq_none_iff (l : Limits) : l.fault? = none ↔ l.Suffice := by
  unfold fault?
  constructor
  · intro h
    split at h
    · cases h
    · split at h
      · cases h
      · split at h
        · cases h
        · exact ⟨by omega, by omega, by omega⟩
  · rintro ⟨memory, stack, time⟩
    rw [if_neg (by omega), if_neg (by omega), if_neg time]

/-! ### Decisions one by one -/

namespace Overrides

/-- The list holds the decisions, each at least once, in whatever order. -/
def ListedBy (o : Overrides) (ds : List (Permission × Bool)) : Prop :=
  ∀ p granted, (p, granted) ∈ ds ↔ o.decision p = some granted

theorem listedBy_toList (o : Overrides) : o.ListedBy o.toList := by
  intro p granted
  simp only [toList, List.mem_filterMap, Option.map_eq_some_iff, Prod.mk.injEq]
  constructor
  · rintro ⟨q, -, g, decided, rfl, rfl⟩
    exact decided
  · intro decided
    exact ⟨p, p.mem_all, granted, decided, rfl, rfl⟩

theorem ListedBy.perm {o : Overrides} {ds es : List (Permission × Bool)} (h : o.ListedBy ds)
    (same : ds.Perm es) : o.ListedBy es :=
  fun p granted => same.mem_iff.symm.trans (h p granted)

/-- Whatever is written one by one, each permission's own place changed by its own decision: in the
end every place holds what was decided for it, or what it held. -/
theorem ListedBy.read_foldl {σ β : Type} {step : σ → Permission × Bool → σ}
    (read : σ → Permission → β) (written : Bool → β)
    (read_step : ∀ s d p, read (step s d) p = if p = d.1 then written d.2 else read s p)
    {o : Overrides} {ds : List (Permission × Bool)} (h : o.ListedBy ds) (s : σ) (p : Permission) :
    read (ds.foldl step s) p = ((o.decision p).map written).getD (read s p) := by
  -- on the list, whose decisions about `p` are all the same one
  have walked (ds : List (Permission × Bool)) (s : σ) :
      (∃ granted, (p, granted) ∈ ds ∧ read (ds.foldl step s) p = written granted) ∨
        (∀ granted, (p, granted) ∉ ds) ∧ read (ds.foldl step s) p = read s p := by
    induction ds generalizing s with
    | nil => exact .inr ⟨fun _ => List.not_mem_nil, rfl⟩
    | cons d ds ih =>
      rcases ih (step s d) with ⟨granted, later, eq⟩ | ⟨never, eq⟩
      · exact .inl ⟨granted, List.mem_cons_of_mem _ later, eq⟩
      · rw [read_step] at eq
        by_cases here : p = d.1
        · rw [if_pos here] at eq
          exact .inl ⟨d.2, by rw [here]; exact List.mem_cons_self .., eq⟩
        · rw [if_neg here] at eq
          refine .inr ⟨fun granted hd => ?_, eq⟩
          rcases List.mem_cons.mp hd with rfl | hd
          · exact here rfl
          · exact never granted hd
  rcases walked ds s with ⟨granted, hd, eq⟩ | ⟨never, eq⟩
  · rw [eq, (h p granted).mp hd]
    rfl
  · have undecided : o.decision p = none :=
      Option.eq_none_iff_forall_ne_some.mpr fun granted decided =>
        never granted ((h p granted).mpr decided)
    rw [eq, undecided]
    rfl

/-- Decisions that are put on others one by one win over them, in whatever order. -/
theorem ListedBy.foldl_set {o : Overrides} {ds : List (Permission × Bool)} (h : o.ListedBy ds)
    (a : Overrides) : ds.foldl (fun o (p, granted) => o.set p granted) a = a.merged o := by
  ext1
  funext p
  rw [h.read_foldl decision some fun _ _ _ => rfl]
  show ((o.decision p).map some).getD (a.decision p) = (o.decision p).or (a.decision p)
  cases o.decision p <;> rfl

end Overrides

/-- The set with one decision carried out. -/
def Permissions.carryOut (s : Permissions) : Permission × Bool → Permissions
  | (p, true) => s.grant p
  | (p, false) => s.deny p

theorem Permissions.isGranted_carryOut (s : Permissions) (d : Permission × Bool) (p : Permission) :
    (s.carryOut d).isGranted p = if p = d.1 then d.2 else s.isGranted p := by
  obtain ⟨q, granted⟩ := d
  by_cases here : p = q <;> cases granted <;> simp [carryOut, grant, deny, here]

/-- Decisions that are carried out one by one come out alike, in whatever order. -/
theorem Overrides.ListedBy.foldl_carryOut {o : Overrides} {ds : List (Permission × Bool)}
    (h : o.ListedBy ds) (s : Permissions) :
    ds.foldl Permissions.carryOut s = s.withOverrides o := by
  ext1
  funext p
  rw [h.read_foldl Permissions.isGranted id Permissions.isGranted_carryOut]
  show ((o.decision p).map id).getD (s.isGranted p) = (o.decision p).getD (s.isGranted p)
  rw [Option.map_id, id]

namespace Config

/-! ### Settings -/

/-- One thing about which a configuration may say something: on top of another, it says what it said
before, and where it said nothing the other one speaks. -/
structure Setting (α : Type) where
  choice : Config → Option α
  choice_empty : choice .empty = none
  choice_merged : ∀ a b, choice (a.merged b) = (choice b).or (choice a)

namespace Setting

variable {α : Type} (s : Setting α)

def decision (p : Permission) : Setting Bool :=
  ⟨fun c => c.permissions.decision p, rfl, fun _ _ => rfl⟩

def memory : Setting Nat := ⟨fun c => c.limits.memoryBytes, rfl, fun _ _ => rfl⟩
def stack : Setting Nat := ⟨fun c => c.limits.maxStackBytes, rfl, fun _ _ => rfl⟩
def time : Setting Nat := ⟨fun c => c.limits.timeoutMs, rfl, fun _ _ => rfl⟩

/-- What a list of configurations says in all: the last one that says anything has its way, and if
there is none the default has. -/
def Settled (default : α) (cs : List Config) (value : α) : Prop :=
  (∃ earlier c later, cs = earlier ++ c :: later ∧ s.choice c = some value ∧
    ∀ d ∈ later, s.choice d = none) ∨
  (∀ c ∈ cs, s.choice c = none) ∧ value = default

/-- What the last of some configurations says that says anything. -/
def last : List Config → Option α
  | [] => none
  | c :: cs => (last cs).or (s.choice c)

theorem last_append (cs ds : List Config) : s.last (cs ++ ds) = (s.last ds).or (s.last cs) := by
  induction cs with
  | nil => exact (Option.or_none).symm
  | cons c cs ih => rw [List.cons_append, last, ih, last, Option.or_assoc]

theorem last_eq_none_iff (cs : List Config) : s.last cs = none ↔ ∀ c ∈ cs, s.choice c = none := by
  induction cs with
  | nil => simp [last]
  | cons c cs ih => rw [last, Option.or_eq_none_iff, ih, List.forall_mem_cons, and_comm]

theorem settled_last (default : α) (cs : List Config) :
    s.Settled default cs ((s.last cs).getD default) := by
  induction cs with
  | nil => exact .inr ⟨fun _ hc => absurd hc List.not_mem_nil, rfl⟩
  | cons c cs ih =>
    rw [last]
    cases later : s.last cs with
    | some v =>
      -- what is said later than `c` stays what it was
      rw [later] at ih
      rcases ih with ⟨earlier, d, rest, rfl, said, silent⟩ | ⟨silent, -⟩
      · exact .inl ⟨c :: earlier, d, rest, rfl, said, silent⟩
      · rw [(s.last_eq_none_iff cs).mpr silent] at later
        cases later
    | none =>
      have silent := (s.last_eq_none_iff cs).mp later
      rw [Option.none_or]
      cases said : s.choice c with
      | some v => exact .inl ⟨[], c, cs, rfl, said, silent⟩
      | none => exact .inr ⟨List.forall_mem_cons.mpr ⟨said, silent⟩, rfl⟩

end Setting

/-- A configuration is what it says. -/
theorem ext_setting {a b : Config} (h : ∀ {α : Type} (s : Setting α), s.choice a = s.choice b) :
    a = b := by
  ext1
  · ext1
    funext p
    exact h (.decision p)
  · ext1
    · exact h .memory
    · exact h .stack
    · exact h .time

theorem merged_assoc (a b c : Config) : (a.merged b).merged c = a.merged (b.merged c) := by
  refine ext_setting fun s => ?_
  rw [s.choice_merged, s.choice_merged, s.choice_merged, s.choice_merged, Option.or_assoc]

theorem empty_merged (c : Config) : empty.merged c = c := by
  refine ext_setting fun s => ?_
  rw [s.choice_merged, s.choice_empty, Option.or_none]

theorem merged_empty (c : Config) : c.merged empty = c := by
  refine ext_setting fun s => ?_
  rw [s.choice_merged, s.choice_empty, Option.none_or]

/-! ### Groupings -/

/-- Configurations, with the way in which they are merged. -/
inductive Layering
  | nothing
  | layer (c : Config)
  | onto (lower upper : Layering)

namespace Layering

/-- The configurations, the lowest one first. -/
def layers : Layering → List Config
  | nothing => []
  | layer c => [c]
  | onto lower upper => lower.layers ++ upper.layers

/-- The configuration that comes out. -/
def config : Layering → Config
  | nothing => empty
  | layer c => c
  | onto lower upper => lower.config.merged upper.config

theorem choice_config {α : Type} (s : Setting α) (t : Layering) :
    s.choice t.config = s.last t.layers := by
  induction t with
  | nothing => exact s.choice_empty
  | layer c => exact (Option.none_or).symm
  | onto lower upper ihLower ihUpper =>
    rw [config, s.choice_merged, ihLower, ihUpper, layers, s.last_append]

/-- How the layers are grouped makes no difference. -/
theorem config_eq_of_layers {t u : Layering} (h : t.layers = u.layers) : t.config = u.config := by
  refine ext_setting fun s => ?_
  rw [choice_config, choice_config, h]

theorem settled_config {α : Type} (s : Setting α) (default : α) (t : Layering) :
    s.Settled default t.layers ((s.choice t.config).getD default) := by
  rw [choice_config]
  exact s.settled_last default t.layers

end Layering

/-! ### What layers resolve to -/

/-- The permissions that the configuration leads to. -/
def effectivePermissions (c : Config) : Permissions :=
  Permissions.defaults.withOverrides c.permissions

/-- The limits that the configuration leads to, whether or not a session can run under them. -/
def effectiveLimits (c : Config) : Limits := c.limits.applyTo .default

/-- The permissions and the limits, unless no session can run under these. -/
def checked (permissions : Permissions) (limits : Limits) :
    Except LimitsFault (Permissions × Limits) :=
  match limits.fault? with
  | some fault => .error fault
  | none => .ok (permissions, limits)

theorem resolve_eq_checked (c : Config) :
    c.resolve = checked c.effectivePermissions c.effectiveLimits := rfl

theorem effectivePermissions_merged (a b : Config) :
    (a.merged b).effectivePermissions = a.effectivePermissions.withOverrides b.permissions := by
  ext1
  funext p
  show ((b.permissions.decision p).or (a.permissions.decision p)).getD _ =
    (b.permissions.decision p).getD ((a.permissions.decision p).getD _)
  exact Option.getD_or

theorem effectiveLimits_merged (a b : Config) :
    (a.merged b).effectiveLimits = b.limits.applyTo a.effectiveLimits := by
  simp only [effectiveLimits, merged, LimitOverrides.applyTo, LimitOverrides.merged, Option.getD_or]

/-- The permissions and limits are settled by the layers, each by itself. -/
structure SettledBy (layers : List Config) (permissions : Permissions) (limits : Limits) :
    Prop where
  permission : ∀ p,
    (Setting.decision p).Settled p.grantedByDefault layers (permissions.isGranted p)
  memory : Setting.memory.Settled Limits.default.memoryBytes layers limits.memoryBytes
  stack : Setting.stack.Settled Limits.default.maxStackBytes layers limits.maxStackBytes
  time : Setting.time.Settled Limits.default.timeoutMs layers limits.timeoutMs

theorem Layering.settledBy (t : Layering) :
    SettledBy t.layers t.config.effectivePermissions t.config.effectiveLimits where
  permission p := t.settled_config (.decision p) p.grantedByDefault
  memory := t.settled_config .memory Limits.default.memoryBytes
  stack := t.settled_config .stack Limits.default.maxStackBytes
  time := t.settled_config .time Limits.default.timeoutMs

theorem checked_of_suffice (permissions : Permissions) {limits : Limits} (h : limits.Suffice) :
    checked permissions limits = .ok (permissions, limits) := by
  rw [checked, limits.fault?_eq_none_iff.mpr h]

theorem checked_of_not_suffice (permissions : Permissions) {limits : Limits}
    (h : ¬ limits.Suffice) :
    ∃ fault, limits.fault? = some fault ∧ checked permissions limits = .error fault := by
  cases found : limits.fault? with
  | none => exact absurd (limits.fault?_eq_none_iff.mp found) h
  | some fault => exact ⟨fault, rfl, by rw [checked, found]⟩

/-- How configurations compose. -/
structure LayersCompose : Prop where
  assoc : ∀ a b c : Config, (a.merged b).merged c = a.merged (b.merged c)
  empty_below : ∀ c, empty.merged c = c
  empty_above : ∀ c : Config, c.merged empty = c
  /-- How layers are grouped makes no difference. -/
  regrouped : ∀ t u : Layering, t.layers = u.layers → t.config = u.config
  /-- However the layers are grouped, only the limits that come out of all of them are checked. -/
  resolves : ∀ t : Layering, ∃ permissions limits, SettledBy t.layers permissions limits ∧
    (limits.Suffice → t.config.resolve = .ok (permissions, limits)) ∧
    (¬ limits.Suffice → ∃ fault, limits.fault? = some fault ∧ t.config.resolve = .error fault)
  /-- The upper one of two layers works on what the lower one leads to, even if that fails. -/
  onto : ∀ a b : Config,
    a.resolve = checked a.effectivePermissions a.effectiveLimits ∧
    (a.merged b).resolve = checked (a.effectivePermissions.withOverrides b.permissions)
      (b.limits.applyTo a.effectiveLimits)
  /-- The decisions of a configuration can be taken one by one in whatever order, where it is laid
  on another one and where it is resolved. -/
  unordered : ∀ (a b : Config) (ds : List (Permission × Bool)), b.permissions.toList.Perm ds →
    ds.foldl (fun o (p, granted) => o.set p granted) a.permissions = (a.merged b).permissions ∧
    ds.foldl Permissions.carryOut .defaults = b.effectivePermissions ∧
    ds.foldl Permissions.carryOut a.effectivePermissions = (a.merged b).effectivePermissions

/-- Merging is associative with the empty configuration as its identity, and what comes out of
layers is what the last of them says about each setting. -/
theorem layers_compose : LayersCompose where
  assoc := merged_assoc
  empty_below := empty_merged
  empty_above := merged_empty
  regrouped _ _ same := Layering.config_eq_of_layers same
  resolves t := by
    refine ⟨t.config.effectivePermissions, t.config.effectiveLimits, t.settledBy, ?_, ?_⟩
    · intro suffice
      rw [resolve_eq_checked]
      exact checked_of_suffice _ suffice
    · intro short
      rw [resolve_eq_checked]
      exact checked_of_not_suffice _ short
  onto a b := by
    refine ⟨resolve_eq_checked a, ?_⟩
    rw [resolve_eq_checked, effectivePermissions_merged, effectiveLimits_merged]
  unordered a b ds order := by
    have listed := b.permissions.listedBy_toList.perm order
    refine ⟨listed.foldl_set a.permissions, listed.foldl_carryOut .defaults, ?_⟩
    rw [listed.foldl_carryOut, effectivePermissions_merged]

/-- A lower layer with too little memory does no harm under one that sets more. -/
example :
    ((Config.empty.withMemory 1).merged (Config.empty.withMemory (2 * 1024 * 1024))).effectiveLimits =
      { Limits.default with memoryBytes := 2 * 1024 * 1024 } := by
  rfl

end Config

end ScriptHost
