import Mathlib.Data.List.Perm.Basic
import Mathlib.Data.Set.List
import ScriptHost.Proofs.Layers
import ScriptHost.Proofs.Records

/-!
# The strict reading of configurations

A configuration is written as a document with two sections, and read from one.  A key that no
configuration has makes the reading fail, and a document that is accepted says, but for nulls, what
is written for the configuration that comes out.

* `Overrides.decoder_obj_eq_ok_iff`: fields are read as the decisions that are written as them;
* `LimitOverrides.InRange`: limits that are numbers of 64 bits, as those of sessions are;
* `LimitOverrides.decoder_obj_eq_ok_iff`: which fields are read as which limits;
* `Config.Sectioned`, `Config.Known`, `Config.SameEntries`: objects whose sections are objects,
  objects without other keys, and documents with the same entries;
* `Config.Stray`: an object with one field more, of a key that no configuration has there;
* `Config.ReadsExactly`, `Config.decoder_exact`: what documents are read as.
-/

namespace ScriptHost

/-! ### Decisions -/

namespace Permission

/-- A key stands for the permission whose key it is. -/
theorem named_eq_ok_iff (k : String) (p : Permission) :
    Decoder.named choices k = .ok p ↔ p.key = k := by
  constructor
  · intro named
    unfold Decoder.named at named
    split at named
    · next q found =>
      cases named
      obtain ⟨before, after, here, -⟩ := List.lookup_eq_some_iff.1 found
      have member : (k, p) ∈ choices := by rw [here]; simp
      obtain ⟨q, -, same⟩ := List.mem_map.1 member
      cases same
      rfl
    · cases named
  · rintro rfl
    cases p <;> rfl

/-- Any other key stands for none. -/
theorem named_unknown {k : String} (unknown : k ∉ all.map key) :
    Decoder.named choices k = .error (.unknownVariant k (all.map key)) := by
  cases named : Decoder.named choices k with
  | ok p => exact absurd (List.mem_map.2 ⟨p, p.mem_all, (named_eq_ok_iff k p).1 named⟩) unknown
  | error m =>
    unfold Decoder.named at named
    split at named
    · cases named
    · cases named
      rfl

end Permission

namespace Overrides

/-- The field of a decision. -/
def entry (d : Permission × Bool) : String × Json := (d.1.key, .bool d.2)

/-- The fields of the document. -/
def fields (o : Overrides) : List (String × Json) := Json.sortFields (o.toList.map entry)

theorem entry_injective : Function.Injective entry := by
  rintro ⟨p, g⟩ ⟨q, h⟩ same
  obtain ⟨keys, values⟩ := Prod.mk.inj same
  cases Permission.key_injective keys
  cases values
  rfl

theorem entry_eq_iff (p : Permission) (g : Bool) (k : String) (j : Json) :
    Decoder.named Permission.choices k = .ok p ∧ Decoder.bool j = .ok g ↔ entry (p, g) = (k, j) := by
  have isBool : Decoder.bool j = .ok g ↔ .bool g = j := by
    cases j <;> simp [Decoder.bool, Decoder.wrongType, Decoder.fail, eq_comm]
  rw [Permission.named_eq_ok_iff, isBool, entry, Prod.mk.injEq]

/-- The list decides about each permission at most once. -/
def Once (ds : List (Permission × Bool)) : Prop := ds.Pairwise fun d e => d.1 ≠ e.1

theorem once_toList (o : Overrides) : Once o.toList := by
  have each : Permission.all.Pairwise (· ≠ ·) := by decide
  refine List.pairwise_filterMap.2 (each.imp fun {p q} apart d hd e he same => apart ?_)
  obtain ⟨g, -, rfl⟩ := Option.map_eq_some_iff.1 hd
  obtain ⟨h, -, rfl⟩ := Option.map_eq_some_iff.1 he
  exact same

theorem once_iff_distinct {ds : List (Permission × Bool)} :
    Once ds ↔ (ds.map entry).Pairwise fun f g => f.1 ≠ g.1 := by
  rw [Once, List.pairwise_map]
  exact ⟨List.Pairwise.imp fun apart same => apart (Permission.key_injective same),
    List.Pairwise.imp fun apart same => apart (congrArg Permission.key same)⟩

theorem ListedBy.ofList_eq {o : Overrides} {ds : List (Permission × Bool)} (h : o.ListedBy ds) :
    ofList ds = o := by
  refine (h.foldl_set .empty).trans ?_
  ext p
  simp [merged, empty]

/-- A list that decides about each permission at most once lists what it comes to. -/
theorem Once.listedBy {ds : List (Permission × Bool)} (once : Once ds) :
    (ofList ds).ListedBy ds := by
  have listed : ListedBy ⟨fun p => ds.lookup p⟩ ds := by
    intro p granted
    rw [List.lookup_eq_some_iff]
    constructor
    · intro hd
      obtain ⟨before, after, rfl⟩ := List.append_of_mem hd
      refine ⟨before, after, rfl, fun d earlier => ?_⟩
      have apart := (List.pairwise_append.1 once).2.2 d earlier _ (List.mem_cons_self ..)
      simpa using apart.symm
    · rintro ⟨before, after, rfl, -⟩
      simp
  rwa [listed.ofList_eq]

theorem ListedBy.perm_toList {o : Overrides} {ds : List (Permission × Bool)} (h : o.ListedBy ds)
    (once : Once ds) : o.toList.Perm ds := by
  have nodup {es : List (Permission × Bool)} (once : Once es) : es.Nodup :=
    once.imp fun apart same => apart (congrArg Prod.fst same)
  refine (List.perm_ext_iff_of_nodup (nodup o.once_toList) (nodup once)).2 ?_
  rintro ⟨p, granted⟩
  rw [o.listedBy_toList, h]

/-! #### Their document -/

theorem increasing_fields (o : Overrides) : Json.keysIncreasing o.fields = true :=
  (Json.sortFields_perm (once_iff_distinct.1 o.once_toList)).1

theorem fields_perm (o : Overrides) : o.fields.Perm (o.toList.map entry) :=
  (Json.sortFields_perm (once_iff_distinct.1 o.once_toList)).2

theorem mem_fields_iff {o : Overrides} {f : String × Json} :
    f ∈ o.fields ↔ ∃ d ∈ o.toList, entry d = f :=
  o.fields_perm.mem_iff.trans List.mem_map

theorem key_mem_of_mem_fields {o : Overrides} {f : String × Json} (hf : f ∈ o.fields) :
    f.1 ∈ Permission.all.map Permission.key := by
  obtain ⟨d, -, rfl⟩ := mem_fields_iff.1 hf
  exact List.mem_map_of_mem d.1.mem_all

theorem sorted_toJson (o : Overrides) : o.toJson.Sorted = true := by
  refine Json.sorted_obj_iff.2 ⟨o.increasing_fields, fun f hf => ?_⟩
  obtain ⟨d, -, rfl⟩ := mem_fields_iff.1 hf
  rfl

/-- The fields of the document are those of the decisions in some order. -/
theorem exists_map_entry (o : Overrides) : ∃ ds, ds.map entry = o.fields ∧ o.toList.Perm ds := by
  obtain ⟨ds, written⟩ : o.fields ∈ Set.range (List.map entry) := by
    rw [Set.range_list_map]
    intro f hf
    obtain ⟨d, -, eq⟩ := mem_fields_iff.1 hf
    exact ⟨d, eq⟩
  refine ⟨ds, written, ((List.map_perm_map_iff entry_injective).1 ?_).symm⟩
  rw [written]
  exact o.fields_perm

/-- Decisions whose fields stand in the order of their keys come to a document with these fields. -/
theorem fields_ofList {ds : List (Permission × Bool)}
    (increasing : Json.keysIncreasing (ds.map entry) = true) :
    (ofList ds).fields = ds.map entry := by
  have once : Once ds := once_iff_distinct.2 (Json.distinct_of_increasing increasing)
  exact Json.sortFields_of_perm increasing ((once.listedBy.perm_toList once).map entry)

theorem decoder_obj (fields : List (String × Json)) :
    decoder (.obj fields) =
      (Decoder.entries (Decoder.named Permission.choices) Decoder.bool fields).map ofList := rfl

/-- Fields in the order of their keys are read as the decisions that are written as these fields. -/
theorem decoder_obj_eq_ok_iff {fields : List (String × Json)}
    (increasing : Json.keysIncreasing fields = true) (o : Overrides) :
    decoder (.obj fields) = .ok o ↔ o.fields = fields := by
  have readsAs (ds : List (Permission × Bool)) :
      Decoder.entries (Decoder.named Permission.choices) Decoder.bool fields = .ok ds ↔
        ds.map entry = fields := Decoder.entries_eq_ok_iff entry_eq_iff
  rw [decoder_obj]
  constructor
  · intro read
    cases listed : Decoder.entries (Decoder.named Permission.choices) Decoder.bool fields with
    | error e =>
      rw [listed] at read
      cases read
    | ok ds =>
      rw [listed] at read
      cases read
      have written := (readsAs ds).1 listed
      subst written
      exact fields_ofList increasing
  · intro written
    obtain ⟨ds, same, perm⟩ := o.exists_map_entry
    rw [(readsAs ds).2 (same.trans written)]
    exact congrArg Except.ok (o.listedBy_toList.perm perm).ofList_eq

end Overrides

/-! ### Limits -/

/-- One of the ceilings of a session. -/
inductive Ceiling
  | memory
  | stack
  | time

namespace Ceiling

/-- The key of the ceiling in documents. -/
def key : Ceiling → String
  | memory => "memory-bytes"
  | stack => "max-stack-bytes"
  | time => "timeout-ms"

def decoder : Ceiling → Decoder Nat
  | memory => LimitOverrides.memoryDecoder
  | stack => LimitOverrides.stackDecoder
  | time => LimitOverrides.timeoutDecoder

end Ceiling

namespace LimitOverrides

/-- What the overrides say about a ceiling. -/
def ceiling (o : LimitOverrides) : Ceiling → Option Nat
  | .memory => o.memoryBytes
  | .stack => o.maxStackBytes
  | .time => o.timeoutMs

/-- The overrides with something else said about a ceiling. -/
def setCeiling (o : LimitOverrides) (n : Option Nat) : Ceiling → LimitOverrides
  | .memory => { o with memoryBytes := n }
  | .stack => { o with maxStackBytes := n }
  | .time => { o with timeoutMs := n }

/-- The ceilings that are set are numbers of 64 bits. -/
def InRange (o : LimitOverrides) : Prop := ∀ t, ∀ n ∈ o.ceiling t, n < twoTo 64

/-- The document of a ceiling, null for one that is left open. -/
def ceilingJson (n : Option Nat) : Json := (n.map Json.nat).getD .null

/-- The fields of the document. -/
def fields (o : LimitOverrides) : List (String × Json) :=
  [("max-stack-bytes", ceilingJson o.maxStackBytes), ("memory-bytes", ceilingJson o.memoryBytes),
    ("timeout-ms", ceilingJson o.timeoutMs)]

theorem increasing_fields (o : LimitOverrides) : Json.keysIncreasing o.fields = true :=
  show ("max-stack-bytes" < "memory-bytes" && ("memory-bytes" < "timeout-ms" && true)) = true by
    decide

/-- What is read as a ceiling is its document, and a ceiling of 64 bits is read from its own. -/
theorem nullable_unsigned_eq_ok_iff (name : String) (j : Json) (n : Option Nat) :
    Decoder.nullable (Decoder.unsigned 64 name) j = .ok n ↔
      j = ceilingJson n ∧ ∀ m ∈ n, m < twoTo 64 := by
  by_cases null : j = .null
  · subst null
    cases n with
    | none => simp [Decoder.nullable, ceilingJson]
    | some m => exact iff_of_false (fun h => nomatch h) fun ⟨h, _⟩ => nomatch h
  · have given : Decoder.nullable (Decoder.unsigned 64 name) j =
        (Decoder.unsigned 64 name j).map some := by
      cases j <;> first | rfl | exact absurd rfl null
    rw [given]
    cases n with
    | none =>
      refine iff_of_false (fun h => ?_) fun h => null h.1
      cases read : Decoder.unsigned 64 name j <;> rw [read] at h <;> cases h
    | some m =>
      have read := Decoder.unsigned_eq_ok_iff 64 name j m
      cases number : Decoder.unsigned 64 name j <;> rw [number] at read <;>
        simpa [Except.map, ceilingJson] using read

theorem mem_fieldNames_iff (k : String) : k ∈ fieldNames ↔ ∃ t : Ceiling, t.key = k := by
  constructor
  · intro known
    rcases List.mem_cons.1 known with rfl | known
    · exact ⟨.memory, rfl⟩
    rcases List.mem_cons.1 known with rfl | known
    · exact ⟨.stack, rfl⟩
    exact ⟨.time, (List.mem_singleton.1 known).symm⟩
  · rintro ⟨t, rfl⟩
    cases t <;> decide

/-- The ceilings, each read into a place of its own. -/
def slots (long : Bool) : Decoder.Slots (shape long) (fill Decoder.nullable) where
  Slot := Ceiling
  name := Ceiling.key
  Value _ := Option Nat
  read t := Decoder.nullable t.decoder
  get t o := o.ceiling t
  put t n o := o.setCeiling n t
  strict := rfl
  mem_fields_iff := mem_fieldNames_iff
  name_inj s t same := by cases s <;> cases t <;> first | rfl | exact absurd same (by decide)
  fill_name s o j := by cases s <;> rfl
  get_put s n o := by cases s <;> rfl
  get_put_of_ne s t n o apart := by cases s <;> cases t <;> first | rfl | exact absurd rfl apart
  ext a b same := LimitOverrides.ext (same .memory) (same .stack) (same .time)

theorem sorted_toJson (o : LimitOverrides) : o.toJson.Sorted = true := by
  have each (n : Option Nat) : (ceilingJson n).Sorted = true := by cases n <;> rfl
  refine Json.sorted_obj_iff.2 ⟨o.increasing_fields, ?_⟩
  simp only [List.forall_mem_cons]
  exact ⟨each _, each _, each _, List.forall_mem_nil _⟩

theorem lookup?_fields (o : LimitOverrides) (t : Ceiling) :
    Json.lookup? t.key o.fields = some (ceilingJson (o.ceiling t)) := by
  cases t <;> simp [fields, Json.lookup?, Ceiling.key, ceiling]

theorem key_mem_fieldNames {o : LimitOverrides} {f : String × Json} (hf : f ∈ o.fields) :
    f.1 ∈ fieldNames := by
  simp only [fields, List.mem_cons, List.not_mem_nil, or_false] at hf
  rcases hf with rfl | rfl | rfl <;> simp [fieldNames]

/-- What an object makes of a ceiling that was left open. -/
theorem makes_iff (long : Bool) (fields : List (String × Json)) (o : LimitOverrides) (t : Ceiling) :
    (slots long).Makes fields {} o t ↔
      (∀ n ∈ o.ceiling t, n < twoTo 64) ∧
        (Json.lookup? t.key fields).getD .null = ceilingJson (o.ceiling t) := by
  have reads (j : Json) : Decoder.nullable t.decoder j = .ok (o.ceiling t) ↔
      j = ceilingJson (o.ceiling t) ∧ ∀ n ∈ o.ceiling t, n < twoTo 64 := by
    cases t <;> exact nullable_unsigned_eq_ok_iff _ j _
  cases found : Json.lookup? t.key fields with
  | some j => exact ((slots long).makes_iff_of_found found {} o).trans ((reads j).trans and_comm)
  | none =>
    have unset : ceiling {} t = none := by cases t <;> rfl
    have blank : (∀ n ∈ o.ceiling t, n < twoTo 64) ∧ Json.null = ceilingJson (o.ceiling t) ↔
        o.ceiling t = ceiling {} t := by
      rw [unset]
      cases o.ceiling t <;> simp [ceilingJson, Json.nat]
    exact ((slots long).makes_iff_of_absent found {} o).trans blank.symm

/-- Fields in the order of their keys are read as overrides just if all are fields of overrides and
they are, but for nulls, what the overrides are written as. -/
theorem decoder_obj_eq_ok_iff (long : Bool) {fields : List (String × Json)}
    (increasing : Json.keysIncreasing fields = true) (o : LimitOverrides) :
    decoder long (.obj fields) = .ok o ↔
      (∀ f ∈ fields, f.1 ∈ fieldNames) ∧ o.InRange ∧ Json.said fields = Json.said o.fields := by
  have distinct := Json.distinct_of_increasing increasing
  refine ((slots long).fillFields_eq_ok_iff distinct {} o).trans (and_congr_right fun known => ?_)
  refine (forall_congr' (makes_iff long fields o)).trans ?_
  rw [forall_and, Json.said_eq_said_iff increasing o.increasing_fields]
  refine and_congr_right fun _ => ⟨fun same k => ?_, fun same t => ?_⟩
  · by_cases isKey : ∃ t : Ceiling, t.key = k
    · obtain ⟨t, rfl⟩ := isKey
      rw [same t, o.lookup?_fields]
      rfl
    · -- neither object has a field of another name
      have absent {fs : List (String × Json)} (names : ∀ f ∈ fs, f.1 ∈ fieldNames) :
          Json.lookup? k fs = none :=
        Json.lookup?_eq_none_iff.2 fun f hf eq =>
          isKey ((mem_fieldNames_iff k).1 (eq ▸ names f hf))
      rw [absent known, absent fun f => key_mem_fieldNames]
  · rw [same, o.lookup?_fields]
    rfl

end LimitOverrides

/-! ### Sections -/

/-- The fields of the object under a key, none if there is no such object. -/
def Json.under (key : String) (j : Json) : List (String × Json) :=
  match j.field? key with
  | some (.obj fields) => fields
  | _ => []

theorem Json.under_of_found {key : String} {fields inner : List (String × Json)}
    (found : lookup? key fields = some (.obj inner)) : under key (.obj fields) = inner := by
  rw [under, field?, found]

theorem Json.under_of_absent {key : String} {fields : List (String × Json)}
    (absent : lookup? key fields = none) : under key (.obj fields) = [] := by
  rw [under, field?, absent]

namespace Config

/-- One of the two sections of the document of a configuration. -/
inductive Section
  | permissions
  | limits

namespace Section

def key : Section → String
  | permissions => "permissions"
  | limits => "limits"

/-- The keys that may stand in the section. -/
def keys : Section → List String
  | permissions => ["model", "query", "viewer", "mutate", "lens", "export"]
  | limits => ["memory-bytes", "max-stack-bytes", "timeout-ms"]

/-- What the section decides. -/
def Decisions : Section → Type
  | permissions => Overrides
  | limits => LimitOverrides

def decoder (long : Bool) : (s : Section) → Decoder s.Decisions
  | permissions => Overrides.decoder
  | limits => LimitOverrides.decoder long

/-- The complaint about a key that may not stand in the section. -/
def complaint (k : String) : Section → Mismatch
  | permissions => .unknownVariant k permissions.keys
  | limits => .unknownField k limits.keys

theorem decoder_refuses (long : Bool) {s : Section} {k : String} (stray : k ∉ s.keys)
    (before : List (String × Json)) (j : Json) (after : List (String × Json)) :
    (s.decoder long).Refuses (before ++ after) (before ++ (k, j) :: after)
      (.ofKey k (s.complaint k)) := by
  cases s with
  | permissions =>
    have refused :
        (Decoder.mapping (Decoder.named Permission.choices) Decoder.bool).Refuses _ _ _ :=
      Decoder.mapping_refuses (Permission.named_unknown stray) before j after
    exact refused.map Overrides.ofList
  | limits =>
    have unknown : k ∉ (LimitOverrides.shape long).fields := stray
    exact Decoder.record_refuses rfl unknown _ before j after

end Section

/-- What the configuration decides in a section. -/
def decisions (c : Config) : (s : Section) → s.Decisions
  | .permissions => c.permissions
  | .limits => c.limits

def setDecisions (c : Config) : (s : Section) → s.Decisions → Config
  | .permissions, o => { c with permissions := o }
  | .limits, o => { c with limits := o }

/-- The sections, each read into a place of its own. -/
def slots (long : Bool) : Decoder.Slots (shape long) (fill long) where
  Slot := Section
  name := Section.key
  Value := Section.Decisions
  read := Section.decoder long
  get s c := c.decisions s
  put s o c := c.setDecisions s o
  strict := rfl
  mem_fields_iff k := by
    constructor
    · intro known
      rcases List.mem_cons.1 known with rfl | known
      · exact ⟨.permissions, rfl⟩
      exact ⟨.limits, (List.mem_singleton.1 known).symm⟩
    · rintro ⟨s, rfl⟩
      cases s <;> simp [shape, Section.key]
  name_inj s t same := by cases s <;> cases t <;> first | rfl | exact absurd same (by decide)
  fill_name s c j := by cases s <;> rfl
  get_put s o c := by cases s <;> rfl
  get_put_of_ne s t o c apart := by cases s <;> cases t <;> first | rfl | exact absurd rfl apart
  ext a b same := Config.ext (same .permissions) (same .limits)

/-! ### Objects with sections -/

/-- All fields stand in the order of their keys, and the sections that are given are objects. -/
structure Sectioned (fields : List (String × Json)) : Prop where
  sorted : (Json.obj fields).Sorted = true
  objects : ∀ s : Section, ∀ j, (s.key, j) ∈ fields → ∃ inner, j = .obj inner

/-- All keys of the object and of its sections are known. -/
structure Known (fields : List (String × Json)) : Prop where
  sections : ∀ f ∈ fields, f.1 ∈ ["permissions", "limits"]
  entries : ∀ s : Section, ∀ f ∈ Json.under s.key (.obj fields), f.1 ∈ s.keys

/-- Two documents hold the same permissions and, null left out, the same limits. -/
structure SameEntries (j k : Json) : Prop where
  permissions : j.under "permissions" = k.under "permissions"
  limits : Json.said (j.under "limits") = Json.said (k.under "limits")

section Sectioned

variable {fields : List (String × Json)} (sectioned : Sectioned fields)
include sectioned

theorem Sectioned.increasing : Json.keysIncreasing fields = true :=
  (Json.sorted_obj_iff.1 sectioned.sorted).1

theorem Sectioned.found {s : Section} {j : Json} (found : Json.lookup? s.key fields = some j) :
    ∃ inner, j = .obj inner ∧ Json.keysIncreasing inner = true := by
  have stands :=
    (Json.mem_iff_lookup? (Json.distinct_of_increasing sectioned.increasing)).2 found
  obtain ⟨inner, rfl⟩ := sectioned.objects s j stands
  have sorted := (Json.sorted_obj_iff.1 sectioned.sorted).2 _ stands
  exact ⟨inner, rfl, (Json.sorted_obj_iff.1 sorted).1⟩

theorem Sectioned.increasing_under (s : Section) :
    Json.keysIncreasing (Json.under s.key (.obj fields)) = true := by
  cases found : Json.lookup? s.key fields with
  | none =>
    rw [Json.under_of_absent found]
    rfl
  | some j =>
    obtain ⟨inner, rfl, increasing⟩ := sectioned.found found
    rwa [Json.under_of_found found]

/-- What an object makes of a section that was blank. -/
theorem Sectioned.makes_iff (long : Bool) (c : Config) (s : Section) :
    (slots long).Makes fields empty c s ↔
      s.decoder long (.obj (Json.under s.key (.obj fields))) = .ok (c.decisions s) := by
  cases found : Json.lookup? s.key fields with
  | none =>
    have blank : s.decoder long (.obj []) = .ok (empty.decisions s) := by cases s <;> rfl
    rw [Json.under_of_absent found, blank, Except.ok.injEq]
    exact ((slots long).makes_iff_of_absent found empty c).trans eq_comm
  | some j =>
    obtain ⟨inner, rfl, -⟩ := sectioned.found found
    rw [Json.under_of_found found]
    exact (slots long).makes_iff_of_found found empty c

/-- The sections are read each by itself. -/
theorem Sectioned.decoderWith_eq_ok_iff (long : Bool) (c : Config) :
    decoderWith long (.obj fields) = .ok c ↔
      (∀ f ∈ fields, f.1 ∈ ["permissions", "limits"]) ∧
        Overrides.decoder (.obj (Json.under "permissions" (.obj fields))) = .ok c.permissions ∧
        LimitOverrides.decoder long (.obj (Json.under "limits" (.obj fields))) = .ok c.limits := by
  have distinct := Json.distinct_of_increasing sectioned.increasing
  refine ((slots long).fillFields_eq_ok_iff distinct empty c).trans (and_congr_right fun _ => ?_)
  refine (forall_congr' (sectioned.makes_iff long c)).trans ⟨fun each => ?_, fun both s => ?_⟩
  · exact ⟨each .permissions, each .limits⟩
  · cases s with
    | permissions => exact both.1
    | limits => exact both.2

/-- An object is read as a configuration just if its keys are known and it holds the entries of the
document of the configuration. -/
theorem Sectioned.reads_iff (long : Bool) (c : Config) :
    decoderWith long (.obj fields) = .ok c ↔
      Known fields ∧ c.limits.InRange ∧ SameEntries (.obj fields) c.toJson := by
  have permissions : Overrides.decoder (.obj (Json.under "permissions" (.obj fields))) =
      .ok c.permissions ↔ c.permissions.fields = Json.under "permissions" (.obj fields) :=
    Overrides.decoder_obj_eq_ok_iff (sectioned.increasing_under .permissions) _
  have limits := LimitOverrides.decoder_obj_eq_ok_iff long (sectioned.increasing_under .limits)
    c.limits
  rw [sectioned.decoderWith_eq_ok_iff, permissions]
  refine (and_congr_right' (and_congr_right' limits)).trans ?_
  constructor
  · rintro ⟨known, permissions, knownLimits, inRange, limits⟩
    refine ⟨⟨known, fun s => ?_⟩, inRange, permissions.symm, limits⟩
    cases s with
    | limits => exact knownLimits
    | permissions =>
      show ∀ f ∈ Json.under "permissions" (.obj fields), _
      rw [← permissions]
      exact fun f => Overrides.key_mem_of_mem_fields
  · rintro ⟨known, inRange, same⟩
    exact ⟨known.sections, same.permissions.symm, known.entries .limits, inRange, same.limits⟩

end Sectioned

/-! ### The document of a configuration -/

/-- The fields of the document. -/
def fields (c : Config) : List (String × Json) :=
  [("limits", .obj c.limits.fields), ("permissions", .obj c.permissions.fields)]

theorem toJson_eq (c : Config) : c.toJson = .obj c.fields := rfl

theorem sectioned_fields (c : Config) : Sectioned c.fields where
  sorted := by
    refine Json.sorted_obj_iff.2 ⟨show ("limits" < "permissions" && true) = true by decide, ?_⟩
    simp only [fields, List.forall_mem_cons]
    exact ⟨c.limits.sorted_toJson, c.permissions.sorted_toJson, List.forall_mem_nil _⟩
  objects s j stands := by
    simp only [fields, List.mem_cons, Prod.mk.injEq, List.not_mem_nil, or_false] at stands
    rcases stands with ⟨-, rfl⟩ | ⟨-, rfl⟩
    · exact ⟨_, rfl⟩
    · exact ⟨_, rfl⟩

theorem known_fields (c : Config) : Known c.fields where
  sections f hf := by
    simp only [fields, List.mem_cons, List.not_mem_nil, or_false] at hf
    rcases hf with rfl | rfl <;> simp
  entries s f hf := by
    cases s with
    | permissions => exact Overrides.key_mem_of_mem_fields hf
    | limits => exact LimitOverrides.key_mem_fieldNames hf

/-- A configuration is read from its own document just if its limits are in range. -/
theorem decoderWith_toJson_iff (long : Bool) (c : Config) :
    decoderWith long c.toJson = .ok c ↔ c.limits.InRange := by
  rw [toJson_eq, c.sectioned_fields.reads_iff]
  exact ⟨fun h => h.2.1, fun inRange => ⟨c.known_fields, inRange, rfl, rfl⟩⟩

/-! ### Keys that no configuration has -/

/-- `fields'` has one field more than `fields`, whose key no configuration has at its level, and
the complaint about it says where. -/
inductive Stray : (fields fields' : List (String × Json)) → DecodeError → Prop
  | top (before : List (String × Json)) (k : String) (j : Json) (after : List (String × Json))
    (stray : k ∉ ["permissions", "limits"]) :
    Stray (before ++ after) (before ++ (k, j) :: after)
      (.ofKey k (.unknownField k ["permissions", "limits"]))
  | inside (s : Section) (before inner : List (String × Json)) (k : String) (j : Json)
    (inner' after : List (String × Json)) (stray : k ∉ s.keys) :
    Stray (before ++ (s.key, .obj (inner ++ inner')) :: after)
      (before ++ (s.key, .obj (inner ++ (k, j) :: inner')) :: after)
      ((DecodeError.ofKey k (s.complaint k)).within (.field s.key))

theorem Stray.refused (long : Bool) {fields fields' : List (String × Json)} {e : DecodeError}
    (stray : Stray fields fields' e) : (decoderWith long).Refuses fields fields' e := by
  cases stray with
  | top before k j after stray =>
    have unknown : k ∉ (shape long).fields := stray
    exact Decoder.record_refuses rfl unknown empty before j after
  | inside s before inner k j inner' after stray =>
    exact (slots long).record_refuses_inside (s.decoder_refuses long stray inner j inner') empty
      before after

/-! ### What is read -/

/-- Nothing is lost or made up between configurations and documents. -/
structure ReadsExactly (read : Decoder Config) : Prop where
  /-- The document of a configuration is read as this configuration, all of whose limits must then
  be numbers of 64 bits. -/
  reads_back : ∀ c : Config, read c.toJson = .ok c ↔ c.limits.InRange
  /-- An object is read as a configuration just if it has no other keys and the same entries as the
  document of the configuration. -/
  reads_iff : ∀ fields c, Sectioned fields →
    (read (.obj fields) = .ok c ↔
      Known fields ∧ c.limits.InRange ∧ SameEntries (.obj fields) c.toJson)
  /-- Any other key is refused and, where nothing else is wrong, named. -/
  refuses : ∀ fields fields' e, Stray fields fields' e → read.Refuses fields fields' e

/-- The strict reading of configurations loses nothing, and makes nothing up. -/
theorem decoder_exact : ReadsExactly decoder where
  reads_back := decoderWith_toJson_iff false
  reads_iff _ c sectioned := sectioned.reads_iff false c
  refuses _ _ _ stray := stray.refused false

/-- The fields of a document that leaves the memory open with a null. -/
def openMemory : List (String × Json) :=
  [("limits", .obj [("memory-bytes", .null), ("timeout-ms", .int 2000)]),
    ("permissions", .obj [("mutate", .bool true), ("viewer", .bool false)])]

/-- It is read as the decisions in it, and no longer if a section of another name is added. -/
theorem decoder_exact_openMemory :
    decoder (.obj openMemory) =
        .ok (((empty.withPermission .viewer false).withPermission .mutate true).withTimeout 2000) ∧
      decoder (.obj (openMemory ++ [("policy", .null)])) =
        .error (.ofKey "policy" (.unknownField "policy" ["permissions", "limits"])) := by
  have sectioned : Sectioned openMemory := by
    refine ⟨by decide, fun s j stands => ?_⟩
    simp only [openMemory, List.mem_cons, Prod.mk.injEq, List.not_mem_nil, or_false] at stands
    rcases stands with ⟨-, rfl⟩ | ⟨-, rfl⟩
    · exact ⟨_, rfl⟩
    · exact ⟨_, rfl⟩
  have known : Known openMemory := by
    refine ⟨by decide, fun s => ?_⟩
    cases s <;> decide
  have inRange : LimitOverrides.InRange { timeoutMs := some 2000 } := by
    rintro t n set
    cases t <;> cases set
    decide
  have accepted := (decoder_exact.reads_iff openMemory
    (((empty.withPermission .viewer false).withPermission .mutate true).withTimeout 2000)
    sectioned).2 ⟨known, inRange, rfl, rfl⟩
  refine ⟨accepted, ?_⟩
  exact (decoder_exact.refuses _ _ _ (.top openMemory "policy" .null [] (by decide))).2 _ accepted

end Config

end ScriptHost
