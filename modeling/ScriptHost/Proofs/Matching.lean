import Mathlib.Data.List.Basic
import ScriptHost.Dialect.Pattern

/-!
# What a pattern matches

The language of a pattern, told without the search: which stretches of a text it reads, given what
stands on either side.  The search finds a stretch if and only if there is one, and it never has
more patterns open than the searched pattern has places for a character.

* `CharSet.Has`, `Pattern.InWord`: the characters of a set, and the ends of words;
* `Pattern.Matches`: whether a pattern reads as a stretch of a text;
* `Pattern.Opens`, `Pattern.FoundIn`: whether a stretch that it reads as begins a text, or stands
  somewhere in it;
* `Pattern.occursIn_iff`: the search finds what is there;
* `Pattern.openedBy`: the patterns that are open once the search has read a part of the text;
* `Pattern.length_openedBy_le`: how many these can be.
-/

namespace ScriptHost

/-! ### Characters -/

namespace CharSet

/-- One of the ranges holds the character. -/
def Lists (s : CharSet) (c : Char) : Prop := ∃ range ∈ s.ranges, range.1 ≤ c ∧ c ≤ range.2

/-- The character is in the set: in a range, or in none if the set is what lies outside them. -/
def Has (s : CharSet) (c : Char) : Prop := if s.outside then ¬ s.Lists c else s.Lists c

theorem contains_iff (s : CharSet) (c : Char) : s.contains c = true ↔ s.Has c := by
  unfold contains Has Lists
  cases s.outside <;> simp

end CharSet

namespace Pattern

/-- A character stands there, and it is a letter, a digit or the underscore, ASCII only. -/
def InWord (c : Option Char) : Prop :=
  ∃ d ∈ c, 'a' ≤ d ∧ d ≤ 'z' ∨ 'A' ≤ d ∧ d ≤ 'Z' ∨ '0' ≤ d ∧ d ≤ '9' ∨ d = '_'

theorem isWord_iff (c : Option Char) : isWord c = true ↔ InWord c := by
  have underscore (d : Char) : '_' ≤ d ∧ d ≤ '_' ↔ d = '_' :=
    ⟨fun h => Char.le_antisymm h.2 h.1, fun h => h ▸ ⟨Char.le_refl _, Char.le_refl _⟩⟩
  cases c with
  | none => simp [isWord, InWord]
  | some d => simp [isWord, InWord, CharSet.contains_iff, CharSet.Has, CharSet.Lists, CharSet.word,
      underscore]

theorem isBoundary_iff (left right : Option Char) :
    isBoundary left right = true ↔ ¬ (InWord left ↔ InWord right) := by
  rw [← isWord_iff, ← isWord_iff, ← Bool.eq_iff_iff]
  exact bne_iff_ne

/-- The character before what follows a stretch, with `left` before the stretch. -/
def before (left : Option Char) (stretch : List Char) : Option Char := stretch.getLast?.or left

@[simp] theorem before_nil (left : Option Char) : before left [] = left := rfl

@[simp] theorem before_none (stretch : List Char) : before none stretch = stretch.getLast? := by
  simp [before]

theorem before_append (left : Option Char) (xs ys : List Char) :
    before left (xs ++ ys) = before (before left xs) ys := by
  simp [before, List.getLast?_append, Option.or_assoc]

@[simp] theorem before_cons (left : Option Char) (c : Char) (xs : List Char) :
    before left (c :: xs) = before (some c) xs := before_append left [c] xs

/-! ### The language of a pattern -/

/-- The pattern reads as a stretch of a text, with `left` before the stretch and `rest` after it. -/
inductive Matches : Pattern → Option Char → List Char → List Char → Prop
  | empty {left : Option Char} {rest : List Char} : Matches .empty left [] rest
  | one {s : CharSet} {c : Char} {left : Option Char} {rest : List Char} (h : s.Has c) :
      Matches (.one s) left [c] rest
  | boundary {left : Option Char} {rest : List Char} (h : ¬ (InWord left ↔ InWord rest.head?)) :
      Matches .boundary left [] rest
  | seq {a b : Pattern} {left : Option Char} {xs ys rest : List Char}
      (first : Matches a left xs (ys ++ rest)) (second : Matches b (before left xs) ys rest) :
      Matches (.seq a b) left (xs ++ ys) rest
  | altLeft {a b : Pattern} {left : Option Char} {xs rest : List Char}
      (h : Matches a left xs rest) : Matches (.alt a b) left xs rest
  | altRight {a b : Pattern} {left : Option Char} {xs rest : List Char}
      (h : Matches b left xs rest) : Matches (.alt a b) left xs rest
  | none {a : Pattern} {left : Option Char} {rest : List Char} : Matches (.star a) left [] rest
  | more {a : Pattern} {left : Option Char} {xs ys rest : List Char}
      (first : Matches a left xs (ys ++ rest))
      (others : Matches (.star a) (before left xs) ys rest) :
      Matches (.star a) left (xs ++ ys) rest

variable {p q a b : Pattern} {left : Option Char} {xs rest : List Char}

@[simp] theorem matches_empty_iff : Matches .empty left xs rest ↔ xs = [] :=
  ⟨fun | .empty => rfl, fun h => h ▸ .empty⟩

theorem matches_one_iff {s : CharSet} :
    Matches (.one s) left xs rest ↔ ∃ c, xs = [c] ∧ s.Has c :=
  ⟨fun | .one h => ⟨_, rfl, h⟩, fun ⟨_, hc, h⟩ => hc ▸ .one h⟩

theorem matches_boundary_iff :
    Matches .boundary left xs rest ↔ xs = [] ∧ ¬ (InWord left ↔ InWord rest.head?) :=
  ⟨fun | .boundary h => ⟨rfl, h⟩, fun ⟨hx, h⟩ => hx ▸ .boundary h⟩

theorem matches_seq_iff :
    Matches (.seq a b) left xs rest ↔
      ∃ us vs, xs = us ++ vs ∧ Matches a left us (vs ++ rest) ∧
        Matches b (before left us) vs rest :=
  ⟨fun | .seq first second => ⟨_, _, rfl, first, second⟩,
    fun ⟨_, _, hx, first, second⟩ => hx ▸ .seq first second⟩

theorem matches_alt_iff :
    Matches (.alt a b) left xs rest ↔ Matches a left xs rest ∨ Matches b left xs rest :=
  ⟨fun | .altLeft h => .inl h | .altRight h => .inr h, fun h => h.elim .altLeft .altRight⟩

theorem matches_andThen_iff :
    Matches (andThen a b) left xs rest ↔ Matches (.seq a b) left xs rest := by
  unfold andThen
  split
  · next ha =>
    subst ha
    rw [matches_seq_iff]
    constructor
    · intro h
      exact ⟨[], xs, rfl, .empty, h⟩
    · rintro ⟨us, vs, rfl, first, second⟩
      cases matches_empty_iff.mp first
      exact second
  · exact Iff.rfl

/-- Of the rounds of a star that read something, the first one reads the first character. -/
theorem matches_star_cons_iff {c : Char} :
    Matches (.star a) left (c :: xs) rest ↔
      ∃ us vs, xs = us ++ vs ∧ Matches a left (c :: us) (vs ++ rest) ∧
        Matches (.star a) (before (some c) us) vs rest := by
  constructor
  · intro h
    generalize hp : Pattern.star a = p at h
    generalize hw : c :: xs = whole at h
    -- on how the star matches: rounds that read nothing are skipped
    induction h with
    | @more _ _ us vs _ first others _ ih =>
      cases hp
      cases us with
      | nil => exact ih rfl hw
      | cons d us =>
        obtain ⟨rfl, rfl⟩ := List.cons.inj hw
        exact ⟨us, vs, rfl, first, before_cons .. ▸ others⟩
    | none => cases hw
    | _ => cases hp
  · rintro ⟨us, vs, rfl, first, others⟩
    exact .more first (before_cons .. ▸ others)

/-! ### One character at a time -/

theorem matches_nil_iff : Matches p left [] rest ↔ nullable left rest.head? p = true := by
  induction p generalizing rest with
  | empty => simp [nullable]
  | one s => simp [matches_one_iff, nullable]
  | boundary => simp [matches_boundary_iff, nullable, isBoundary_iff]
  | seq a b iha ihb =>
    rw [matches_seq_iff, nullable, Bool.and_eq_true, ← iha, ← ihb]
    constructor
    · rintro ⟨us, vs, hx, first, second⟩
      obtain ⟨rfl, rfl⟩ := List.append_eq_nil_iff.mp hx.symm
      exact ⟨first, second⟩
    · rintro ⟨first, second⟩
      exact ⟨[], [], rfl, first, second⟩
  | alt a b iha ihb => rw [matches_alt_iff, nullable, Bool.or_eq_true, iha, ihb]
  | star a => exact iff_of_true .none rfl

theorem mem_after_one {s : CharSet} {c : Char} :
    q ∈ after left c (.one s) ↔ s.Has c ∧ q = .empty := by
  rw [after, ← CharSet.contains_iff]
  split
  · next h => simp [h]
  · next h => simp [h]

theorem mem_after_seq {c : Char} :
    q ∈ after left c (.seq a b) ↔
      (∃ r ∈ after left c a, andThen r b = q) ∨
        nullable left (some c) a = true ∧ q ∈ after left c b := by
  simp only [after]
  split
  · next h => simp [h]
  · next h => simp [h]

/-- What is left of a pattern once it has matched a character matches what follows. -/
theorem matches_cons_iff {c : Char} :
    Matches p left (c :: xs) rest ↔ ∃ q ∈ after left c p, Matches q (some c) xs rest := by
  induction p generalizing xs rest with
  | empty => simp [after]
  | one s =>
    simp only [matches_one_iff, mem_after_one]
    constructor
    · rintro ⟨d, hd, h⟩
      obtain ⟨rfl, rfl⟩ := List.cons.inj hd
      exact ⟨.empty, ⟨h, rfl⟩, .empty⟩
    · rintro ⟨q, ⟨h, rfl⟩, hq⟩
      exact ⟨c, by rw [matches_empty_iff.mp hq], h⟩
  | boundary => simp [matches_boundary_iff, after]
  | seq a b iha ihb =>
    simp only [mem_after_seq]
    rw [matches_seq_iff]
    constructor
    · rintro ⟨us, vs, hx, first, second⟩
      -- the first part reads nothing, so the second one the character, or else it reads it itself
      cases us with
      | nil =>
        cases hx
        obtain ⟨q, hq, h⟩ := ihb.mp second
        exact ⟨q, .inr ⟨matches_nil_iff.mp first, hq⟩, h⟩
      | cons d us =>
        obtain ⟨rfl, rfl⟩ := List.cons.inj hx
        obtain ⟨q, hq, h⟩ := iha.mp first
        exact ⟨_, .inl ⟨q, hq, rfl⟩,
          matches_andThen_iff.mpr (.seq h (before_cons .. ▸ second))⟩
    · rintro ⟨q, ⟨r, hr, rfl⟩ | ⟨blind, hq⟩, h⟩
      · obtain ⟨us, vs, rfl, first, second⟩ := matches_seq_iff.mp (matches_andThen_iff.mp h)
        exact ⟨c :: us, vs, rfl, iha.mpr ⟨r, hr, first⟩, before_cons .. ▸ second⟩
      · exact ⟨[], c :: xs, rfl, matches_nil_iff.mpr blind, ihb.mpr ⟨q, hq, h⟩⟩
  | alt a b iha ihb =>
    simp only [matches_alt_iff, iha, ihb, after, List.mem_append, or_and_right, exists_or]
  | star a ih =>
    rw [matches_star_cons_iff]
    simp only [after, List.mem_map]
    constructor
    · rintro ⟨us, vs, rfl, first, others⟩
      obtain ⟨q, hq, h⟩ := ih.mp first
      exact ⟨_, ⟨q, hq, rfl⟩, matches_andThen_iff.mpr (.seq h others)⟩
    · rintro ⟨_, ⟨q, hq, rfl⟩, h⟩
      obtain ⟨us, vs, rfl, first, others⟩ := matches_seq_iff.mp (matches_andThen_iff.mp h)
      exact ⟨us, vs, rfl, ih.mpr ⟨q, hq, first⟩, others⟩

/-! ### The search -/

variable {text : List Char}

/-- The pattern reads as a stretch with which a text begins. -/
def Opens (p : Pattern) (left : Option Char) (text : List Char) : Prop :=
  ∃ stretch rest, text = stretch ++ rest ∧ p.Matches left stretch rest

/-- The pattern reads as a stretch somewhere in a text. -/
def Within (p : Pattern) (left : Option Char) (text : List Char) : Prop :=
  ∃ start stretch rest,
    text = start ++ (stretch ++ rest) ∧ p.Matches (before left start) stretch rest

/-- Some stretch of a text is in the language of the pattern, where it stands. -/
def FoundIn (p : Pattern) (text : List Char) : Prop :=
  ∃ start stretch rest, text = start ++ (stretch ++ rest) ∧ p.Matches start.getLast? stretch rest

theorem opens_nil_iff : Opens p left [] ↔ nullable left none p = true := by
  rw [← List.head?_nil, ← matches_nil_iff]
  constructor
  · rintro ⟨stretch, rest, hx, h⟩
    obtain ⟨rfl, rfl⟩ := List.append_eq_nil_iff.mp hx.symm
    exact h
  · intro h
    exact ⟨[], [], rfl, h⟩

theorem opens_cons_iff {c : Char} :
    Opens p left (c :: text) ↔
      nullable left (some c) p = true ∨ ∃ q ∈ after left c p, Opens q (some c) text := by
  constructor
  · rintro ⟨stretch, rest, hx, h⟩
    cases stretch with
    | nil =>
      cases hx
      exact .inl (matches_nil_iff.mp h)
    | cons d stretch =>
      obtain ⟨rfl, rfl⟩ := List.cons.inj hx
      obtain ⟨q, hq, h⟩ := matches_cons_iff.mp h
      exact .inr ⟨q, hq, stretch, rest, rfl, h⟩
  · rintro (blind | ⟨q, hq, stretch, rest, rfl, h⟩)
    · exact ⟨[], c :: text, rfl, matches_nil_iff.mpr blind⟩
    · exact ⟨c :: stretch, rest, rfl, matches_cons_iff.mpr ⟨q, hq, h⟩⟩

theorem within_nil_iff : Within p left [] ↔ Opens p left [] := by
  constructor
  · rintro ⟨start, stretch, rest, hx, h⟩
    obtain ⟨rfl, hy⟩ := List.append_eq_nil_iff.mp hx.symm
    exact ⟨stretch, rest, hy.symm, h⟩
  · rintro ⟨stretch, rest, hx, h⟩
    exact ⟨[], stretch, rest, hx, h⟩

theorem within_cons_iff {c : Char} :
    Within p left (c :: text) ↔ Opens p left (c :: text) ∨ Within p (some c) text := by
  constructor
  · rintro ⟨start, stretch, rest, hx, h⟩
    cases start with
    | nil => exact .inl ⟨stretch, rest, hx, h⟩
    | cons d start =>
      obtain ⟨rfl, rfl⟩ := List.cons.inj hx
      exact .inr ⟨start, stretch, rest, rfl, before_cons .. ▸ h⟩
  · rintro (⟨stretch, rest, hx, h⟩ | ⟨start, stretch, rest, rfl, h⟩)
    · exact ⟨[], stretch, rest, hx, h⟩
    · exact ⟨c :: start, stretch, rest, rfl, before_cons .. ▸ h⟩

/-- The patterns that are open after one more character, `p` begun anew among them. -/
def advance (p : Pattern) (left : Option Char) (opened : List Pattern) (c : Char) :
    List Pattern :=
  ((p :: opened).flatMap (after left c)).eraseDups

theorem mem_advance {opened : List Pattern} {c : Char} :
    q ∈ advance p left opened c ↔ ∃ r ∈ p :: opened, q ∈ after left c r := by
  rw [advance, List.mem_eraseDups, List.mem_flatMap]

/-- The search goes on from the patterns that are open, and begins anew at every place. -/
theorem search_iff (p : Pattern) (left : Option Char) (opened : List Pattern) (text : List Char) :
    search p left opened text = true ↔
      (∃ q ∈ opened, q.Opens left text) ∨ p.Within left text := by
  induction text generalizing left opened with
  | nil =>
    simp only [search, List.any_eq_true, List.exists_mem_cons_iff, ← opens_nil_iff, within_nil_iff]
    exact or_comm
  | cons c text ih =>
    have later : search p (some c) (advance p left opened c) text = true ↔
        (∃ r ∈ p :: opened, ∃ q ∈ after left c r, q.Opens (some c) text) ∨
          p.Within (some c) text := by
      rw [ih]
      simp only [mem_advance]
      constructor
      · rintro (⟨q, ⟨r, hr, hq⟩, h⟩ | h)
        · exact .inl ⟨r, hr, q, hq, h⟩
        · exact .inr h
      · rintro (⟨r, hr, q, hq, h⟩ | h)
        · exact .inl ⟨q, ⟨r, hr, hq⟩, h⟩
        · exact .inr h
    have begun : (∃ r ∈ p :: opened, r.Opens left (c :: text)) ↔
        (∃ r ∈ p :: opened, nullable left (some c) r = true) ∨
          ∃ r ∈ p :: opened, ∃ q ∈ after left c r, q.Opens (some c) text := by
      simp only [opens_cons_iff, and_or_left, exists_or]
    calc search p left opened (c :: text) = true
        ↔ (∃ r ∈ p :: opened, nullable left (some c) r = true) ∨
            search p (some c) (advance p left opened c) text = true := by
          rw [search, Bool.or_eq_true, List.any_eq_true, advance]
      _ ↔ (∃ r ∈ p :: opened, r.Opens left (c :: text)) ∨ p.Within (some c) text := by
          rw [later, begun, or_assoc]
      _ ↔ _ := by
          rw [List.exists_mem_cons_iff, within_cons_iff, or_assoc, or_left_comm]

/-- The search finds a stretch in the language of the pattern if and only if there is one. -/
theorem occursIn_iff (p : Pattern) (text : List Char) :
    p.occursIn text = true ↔ p.FoundIn text := by
  simp [occursIn, search_iff, Within, FoundIn]

/-! ### What the search keeps -/

/-- How many places for a character a pattern has. -/
def letters : Pattern → Nat
  | empty => 0
  | one _ => 1
  | boundary => 0
  | seq a b => a.letters + b.letters
  | alt a b => a.letters + b.letters
  | star a => a.letters

/-- What can be left of a pattern: one pattern for each of its places for a character. -/
def leftovers : Pattern → List Pattern
  | empty => []
  | one _ => [empty]
  | boundary => []
  | seq a b => a.leftovers.map (andThen · b) ++ b.leftovers
  | alt a b => a.leftovers ++ b.leftovers
  | star a => a.leftovers.map (andThen · (star a))

theorem length_leftovers (p : Pattern) : p.leftovers.length = p.letters := by
  induction p with
  | seq a b iha ihb => simp [leftovers, letters, iha, ihb]
  | alt a b iha ihb => simp [leftovers, letters, iha, ihb]
  | star a ih => simp [leftovers, letters, ih]
  | _ => rfl

theorem after_subset_leftovers (left : Option Char) (c : Char) (p : Pattern) :
    ∀ q ∈ after left c p, q ∈ p.leftovers := by
  induction p with
  | empty => simp [after]
  | one s =>
    intro q hq
    rw [(mem_after_one.mp hq).2, leftovers]
    exact List.mem_singleton_self _
  | boundary => simp [after]
  | seq a b iha ihb =>
    intro q hq
    rw [leftovers, List.mem_append, List.mem_map]
    rcases mem_after_seq.mp hq with ⟨r, hr, rfl⟩ | ⟨-, hq⟩
    · exact .inl ⟨r, iha r hr, rfl⟩
    · exact .inr (ihb q hq)
  | alt a b iha ihb =>
    intro q hq
    rcases List.mem_append.mp hq with hq | hq
    · exact List.mem_append_left _ (iha q hq)
    · exact List.mem_append_right _ (ihb q hq)
  | star a ih =>
    intro q hq
    obtain ⟨r, hr, rfl⟩ := List.mem_map.mp hq
    exact List.mem_map_of_mem (ih r hr)

theorem mem_after_andThen {c : Char} (h : q ∈ after left c (andThen a b)) :
    (∃ r ∈ after left c a, andThen r b = q) ∨ q ∈ after left c b := by
  unfold andThen at h
  split at h
  · exact .inr h
  · exact (mem_after_seq.mp h).imp_right And.right

/-- What is left of what is left of a pattern is left of the pattern. -/
theorem after_leftovers (left : Option Char) (c : Char) (p : Pattern) :
    ∀ q ∈ p.leftovers, ∀ r ∈ after left c q, r ∈ p.leftovers := by
  induction p with
  | empty => simp [leftovers]
  | one s => simp [leftovers, after]
  | boundary => simp [leftovers]
  | seq a b iha ihb =>
    intro q hq r hr
    rw [leftovers, List.mem_append, List.mem_map] at hq ⊢
    rcases hq with ⟨first, hfirst, rfl⟩ | hq
    · rcases mem_after_andThen hr with ⟨r', hr', rfl⟩ | hr
      · exact .inl ⟨r', iha first hfirst r' hr', rfl⟩
      · exact .inr (after_subset_leftovers left c b r hr)
    · exact .inr (ihb q hq r hr)
  | alt a b iha ihb =>
    intro q hq r hr
    rcases List.mem_append.mp hq with hq | hq
    · exact List.mem_append_left _ (iha q hq r hr)
    · exact List.mem_append_right _ (ihb q hq r hr)
  | star a ih =>
    intro q hq r hr
    -- the character belongs to the round that is going on, or begins another one
    obtain ⟨round, hround, rfl⟩ := List.mem_map.mp hq
    rcases mem_after_andThen hr with ⟨r', hr', rfl⟩ | hr
    · exact List.mem_map_of_mem (ih round hround r' hr')
    · exact after_subset_leftovers left c (star a) r hr

theorem nodup_eraseDups (ps : List Pattern) : ps.eraseDups.Nodup := by
  match ps with
  | [] => exact List.nodup_nil
  | p :: ps =>
    rw [List.eraseDups_cons, List.nodup_cons]
    refine ⟨?_, nodup_eraseDups _⟩
    simp [List.mem_eraseDups, List.mem_filter]
termination_by ps.length
decreasing_by exact Nat.lt_succ_of_le (List.length_filter_le ..)

/-- The patterns that are open when the search has read on from where `opened` were. -/
def openedFrom (p : Pattern) : Option Char → List Pattern → List Char → List Pattern
  | _, opened, [] => opened
  | left, opened, c :: rest => openedFrom p (some c) (advance p left opened c) rest

/-- The patterns that are open when the search for `p` has read a text. -/
def openedBy (p : Pattern) (text : List Char) : List Pattern := openedFrom p none [] text

theorem search_iff_openedFrom (p : Pattern) (left : Option Char) (opened : List Pattern)
    (text : List Char) :
    search p left opened text = true ↔
      ∃ xs ys, text = xs ++ ys ∧
        ∃ q ∈ p :: openedFrom p left opened xs, nullable (before left xs) ys.head? q = true := by
  induction text generalizing left opened with
  | nil =>
    rw [search, List.any_eq_true]
    constructor
    · intro h
      exact ⟨[], [], rfl, h⟩
    · rintro ⟨xs, ys, hx, h⟩
      obtain ⟨rfl, rfl⟩ := List.append_eq_nil_iff.mp hx.symm
      exact h
  | cons c text ih =>
    rw [search, Bool.or_eq_true, List.any_eq_true]
    constructor
    · rintro (h | h)
      · exact ⟨[], c :: text, rfl, h⟩
      · obtain ⟨xs, ys, rfl, later⟩ := (ih ..).mp h
        exact ⟨c :: xs, ys, rfl, before_cons .. ▸ later⟩
    · rintro ⟨xs, ys, hx, h⟩
      cases xs with
      | nil =>
        cases hx
        exact .inl h
      | cons d xs =>
        obtain ⟨rfl, rfl⟩ := List.cons.inj hx
        exact .inr ((ih ..).mpr ⟨xs, ys, rfl, before_cons .. ▸ h⟩)

/-- All that the search looks at is whether one of the patterns open at some place may end there. -/
theorem occursIn_iff_openedBy (p : Pattern) (text : List Char) :
    p.occursIn text = true ↔
      ∃ xs ys, text = xs ++ ys ∧
        ∃ q ∈ p :: openedBy p xs, nullable xs.getLast? ys.head? q = true := by
  simp [occursIn, search_iff_openedFrom, openedBy]

/-- The patterns that are open are different from each other and left of the searched one. -/
theorem openedFrom_leftovers (p : Pattern) (left : Option Char) (opened : List Pattern)
    (text : List Char) (distinct : opened.Nodup) (inside : opened ⊆ p.leftovers) :
    (openedFrom p left opened text).Nodup ∧ openedFrom p left opened text ⊆ p.leftovers := by
  induction text generalizing left opened with
  | nil => exact ⟨distinct, inside⟩
  | cons c text ih =>
    -- both hold again after the character, whatever was open before
    refine ih _ _ (nodup_eraseDups _) fun q hq => ?_
    obtain ⟨r, hr, leftOver⟩ := mem_advance.mp hq
    rcases List.mem_cons.mp hr with rfl | hr
    · exact after_subset_leftovers left c r q leftOver
    · exact after_leftovers left c p r (inside hr) q leftOver

/-- However long the text, no more patterns are open than the searched one has places for a
character. -/
theorem length_openedBy_le (p : Pattern) (text : List Char) :
    (p.openedBy text).length ≤ p.letters := by
  obtain ⟨distinct, inside⟩ :=
    openedFrom_leftovers p none [] text List.nodup_nil (List.nil_subset _)
  calc (p.openedBy text).length
      ≤ p.leftovers.length := distinct.length_le_of_subset inside
    _ = p.letters := length_leftovers p

end Pattern

end ScriptHost
