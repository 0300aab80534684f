import ScriptHost.Dialect.Typed
import ScriptHost.Proofs.Matching

/-!
# The expressions of the typed dialect

The signs of the typed dialect are written down as regular expressions.  Read as such, they are the
patterns that are searched for, so a source is taken for typed if and only if a stretch of it is in
the language of one of the expressions.

* `Pattern.Same`: patterns with one language; `Pattern.normal` makes nested sequences flat;
* `Pattern.ofText?`: the pattern that an expression spells;
* `TypedDialect.expressions`: the signs of the dialect, as they are spelled;
* `TypedDialect.detects`: the check is exact, and its search ends.

Of the syntax of expressions only what the seven use is read: groups that capture nothing, choices,
classes of characters, `\s`, `\w`, `\b`, and the three repetitions.
-/

namespace ScriptHost

namespace Pattern

/-! ### Patterns with one language -/

/-- Two patterns read as the same stretches of the same texts. -/
def Same (p q : Pattern) : Prop :=
  ∀ left xs rest, Matches p left xs rest ↔ Matches q left xs rest

variable {p q a b a' b' : Pattern}

namespace Same

theorem refl (p : Pattern) : Same p p := fun _ _ _ => Iff.rfl

theorem symm (h : Same p q) : Same q p := fun left xs rest => (h left xs rest).symm

theorem trans (h : Same p q) (h' : Same q a) : Same p a :=
  fun left xs rest => (h left xs rest).trans (h' left xs rest)

theorem seq (ha : Same a a') (hb : Same b b') : Same (.seq a b) (.seq a' b') := by
  intro left xs rest
  rw [matches_seq_iff, matches_seq_iff]
  simp only [ha left, hb _]

theorem alt (ha : Same a a') (hb : Same b b') : Same (.alt a b) (.alt a' b') := by
  intro left xs rest
  rw [matches_alt_iff, matches_alt_iff, ha, hb]

theorem star_of_same (ha : Same a a') {left : Option Char} {xs rest : List Char}
    (h : Matches (.star a) left xs rest) : Matches (.star a') left xs rest := by
  generalize hp : Pattern.star a = p at h
  induction h with
  | none => exact .none
  | more first _ _ ih =>
    cases hp
    exact .more ((ha _ _ _).mp first) (ih rfl)
  | _ => cases hp

theorem star (ha : Same a a') : Same (.star a) (.star a') :=
  fun _ _ _ => ⟨star_of_same ha, star_of_same ha.symm⟩

theorem foundIn (h : Same p q) (text : List Char) : p.FoundIn text ↔ q.FoundIn text := by
  simp only [FoundIn, h _]

end Same

theorem same_empty_seq (p : Pattern) : Same (.seq .empty p) p := by
  intro left xs rest
  rw [← matches_andThen_iff, andThen, if_pos rfl]

theorem same_seq_empty (p : Pattern) : Same (.seq p .empty) p := by
  intro left xs rest
  rw [matches_seq_iff]
  constructor
  · rintro ⟨us, vs, rfl, first, second⟩
    cases matches_empty_iff.mp second
    simpa using first
  · intro h
    exact ⟨xs, [], (List.append_nil xs).symm, h, .empty⟩

theorem same_seq_assoc (a b p : Pattern) : Same (.seq (.seq a b) p) (.seq a (.seq b p)) := by
  intro left xs rest
  simp only [matches_seq_iff]
  constructor
  · rintro ⟨_, ws, rfl, ⟨us, vs, rfl, first, second⟩, third⟩
    rw [before_append] at third
    rw [← List.append_assoc] at first
    exact ⟨us, vs ++ ws, List.append_assoc .., first, vs, ws, rfl, second, third⟩
  · rintro ⟨us, _, rfl, first, vs, ws, rfl, second, third⟩
    rw [List.append_assoc] at first
    exact ⟨us ++ vs, ws, (List.append_assoc ..).symm, ⟨us, vs, rfl, first, second⟩,
      before_append .. ▸ third⟩

/-! ### Flat sequences -/

/-- One pattern and then another, as one sequence without a sequence at its head. -/
def joined : Pattern → Pattern → Pattern
  | empty, q => q
  | seq a b, q => joined a (joined b q)
  | p, q => if q = empty then p else seq p q

/-- The pattern with its sequences made flat. -/
def normal : Pattern → Pattern
  | seq a b => joined a.normal b.normal
  | alt a b => alt a.normal b.normal
  | star a => star a.normal
  | p => p

theorem same_joined (p q : Pattern) : Same (joined p q) (.seq p q) := by
  have single (p q : Pattern) : Same (if q = empty then p else seq p q) (.seq p q) := by
    split
    · next h => exact h ▸ (same_seq_empty p).symm
    · exact .refl _
  induction p generalizing q with
  | empty => exact (same_empty_seq q).symm
  | seq a b iha ihb =>
    have nested : Same (joined a (joined b q)) (.seq a (.seq b q)) :=
      (iha _).trans ((Same.refl a).seq (ihb q))
    exact nested.trans (same_seq_assoc a b q).symm
  | _ => exact single _ _

theorem same_normal (p : Pattern) : Same p.normal p := by
  induction p with
  | seq a b iha ihb => exact (same_joined _ _).trans (iha.seq ihb)
  | alt a b iha ihb => exact iha.alt ihb
  | star a ih => exact ih.star
  | _ => exact .refl _

/-! ### Reading an expression -/

/-- One sign of an expression. -/
inductive Sign
  | plain (c : Char)
  | escaped (c : Char)
  /-- The start of a group. -/
  | opening

def signs : List Char → List Sign
  | '\\' :: c :: rest => .escaped c :: signs rest
  | '(' :: '?' :: ':' :: rest => .opening :: signs rest
  | c :: rest => .plain c :: signs rest
  | [] => []

/-- A class of characters of which a part is read; the last range comes first. -/
structure OpenClass where
  outside : Bool
  ranges : List (Char × Char)
  /-- Whether the last range goes up to the character that comes next. -/
  ranging : Bool

/-- The class with one more character, or with its last range ended. -/
def OpenClass.add (s : OpenClass) (c : Char) : OpenClass :=
  match s.ranging, s.ranges with
  | true, (low, _) :: others => ⟨s.outside, (low, c) :: others, false⟩
  | _, ranges => ⟨s.outside, (c, c) :: ranges, false⟩

/-- A group of which a part is read: the choices before the last one, and the parts of that; what
was read last comes first. -/
structure Group where
  choices : List Pattern
  parts : List Pattern

def Group.pattern (g : Group) : Pattern :=
  let last := sequence g.parts.reverse
  match g.choices.reverse with
  | [] => last
  | p :: others => choice p (others ++ [last])

/-- How far an expression is read: the groups around the innermost open one, that group, and the
class that is open in it. -/
structure Reading where
  outer : List Group
  group : Group
  class? : Option OpenClass

namespace Reading

def push (r : Reading) (p : Pattern) : Reading :=
  { r with group := ⟨r.group.choices, p :: r.group.parts⟩ }

/-- The reading with its last part put under a repetition. -/
def repeat? (r : Reading) (f : Pattern → Pattern) : Option Reading :=
  match r.group.parts with
  | [] => none
  | p :: parts => some { r with group := ⟨r.group.choices, f p :: parts⟩ }

/-- Reads a sign of a class. -/
def inClass? (r : Reading) (s : OpenClass) : Sign → Option Reading
  | .plain ']' => some ({ r with class? := none }.push (one ⟨s.outside, s.ranges.reverse⟩))
  | .plain '^' =>
    if s.outside || !s.ranges.isEmpty then none
    else some { r with class? := some { s with outside := true } }
  | .plain '-' =>
    if s.ranging || s.ranges.isEmpty then none
    else some { r with class? := some { s with ranging := true } }
  | .plain c => some { r with class? := some (s.add c) }
  | .escaped 'w' =>
    some { r with class? := some { s with ranges := CharSet.word.ranges.reverse ++ s.ranges } }
  | .escaped c => if c.isAlphanum then none else some { r with class? := some (s.add c) }
  | .opening => none

/-- Reads a sign that stands in no class. -/
def inGroup? (r : Reading) : Sign → Option Reading
  | .opening => some ⟨r.group :: r.outer, ⟨[], []⟩, none⟩
  | .plain ')' =>
    match r.outer with
    | [] => none
    | around :: outer => some (push ⟨outer, around, none⟩ r.group.pattern)
  | .plain '|' => some { r with group := ⟨sequence r.group.parts.reverse :: r.group.choices, []⟩ }
  | .plain '?' => r.repeat? optional
  | .plain '*' => r.repeat? star
  | .plain '+' => r.repeat? plus
  | .plain '[' => some { r with class? := some ⟨false, [], false⟩ }
  | .plain c => if "(.^$\x7b\x7d\\".toList.contains c then none else some (r.push (char c))
  | .escaped 'b' => some (r.push boundary)
  | .escaped 's' => some (r.push (one .blank))
  | .escaped 'w' => some (r.push (one .word))
  | .escaped c => if c.isAlphanum then none else some (r.push (char c))

def read? (r : Reading) (s : Sign) : Option Reading :=
  match r.class? with
  | some open' => r.inClass? open' s
  | none => r.inGroup? s

end Reading

/-- The pattern that an expression spells. -/
def ofText? (text : String) : Option Pattern := do
  match ← (signs text.toList).foldlM Reading.read? ⟨[], ⟨[], []⟩, none⟩ with
  | ⟨[], group, none⟩ => some group.pattern
  | _ => none

end Pattern

namespace TypedDialect

/-! ### The signs, spelled out -/

/-- The signs of the dialect as regular expressions. -/
def expressions : List String :=
  ["\\binterface\\s+[A-Za-z_$][\\w$]*\\s*(?:extends\\s+[^\x7b]+)?\\\x7b",
    "\\btype\\s+[A-Z][\\w$]*\\s*(?:<[^>]*>)?\\s*=",
    "\\b(?:let|const|var)\\s+[A-Za-z_$][\\w$]*\\s*:\\s*[A-Za-z_$]",
    "\\(\\s*[A-Za-z_$][\\w$]*\\??\\s*:\\s*[A-Za-z_$][\\w$.]*(?:<[^>]*>)?(?:\\[\\])*\\s*[,)=]",
    "\\)\\s*:\\s*[A-Za-z_$][\\w$]*(?:<[^>]*>)?(?:\\[\\])*\\s*(?:\\\x7b|=>)",
    "[A-Za-z_$][\\w$]*<\\s*[A-Za-z_$][\\w$]*(?:\\[\\])*" ++
      "(?:\\s*,\\s*[A-Za-z_$][\\w$]*(?:\\[\\])*)*\\s*>\\s*\\(",
    "\\bas\\s+(?:string|number|boolean|any|unknown|const)\\b"]

/-- Each of the expressions can be read, and spells the pattern at its place. -/
theorem readings_normal :
    expressions.map (fun text => (Pattern.ofText? text).map Pattern.normal) =
      patterns.map fun p => some p.normal := by
  decide +kernel

theorem same_of_ofText? {text : String} (h : text ∈ expressions) :
    ∃ p, Pattern.ofText? text = some p ∧ ∃ q ∈ patterns, p.Same q := by
  have reading := List.mem_map_of_mem (f := fun text => (Pattern.ofText? text).map Pattern.normal) h
  rw [readings_normal] at reading
  obtain ⟨q, hq, eq⟩ := List.mem_map.mp reading
  obtain ⟨p, hp, same⟩ := Option.map_eq_some_iff.mp eq.symm
  exact ⟨p, hp, q, hq, (p.same_normal.symm.trans (same ▸ .refl _)).trans q.same_normal⟩

theorem ofText?_of_mem {q : Pattern} (h : q ∈ patterns) :
    ∃ text ∈ expressions, ∃ p, Pattern.ofText? text = some p ∧ p.Same q := by
  have reading := List.mem_map_of_mem (f := fun p => some p.normal) h
  rw [← readings_normal] at reading
  obtain ⟨text, ht, eq⟩ := List.mem_map.mp reading
  obtain ⟨p, hp, same⟩ := Option.map_eq_some_iff.mp eq
  exact ⟨text, ht, p, hp, (p.same_normal.symm.trans (same ▸ .refl _)).trans q.same_normal⟩

/-! ### The check -/

theorem looksTyped_iff (source : String) :
    looksTyped source = true ↔ ∃ q ∈ patterns, q.FoundIn source.toList := by
  rw [looksTyped, List.any_eq_true]
  simp only [Pattern.occursIn_iff]

/-- How a source is judged. -/
structure Detects (source : String) : Prop where
  /-- Each of the seven expressions spells a pattern. -/
  spelled : expressions.length = 7 ∧ ∀ text ∈ expressions, ∃ p, Pattern.ofText? text = some p
  /-- A source is taken for typed if and only if some stretch of it, between what stands on either
  side, is in the language of one of the expressions. -/
  exact : looksTyped source = true ↔
    ∃ text ∈ expressions, ∃ p, Pattern.ofText? text = some p ∧ p.FoundIn source.toList
  /-- The search for a pattern asks at each place of the source, and of no more patterns than the
  searched one and as many as it has places for a character, whether one may end there. -/
  ends : ∀ q ∈ patterns,
    (q.occursIn source.toList = true ↔
      ∃ xs ys, source.toList = xs ++ ys ∧
        ∃ r ∈ q :: q.openedBy xs, Pattern.nullable xs.getLast? ys.head? r = true) ∧
      ∀ xs, (q.openedBy xs).length ≤ q.letters

/-- Every source is judged by exactly the seven expressions, and the search for them ends. -/
theorem detects (source : String) : Detects source where
  spelled := ⟨rfl, fun _ h => (same_of_ofText? h).imp fun _ reading => reading.1⟩
  exact := by
    rw [looksTyped_iff]
    constructor
    · rintro ⟨q, hq, found⟩
      obtain ⟨text, ht, p, hp, same⟩ := ofText?_of_mem hq
      exact ⟨text, ht, p, hp, (same.foundIn _).mpr found⟩
    · rintro ⟨text, ht, p, hp, found⟩
      obtain ⟨p', hp', q, hq, same⟩ := same_of_ofText? ht
      cases hp.symm.trans hp'
      exact ⟨q, hq, (same.foundIn _).mp found⟩
  ends q _ := ⟨q.occursIn_iff_openedBy _, q.length_openedBy_le⟩

/-- What stands between the angle brackets may go over a line end, and need not be ASCII. -/
example : looksTyped "type A<\né> = B" = true := by decide +kernel

end TypedDialect

end ScriptHost
