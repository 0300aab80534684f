/-!
# Text patterns

Regular expressions with word boundaries, and the search for a place where one matches.

* `CharSet`: a set of characters, as ranges or what lies outside them;
* `Pattern`: patterns; `Pattern.optional`, `Pattern.plus`, `Pattern.text`, `Pattern.choice` and
  `Pattern.sequence` build on them;
* `Pattern.nullable`: whether a pattern matches nothing at all between two neighbours;
* `Pattern.after`: the patterns that are left when one character has been matched;
* `Pattern.occursIn`: whether a pattern matches some stretch of a text.

A match may depend on the characters around it, because of the boundaries; `none` stands for the
end of the text on either side.  The search reads the text once and keeps the set of patterns that
are left of the matches begun so far.
-/

namespace ScriptHost

/-- The characters in some ranges, or those outside all of them. -/
structure CharSet where
  outside : Bool
  ranges : List (Char × Char)
  deriving DecidableEq, Repr

namespace CharSet

def contains (s : CharSet) (c : Char) : Bool :=
  (s.ranges.any fun (low, high) => low ≤ c && c ≤ high) != s.outside

/-- The characters of a list. -/
def ofList (cs : List Char) : CharSet := ⟨false, cs.map fun c => (c, c)⟩

/-- All characters but those of a list. -/
def butFor (cs : List Char) : CharSet := ⟨true, cs.map fun c => (c, c)⟩

/-- Letters, digits and the underscore, ASCII only. -/
def word : CharSet := ⟨false, [('a', 'z'), ('A', 'Z'), ('0', '9'), ('_', '_')]⟩

/-- The six ASCII blanks. -/
def blank : CharSet := ofList [' ', '\t', '\n', Char.ofNat 11, Char.ofNat 12, '\r']

end CharSet

/-- A regular expression with word boundaries. -/
inductive Pattern
  | empty
  | one (set : CharSet)
  | boundary
  | seq (a b : Pattern)
  | alt (a b : Pattern)
  | star (a : Pattern)
  deriving DecidableEq, Repr

namespace Pattern

/-! ### Building patterns -/

def sequence (ps : List Pattern) : Pattern := ps.foldr seq empty

/-- One of a first pattern and others. -/
def choice (p : Pattern) (ps : List Pattern) : Pattern := ps.foldl alt p

def optional (p : Pattern) : Pattern := alt p empty
def plus (p : Pattern) : Pattern := seq p (star p)
def char (c : Char) : Pattern := one (.ofList [c])
def text (s : String) : Pattern := sequence (s.toList.map char)
def blanks : Pattern := star (one .blank)

/-! ### Matching -/

def isWord (c : Option Char) : Bool := c.any CharSet.word.contains

/-- Whether a word starts or ends between two neighbours. -/
def isBoundary (left right : Option Char) : Bool := isWord left != isWord right

/-- Whether the pattern matches the empty text between two neighbours. -/
def nullable (left right : Option Char) : Pattern → Bool
  | empty => true
  | one _ => false
  | boundary => isBoundary left right
  | seq a b => nullable left right a && nullable left right b
  | alt a b => nullable left right a || nullable left right b
  | star _ => true

/-- `a` and then `b`. -/
def andThen (a b : Pattern) : Pattern := if a = empty then b else seq a b

/-- The patterns one of which has to match what follows, once `c` has been matched after `left`. -/
def after (left : Option Char) (c : Char) : Pattern → List Pattern
  | empty => []
  | one set => if set.contains c then [empty] else []
  | boundary => []
  | seq a b =>
    let first := (after left c a).map (andThen · b)
    if nullable left (some c) a then first ++ after left c b else first
  | alt a b => after left c a ++ after left c b
  | star a => (after left c a).map (andThen · (star a))

/-! ### Search -/

/-- Whether one of the open patterns, or `p` begun at some later place, matches from here on. -/
def search (p : Pattern) : Option Char → List Pattern → List Char → Bool
  | left, opened, [] => (p :: opened).any (nullable left none)
  | left, opened, c :: rest =>
    (p :: opened).any (nullable left (some c))
      || search p (some c) ((p :: opened).flatMap (after left c)).eraseDups rest

/-- Whether the pattern matches some stretch of a text. -/
def occursIn (p : Pattern) (text : List Char) : Bool := search p none [] text

end Pattern

end ScriptHost
