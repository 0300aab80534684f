import ScriptHost.Dialect.Pattern

/-!
# The typed dialect

Scripts may be written with type annotations, which have to be taken out before they run.  A
source is taken for typed when one of a few patterns occurs in it.

* `TypedDialect.patterns`: the signs of the dialect;
* `looksTyped`: whether a source shows one of them.
-/

namespace ScriptHost

namespace TypedDialect

open Pattern

/-! ### Parts -/

def nameStart : Pattern := one ⟨false, [('A', 'Z'), ('a', 'z'), ('_', '_'), ('$', '$')]⟩
def namePart : CharSet := ⟨false, CharSet.word.ranges ++ [('$', '$')]⟩
def dottedPart : CharSet := ⟨false, CharSet.word.ranges ++ [('$', '$'), ('.', '.')]⟩

/-- A name. -/
def name : Pattern := seq nameStart (star (one namePart))

/-- A name that may go on after dots. -/
def dottedName : Pattern := seq nameStart (star (one dottedPart))

/-- Anything between angle brackets, or nothing. -/
def parameters : Pattern :=
  optional (sequence [char '<', star (one (.butFor ['>'])), char '>'])

/-- Any number of `[]`. -/
def brackets : Pattern := star (text "[]")

def someBlanks : Pattern := plus (one .blank)

def openBrace : Pattern := char '\x7b'

/-! ### Signs of types -/

/-- `interface Foo`, with or without a clause `extends`, and its body. -/
def interfaceSign : Pattern := sequence
  [boundary, text "interface", someBlanks, name, blanks,
    optional (sequence [text "extends", someBlanks, plus (one (.butFor ['\x7b']))]), openBrace]

/-- `type Foo = …`. -/
def aliasSign : Pattern := sequence
  [boundary, text "type", someBlanks, one ⟨false, [('A', 'Z')]⟩, star (one namePart), blanks,
    parameters, blanks, char '=']

/-- `let x: …`. -/
def declarationSign : Pattern := sequence
  [boundary, choice (text "let") [text "const", text "var"], someBlanks, name, blanks, char ':',
    blanks, nameStart]

/-- The first parameter of a function, with a type. -/
def parameterSign : Pattern := sequence
  [char '(', blanks, name, optional (char '?'), blanks, char ':', blanks, dottedName, parameters,
    brackets, blanks, one (.ofList [',', ')', '='])]

/-- The type of what a function returns. -/
def resultSign : Pattern := sequence
  [char ')', blanks, char ':', blanks, name, parameters, brackets, blanks,
    choice openBrace [text "=>"]]

/-- A call with types between angle brackets. -/
def callSign : Pattern := sequence
  [name, char '<', blanks, name, brackets,
    star (sequence [blanks, char ',', blanks, name, brackets]), blanks, char '>', blanks, char '(']

/-- `x as string`. -/
def castSign : Pattern := sequence
  [boundary, text "as", someBlanks,
    choice (text "string")
      [text "number", text "boolean", text "any", text "unknown", text "const"],
    boundary]

/-- The signs of the dialect. -/
def patterns : List Pattern :=
  [interfaceSign, aliasSign, declarationSign, parameterSign, resultSign, callSign, castSign]

end TypedDialect

/-- Whether a source shows a sign of the typed dialect. -/
def looksTyped (source : String) : Bool :=
  TypedDialect.patterns.any fun p => p.occursIn source.toList

end ScriptHost
