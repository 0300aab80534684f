import ScriptHost.Json.Basic

/-!
# Document text

The text of a document, with the fields in the order of their keys.

* `Json.escape`: a string between quotes, with the escapes of the format;
* `Json.render`: the compact text of a document, without blanks;
* `Json.renderLines`: the text of a document with a line for each item and each field.
-/

namespace ScriptHost

namespace Json

/-! ### Strings -/

/-- The two hexadecimal digits of a number below 256. -/
def hexPair (n : Nat) : List Char := [Nat.digitChar (n / 16), Nat.digitChar (n % 16)]

/-- The escape of a character, if it has one: quote, backslash and the controls below the blank. -/
def escapeOf? (c : Char) : Option (List Char) :=
  match c with
  | '"' => some ['\\', '"']
  | '\\' => some ['\\', '\\']
  | '\n' => some ['\\', 'n']
  | '\r' => some ['\\', 'r']
  | '\t' => some ['\\', 't']
  | _ =>
    if c.toNat = 8 then some ['\\', 'b']
    else if c.toNat = 12 then some ['\\', 'f']
    else if c.toNat < 32 then some ('\\' :: 'u' :: '0' :: '0' :: hexPair c.toNat)
    else none

/-- A character as it stands inside quotes. -/
def pushEscaped (acc : String) (c : Char) : String :=
  match escapeOf? c with
  | some cs => acc ++ String.ofList cs
  | none => acc.push c

/-- A string between quotes, appended to `acc`. -/
def pushString (acc : String) (s : String) : String :=
  (s.foldl pushEscaped (acc.push '"')).push '"'

/-- A string between quotes. -/
def escape (s : String) : String := pushString "" s

/-! ### Documents -/

mutual

/-- The text of a document, appended to `acc`. -/
def pushText (acc : String) : Json → String
  | .null => acc ++ "null"
  | .bool b => acc ++ (if b then "true" else "false")
  | .int n => acc ++ toString n
  | .double d => acc ++ d.render .document
  | .str s => pushString acc s
  | .arr [] => acc ++ "[]"
  | .arr (j :: rest) => (pushItems (pushText (acc.push '[') j) rest).push ']'
  | .obj [] => acc ++ "\x7b\x7d"
  | .obj ((k, j) :: rest) =>
    (pushFields (pushText ((pushString (acc.push '\x7b') k).push ':') j) rest).push '\x7d'

def pushItems (acc : String) : List Json → String
  | [] => acc
  | j :: rest => pushItems (pushText (acc.push ',') j) rest

def pushFields (acc : String) : List (String × Json) → String
  | [] => acc
  | (k, j) :: rest => pushFields (pushText ((pushString (acc.push ',') k).push ':') j) rest

end

/-- The compact text of a document. -/
def render (j : Json) : String := pushText "" j

/-! ### Lines -/

/-- A new line, indented by two blanks a level. -/
def pushLine (acc : String) (level : Nat) : String := (acc.push '\n').pushn ' ' (2 * level)

mutual

/-- The text of a document at a level, in lines, appended to `acc`. -/
def pushLines (acc : String) (level : Nat) : Json → String
  | .arr [] => acc ++ "[]"
  | .arr (j :: rest) =>
    let acc := pushLines (pushLine (acc.push '[') (level + 1)) (level + 1) j
    (pushLine (pushItemLines acc (level + 1) rest) level).push ']'
  | .obj [] => acc ++ "\x7b\x7d"
  | .obj ((k, j) :: rest) =>
    let acc := pushString (pushLine (acc.push '\x7b') (level + 1)) k ++ ": "
    let acc := pushLines acc (level + 1) j
    (pushLine (pushFieldLines acc (level + 1) rest) level).push '\x7d'
  | .null => acc ++ "null"
  | .bool b => pushText acc (.bool b)
  | .int n => pushText acc (.int n)
  | .double d => pushText acc (.double d)
  | .str s => pushText acc (.str s)

def pushItemLines (acc : String) (level : Nat) : List Json → String
  | [] => acc
  | j :: rest => pushItemLines (pushLines (pushLine (acc.push ',') level) level j) level rest

def pushFieldLines (acc : String) (level : Nat) : List (String × Json) → String
  | [] => acc
  | (k, j) :: rest =>
    let acc := pushString (pushLine (acc.push ',') level) k ++ ": "
    pushFieldLines (pushLines acc level j) level rest

end

/-- The text of a document in lines. -/
def renderLines (j : Json) : String := pushLines "" 0 j

end Json

end ScriptHost
