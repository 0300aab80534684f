import ScriptHost.Json.Decoder
import ScriptHost.Text.Digits

/-!
# Session identifiers

* `SessionId`: a universally unique identifier;
* `SessionId.display`: its hyphenated form, in lower case;
* `SessionId.parse`: any of its written forms, or what is wrong with a text.
-/

namespace ScriptHost

/-- A universally unique identifier. -/
structure SessionId where
  value : BitVec 128
  deriving DecidableEq, Repr

/-- What is wrong with the text of an identifier. -/
inductive SessionIdFault
  | badLength (bytes : Nat)
  | badCharacter (c : Char) (index : Nat)
  | badGroupCount (count : Nat)
  | badGroupLength (group expected found : Nat)
  deriving DecidableEq, Repr

def SessionIdFault.message : SessionIdFault → String
  | badLength n => "invalid length: found " ++ toString n
  | badCharacter c i => "invalid character: found `" ++ c.toString ++ "` at " ++ toString i
  | badGroupCount n => "invalid group count: expected 5, found " ++ toString n
  | badGroupLength g e n =>
    "invalid group length in group " ++ toString g ++ ": expected " ++ toString e ++ ", found "
      ++ toString n

namespace SessionId

/-- The identifier whose bits are all zero. -/
def nil : SessionId := ⟨0⟩

/-- How many digits stand in each group. -/
def groupSizes : List Nat := [8, 4, 4, 4, 12]

/-! ### Printing -/

/-- The last `n` hexadecimal digits of a number. -/
def hexDigits : Nat → Nat → List Char
  | 0, _ => []
  | n + 1, v => hexDigits n (v / 16) ++ [Nat.digitChar (v % 16)]

/-- Digits in groups of the given sizes, with hyphens between them. -/
def hyphenate : List Nat → List Char → List Char
  | [], ds => ds
  | [_], ds => ds
  | n :: sizes, ds => ds.take n ++ '-' :: hyphenate sizes (ds.drop n)

/-- The hyphenated form. -/
def display (id : SessionId) : String :=
  String.ofList (hyphenate groupSizes (hexDigits 32 id.value.toNat))

/-! ### Parsing -/

/-- The text inside braces or after `urn:uuid:`, and how many bytes precede it; `none` when the
text is wrapped in neither. -/
def unwrap? (cs : List Char) : Option (List Char × Nat) :=
  match cs with
  | '\x7b' :: rest => if rest.getLast? = some '\x7d' then some (rest.dropLast, 1) else none
  | _ =>
    let head := "urn:uuid:".toList
    if (cs.take head.length).map Char.toLower = head then some (cs.drop head.length, head.length)
    else none

/-- The first character that is neither a digit nor a hyphen, with the bytes before it. -/
def strayCharacter? : Nat → List Char → Option (Char × Nat)
  | _, [] => none
  | i, c :: rest =>
    if c = '-' || Digits.isDigit 16 c then strayCharacter? (i + c.utf8Size) rest else some (c, i)

/-- The stretches between the hyphens. -/
def splitGroups (cs : List Char) : List (List Char) :=
  cs.foldr (fun c gs =>
    if c = '-' then [] :: gs
    else match gs with
      | [] => [[c]]
      | g :: rest => (c :: g) :: rest) [[]]

/-- The first of the groups but the last whose size is wrong. -/
def wrongGroup? : Nat → List Nat → List (List Char) → Option SessionIdFault
  | g, n :: m :: sizes, cs :: rest =>
    if cs.length = n then wrongGroup? (g + 1) (m :: sizes) rest
    else some (.badGroupLength g n cs.length)
  | _, _, _ => none

/-- The identifier with the given hexadecimal digits. -/
def ofDigits (ds : List Char) : SessionId :=
  ⟨BitVec.ofNat 128 ((Digits.inBase? 16 ds).getD 0)⟩

/-- The identifier that a text without wrapping spells: thirty-two digits, or five groups of digits
with hyphens between them.  A text inside a wrapping (`wrapped`) has to be in groups; it stands
after `offset` bytes of a whole of `size` bytes. -/
def parseBody (wrapped : Bool) (offset size : Nat) (body : List Char) :
    Except SessionIdFault SessionId :=
  let groups := splitGroups body
  match strayCharacter? offset body with
  | some (c, i) => .error (.badCharacter c i)
  | none =>
    if groups.length = 1 && !wrapped then
      if body.length = 32 then .ok (ofDigits body) else .error (.badLength body.length)
    else if groups.length ≠ 5 then .error (.badGroupCount groups.length)
    else
      match wrongGroup? 0 groupSizes groups with
      | some fault => .error fault
      | none =>
        if (groups.getLastD []).length = 12 then .ok (ofDigits groups.flatten)
        -- the last group is measured up to the end of the whole text, its wrapping included
        else .error (.badGroupLength 4 12 (size - 24))

/-- The bytes of the longest form, the one after `urn:uuid:`. -/
def maxSize : Nat := 45

/-- The identifier that a text spells: thirty-two digits, or five groups of digits with hyphens
between them, these also in braces or after `urn:uuid:`.  A text of the size of an unwrapped form
is read as one, and so is what a wrapping holds when it has the size of the groups. -/
def parse (s : String) : Except SessionIdFault SessionId :=
  let size := s.utf8ByteSize
  let cs := s.toList
  if maxSize < size then .error (.badLength size)
  else if size = 32 || size = 36 then parseBody false 0 size cs
  else
    match unwrap? cs with
    | none => parseBody false 0 size cs
    | some (body, offset) =>
      if total (body.map Char.utf8Size) = 36 then parseBody false 0 36 body
      else parseBody true offset size body

/-- What the strict reading of a document as an identifier says. -/
inductive DecodeFault
  | mismatch (e : DecodeError)
  | badText (fault : SessionIdFault)

def DecodeFault.message : DecodeFault → String
  | mismatch e => e.message
  | badText fault => "UUID parsing failed: " ++ fault.message

/-- The identifier that a document holds as a string. -/
def ofJson : Json → Except DecodeFault SessionId
  | .str s =>
    match parse s with
    | .ok id => .ok id
    | .error fault => .error (.badText fault)
  | j => .error (.mismatch (.ofMismatch (.wrongType j.found "a UUID string")))

end SessionId

end ScriptHost
