import ScriptHost.Json.Basic
import ScriptHost.Number.Scaled

/-!
# Reading documents

A reader of document text that names the place and the cause of the first fault.

* `ReadCause`, `ReadFault.message`: what can be wrong with a text, and where;
* `Rounding`: how a decimal numeral becomes a double;
* `Cursor`: the rest of the text and the line and byte column it starts at;
* `Json.read`: the document that a text spells.

Whole numbers that fit 64 bits stay whole; every other number becomes a double, by one of two
ways of rounding (`Rounding`).
Objects keep the last of the fields that share a key.  Lists and objects nest at most 127 deep.
-/

namespace ScriptHost

/-- What is wrong with a text. -/
inductive ReadCause
  | endInValue
  | endInList
  | endInObject
  | endInString
  | expectedColon
  | expectedListCommaOrEnd
  | expectedObjectCommaOrEnd
  | expectedWord
  | expectedValue
  | badEscape
  | badNumber
  | numberOutOfRange
  | controlInString
  | keyNotString
  | loneSurrogate
  | brokenSurrogate
  | trailingComma
  | trailingText
  | tooDeep
  deriving DecidableEq, Repr

/-- The words for a cause. -/
def ReadCause.message : ReadCause → String
  | endInValue => "EOF while parsing a value"
  | endInList => "EOF while parsing a list"
  | endInObject => "EOF while parsing an object"
  | endInString => "EOF while parsing a string"
  | expectedColon => "expected `:`"
  | expectedListCommaOrEnd => "expected `,` or `]`"
  | expectedObjectCommaOrEnd => "expected `,` or `\x7d`"
  | expectedWord => "expected ident"
  | expectedValue => "expected value"
  | badEscape => "invalid escape"
  | badNumber => "invalid number"
  | numberOutOfRange => "number out of range"
  | controlInString => "control character (\\u0000-\\u001F) found while parsing a string"
  | keyNotString => "key must be a string"
  | loneSurrogate => "lone leading surrogate in hex escape"
  | brokenSurrogate => "unexpected end of hex escape"
  | trailingComma => "trailing comma"
  | trailingText => "trailing characters"
  | tooDeep => "recursion limit exceeded"

/-- A cause and its place; columns count bytes. -/
structure ReadFault where
  cause : ReadCause
  line : Nat
  column : Nat
  deriving DecidableEq, Repr

def ReadFault.message (f : ReadFault) : String :=
  f.cause.message ++ " at line " ++ toString f.line ++ " column " ++ toString f.column

/-! ### Cursors -/

/-- How a decimal numeral becomes a double. -/
inductive Rounding
  /-- The nearest double. -/
  | exact
  /-- The digits as one word, scaled in double arithmetic. -/
  | quick
  deriving DecidableEq, Repr

/-- The rest of a text, and the place where it starts. -/
structure Cursor where
  rest : List Char
  line : Nat
  column : Nat
  rounding : Rounding

namespace Cursor

def start (rounding : Rounding) (s : String) : Cursor := ⟨s.toList, 1, 0, rounding⟩

/-- The place after one more byte. -/
def placeAfter (line column : Nat) (c : Char) (bytes : Nat) : Nat × Nat :=
  if c = '\n' then (line + 1, 0) else (line, column + bytes)

/-- The cursor after its first character. -/
def next (c : Cursor) : Cursor :=
  match c.rest with
  | [] => c
  | x :: rest =>
    let (line, column) := placeAfter c.line c.column x x.utf8Size
    { c with rest, line, column }

def skip : Nat → Cursor → Cursor
  | 0, c => c
  | n + 1, c => skip n c.next

/-- The place so many bytes after another, which may lie within a character. -/
def placeAfterBytes (line column : Nat) : Nat → List Char → Nat × Nat
  | _, [] => (line, column)
  | n, x :: rest =>
    if n = 0 then (line, column)
    else
      let (line, column) := placeAfter line column x (min n x.utf8Size)
      placeAfterBytes line column (n - x.utf8Size) rest

/-- A fault at the cursor. -/
def fault (c : Cursor) (cause : ReadCause) : ReadFault := ⟨cause, c.line, c.column⟩

/-- A fault so many bytes after the cursor. -/
def faultAfterBytes (c : Cursor) (n : Nat) (cause : ReadCause) : ReadFault :=
  let (line, column) := placeAfterBytes c.line c.column n c.rest
  ⟨cause, line, column⟩

/-- A fault at the character that the cursor stands before. -/
def faultAhead (c : Cursor) (cause : ReadCause) : ReadFault :=
  match c.rest with
  | [] => c.fault cause
  | x :: _ =>
    let (line, column) := placeAfter c.line c.column x 1
    ⟨cause, line, column⟩

def isBlank (c : Char) : Bool := c = ' ' || c = '\n' || c = '\t' || c = '\r'

/-- The cursor after the blanks it stands before. -/
def skipBlanks (c : Cursor) : Cursor := c.skip (c.rest.takeWhile isBlank).length

end Cursor

namespace Json

/-! ### Numbers -/

/-- Whether a whole number fits 64 bits, without a sign when it is positive. -/
def fitsWord (neg : Bool) (n : Nat) : Bool := if neg then 0 < n && n ≤ twoTo 63 else n < twoTo 64

/-- The largest exponent that is counted. -/
def maxExponent : Nat := twoTo 31 - 1

/-- The digits of an exponent from the cursor on, after those that spell `n`: the exponent, or none
as soon as it cannot be counted, and the cursor after the digits read. -/
def readExponentDigits : List Char → Nat → Cursor → Option Nat × Cursor
  | x :: rest, n, c =>
    if x.isDigit then
      let n := 10 * n + Digits.decimal [x]
      if n ≤ maxExponent then readExponentDigits rest n c.next else (none, c.next)
    else (some n, c)
  | [], n, c => (some n, c)

/-- A numeral as it is read: its digits with the point taken out, how many of them stand after the
point, and its power of ten. -/
structure Numeral where
  whole : List Char
  fraction : List Char := []
  exponent : Int := 0

namespace Numeral

def isZero (n : Numeral) : Bool := Digits.decimal (n.whole ++ n.fraction) = 0

/-- The double that the numeral becomes, unless it is too large. -/
def toDouble? (n : Numeral) (rounding : Rounding) (neg : Bool) : Option Double :=
  match rounding with
  | .exact =>
    let d := Double.ofDecimal neg (Digits.decimal (n.whole ++ n.fraction))
      (n.exponent - n.fraction.length)
    if d.isFinite then some d else none
  | .quick => (((Scaled.ofDigits n.whole).withFraction n.fraction).shift n.exponent).toDouble? neg

end Numeral

/-- A number that was read up to the cursor; documents hold finite ones only. -/
def finiteAt (neg : Bool) (n : Numeral) (c : Cursor) : Except ReadFault (Json × Cursor) :=
  match n.toDouble? c.rounding neg with
  | some d => .ok (.double d, c)
  | none => .error (c.fault .numberOutOfRange)

/-- The rest of a number from the letter of its exponent on. -/
def readExponent (neg : Bool) (n : Numeral) (c : Cursor) : Except ReadFault (Json × Cursor) :=
  let c := c.next
  let (down, c) := match c.rest with
    | '-' :: _ => (true, c.next)
    | '+' :: _ => (false, c.next)
    | _ => (false, c)
  match c.rest with
  | [] => .error (c.fault .endInValue)
  | x :: _ =>
    if !x.isDigit then .error (c.faultAhead .badNumber)
    else
      match readExponentDigits c.rest 0 c with
      | (some e, c) => finiteAt neg { n with exponent := if down then -(e : Int) else e } c
      | (none, c) =>
        if !n.isZero && !down then .error (c.fault .numberOutOfRange)
        else .ok (.double (.zero neg), c.skip (c.rest.takeWhile Char.isDigit).length)

/-- The rest of a number after its digits and its fraction. -/
def readScale (neg : Bool) (n : Numeral) (c : Cursor) : Except ReadFault (Json × Cursor) :=
  match c.rest with
  | 'e' :: _ | 'E' :: _ => readExponent neg n c
  | _ => finiteAt neg n c

/-- A number without fraction and exponent that was read up to the cursor. -/
def wholeAt (neg : Bool) (whole : List Char) (c : Cursor) : Except ReadFault (Json × Cursor) :=
  let n := Digits.decimal whole
  if fitsWord neg n then .ok (.int (if neg then -(n : Int) else n), c)
  else finiteAt neg { whole } c

/-- The number whose digits start at the cursor. -/
def readNumber (neg : Bool) (c : Cursor) : Except ReadFault (Json × Cursor) :=
  match c.rest with
  | [] => .error (c.fault .endInValue)
  | x :: more =>
    if !x.isDigit then .error (c.faultAhead .badNumber)
    else if x = '0' && (more.head?.any Char.isDigit) then .error (c.next.faultAhead .badNumber)
    else
      let whole := c.rest.takeWhile Char.isDigit
      let n : Numeral := { whole }
      let c := c.skip whole.length
      match c.rest with
      | '.' :: _ =>
        let c := c.next
        let fraction := c.rest.takeWhile Char.isDigit
        if fraction.isEmpty then
          .error (c.faultAhead (if c.rest.isEmpty then .endInValue else .badNumber))
        else readScale neg { n with fraction } (c.skip fraction.length)
      | 'e' :: _ | 'E' :: _ => readExponent neg n c
      | _ => wholeAt neg whole c

/-! ### Strings -/

/-- The four hexadecimal digits at the cursor; what stands there instead is passed over up to the
fourth byte. -/
def readHex (c : Cursor) : Except ReadFault (Nat × Cursor) :=
  let ds := c.rest.take 4
  if total (ds.map Char.utf8Size) < 4 then .error ((c.skip ds.length).fault .endInString)
  else
    match Digits.inBase? 16 ds with
    | some n => .ok (n, c.skip 4)
    | none => .error (c.faultAfterBytes 4 .badEscape)

/-- The character of a `\u` escape, whose digits start at the cursor. -/
def readUnicodeEscape (c : Cursor) : Except ReadFault (Char × Cursor) := do
  let (n, c) ← readHex c
  if 0xDC00 ≤ n && n ≤ 0xDFFF then .error (c.fault .loneSurrogate)
  else if 0xD800 ≤ n && n ≤ 0xDBFF then
    match c.rest with
    | [] => .error (c.fault .endInString)
    | '\\' :: more =>
      let c := c.next
      match more with
      | [] => .error (c.fault .endInString)
      | 'u' :: _ =>
        let (m, c) ← readHex c.next
        if 0xDC00 ≤ m && m ≤ 0xDFFF then
          .ok (Char.ofNat (0x10000 + (n - 0xD800) * 1024 + (m - 0xDC00)), c)
        else .error (c.fault .loneSurrogate)
      | _ => .error (c.faultAhead .brokenSurrogate)
    | _ => .error (c.faultAhead .brokenSurrogate)
  else .ok (Char.ofNat n, c)

/-- The character of an escape, after its backslash. -/
def readEscape (start : Cursor) : Except ReadFault (Char × Cursor) :=
  match start.rest with
  | [] => .error (start.fault .endInString)
  | x :: _ =>
    let c := start.next
    match x with
    | '"' => .ok ('"', c)
    | '\\' => .ok ('\\', c)
    | '/' => .ok ('/', c)
    | 'b' => .ok (Char.ofNat 8, c)
    | 'f' => .ok (Char.ofNat 12, c)
    | 'n' => .ok ('\n', c)
    | 'r' => .ok ('\r', c)
    | 't' => .ok ('\t', c)
    | 'u' => readUnicodeEscape c
    | _ => .error (start.faultAhead .badEscape)

/-- The string whose opening quote the cursor has passed. -/
def readString : Nat → String → Cursor → Except ReadFault (String × Cursor)
  | 0, _, c => .error (c.fault .endInString)
  | fuel + 1, acc, c =>
    match c.rest with
    | [] => .error (c.fault .endInString)
    | x :: _ =>
      if x = '"' then .ok (acc, c.next)
      else if x = '\\' then
        match readEscape c.next with
        | .ok (y, c) => readString fuel (acc.push y) c
        | .error e => .error e
      else if x.toNat < 32 then .error (c.next.fault .controlInString)
      else readString fuel (acc.push x) c.next

/-! ### Values -/

/-- The rest of a word whose first letter the cursor has passed. -/
def readWord (value : Json) : List Char → Cursor → Except ReadFault (Json × Cursor)
  | [], c => .ok (value, c)
  | x :: rest, c =>
    match c.rest with
    | [] => .error (c.fault .endInValue)
    | y :: _ => if x = y then readWord value rest c.next else .error (c.faultAhead .expectedWord)

mutual

/-- The value at the cursor, inside at most `levels` more lists and objects. -/
def readValue (levels : Nat) : Nat → Cursor → Except ReadFault (Json × Cursor)
  | 0, c => .error (c.fault .endInValue)
  | fuel + 1, c => do
    let c := c.skipBlanks
    match c.rest with
    | [] => .error (c.faultAhead .endInValue)
    | x :: _ =>
      match x with
      | 'n' => readWord .null ['u', 'l', 'l'] c.next
      | 't' => readWord (.bool true) ['r', 'u', 'e'] c.next
      | 'f' => readWord (.bool false) ['a', 'l', 's', 'e'] c.next
      | '-' => readNumber true c.next
      | '"' =>
        let (s, c) ← readString fuel "" c.next
        .ok (.str s, c)
      | '[' =>
        if levels ≤ 1 then .error (c.faultAhead .tooDeep)
        else
          let (items, c) ← readItems (levels - 1) fuel true #[] c.next
          .ok (.arr items, c)
      | '\x7b' =>
        if levels ≤ 1 then .error (c.faultAhead .tooDeep)
        else
          let (fields, c) ← readFields (levels - 1) fuel true [] c.next
          .ok (.obj fields, c)
      | _ => if x.isDigit then readNumber false c else .error (c.faultAhead .expectedValue)

/-- The rest of a list. -/
def readItems (levels : Nat) :
    Nat → Bool → Array Json → Cursor → Except ReadFault (List Json × Cursor)
  | 0, _, _, c => .error (c.fault .endInList)
  | fuel + 1, first, acc, c => do
    let c := c.skipBlanks
    match c.rest with
    | [] => .error (c.faultAhead .endInList)
    | ']' :: _ => .ok (acc.toList, c.next)
    | x :: _ =>
      if first then
        let (j, c) ← readValue levels fuel c
        readItems levels fuel false (acc.push j) c
      else if x = ',' then
        let c := c.next.skipBlanks
        match c.rest with
        | [] => .error (c.faultAhead .endInValue)
        | ']' :: _ => .error (c.faultAhead .trailingComma)
        | _ =>
          let (j, c) ← readValue levels fuel c
          readItems levels fuel false (acc.push j) c
      else .error (c.faultAhead .expectedListCommaOrEnd)

/-- The rest of an object. -/
def readFields (levels : Nat) :
    Nat → Bool → List (String × Json) → Cursor → Except ReadFault (List (String × Json) × Cursor)
  | 0, _, _, c => .error (c.fault .endInObject)
  | fuel + 1, first, acc, c => do
    let c := c.skipBlanks
    match c.rest with
    | [] => .error (c.faultAhead .endInObject)
    | '\x7d' :: _ => .ok (acc, c.next)
    | x :: _ =>
      if first then
        if x = '"' then
          let (k, j, c) ← readField levels fuel c
          readFields levels fuel false (insertField k j acc) c
        else .error (c.faultAhead .keyNotString)
      else if x = ',' then
        let c := c.next.skipBlanks
        match c.rest with
        | [] => .error (c.faultAhead .endInValue)
        | '"' :: _ =>
          let (k, j, c) ← readField levels fuel c
          readFields levels fuel false (insertField k j acc) c
        | '\x7d' :: _ => .error (c.faultAhead .trailingComma)
        | _ => .error (c.faultAhead .keyNotString)
      else .error (c.faultAhead .expectedObjectCommaOrEnd)

/-- A key, a colon and a value; the cursor stands before the quote of the key. -/
def readField (levels : Nat) : Nat → Cursor → Except ReadFault (String × Json × Cursor)
  | 0, c => .error (c.fault .endInObject)
  | fuel + 1, c => do
    let (k, c) ← readString fuel "" c.next
    let c := c.skipBlanks
    match c.rest with
    | [] => .error (c.faultAhead .endInObject)
    | ':' :: _ =>
      let (j, c) ← readValue levels fuel c.next
      .ok (k, j, c)
    | _ => .error (c.faultAhead .expectedColon)

end

/-- The levels of lists and objects that a text may open. -/
def maxLevels : Nat := 128

/-- The document that a text spells, with blanks around it. -/
def read (rounding : Rounding) (s : String) : Except ReadFault Json := do
  let c := Cursor.start rounding s
  let (j, c) ← readValue maxLevels (3 * c.rest.length + 3) c
  let c := c.skipBlanks
  if c.rest.isEmpty then .ok j else .error (c.faultAhead .trailingText)

end Json

end ScriptHost
