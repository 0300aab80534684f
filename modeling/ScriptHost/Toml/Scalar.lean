import ScriptHost.Text.Digits
import ScriptHost.Toml.Rule
import ScriptHost.Toml.Tree

/-!
# Strings, numbers and dates

The parts of TOML 1.0 that hold no other values.

* `Toml.blanks`, `Toml.lineEnd`, `Toml.comment`, `Toml.endOfLine`, `Toml.space`: what stands
  between;
* `Toml.basicString`, `Toml.literalString`, `Toml.string`: strings;
* `Toml.wholeNumber`, `Toml.fraction`, `Toml.dateTime`: numbers, dates and times;
* `Toml.word`: a value that is written without quotes and brackets.

A date or a time becomes a map with the single key `dateKey`.
-/

namespace ScriptHost

namespace Toml

open Rule

/-! ### Between the values -/

def isBlank (c : Char) : Bool := c = ' ' || c = '\t'

def blanks : Rule Unit := do let _ ← run isBlank

/-- The end of a line. -/
def lineEnd : Rule Unit :=
  orElse (literal ['\n']) (do literal ['\r']; literal ['\n'])

/-- Characters of comments and literal strings: no controls but the tabulator. -/
def isPrintable (c : Char) : Bool := c = '\t' || (32 ≤ c.toNat && c.toNat != 127)

def comment : Rule Unit := do
  let _ ← char (· = '#')
  let _ ← run isPrintable

/-- Blanks and a comment, which must reach the end of the line. -/
def endOfLine : Rule Unit := do
  blanks
  let _ ← optional comment
  orElse lineEnd atEnd

/-- Blanks and line ends. -/
def space : Rule Unit := do
  let _ ← many (orElse lineEnd (do let _ ← char isBlank))

/-- Blanks, line ends and comments.  A line end must follow a comment. -/
def spaceAndComments : Rule Unit := do
  let line : Rule (Option Unit) := do
    blanks
    match ← peek? with
    | some '#' => do comment; some <$> lineEnd
    | some '\n' | some '\r' => some <$> lineEnd
    | _ => pure none
  whileSome line

/-! ### Strings -/

def isHex (c : Char) : Bool := Digits.isDigit 16 c

/-- The character with a hexadecimal code of `n` digits. -/
def code (n : Nat) : Rule Char :=
  refine (upTo n isHex) fun ds =>
    if ds.length = n then
      (Digits.inBase? 16 ds).bind fun code =>
        if (code < 0xD800 || 0xDFFF < code) && code < 0x110000 then some (Char.ofNat code) else none
    else none

/-- The character that an escape stands for.  The text is at fault after an unknown letter of
one byte, and before one of several bytes. -/
def escape : Rule Char := do
  let _ ← char (· = '\\')
  let i ← here
  let c ← char fun _ => true
  match c with
  | 'b' => pure (Char.ofNat 8)
  | 't' => pure '\t'
  | 'n' => pure '\n'
  | 'f' => pure (Char.ofNat 12)
  | 'r' => pure '\r'
  | '"' => pure '"'
  | '\\' => pure '\\'
  | 'u' => commit (code 4)
  | 'U' => commit (code 8)
  | _ => stopAt (if c.utf8Size = 1 then i.pos + 1 else i.pos)

/-- Characters that stand for themselves between double quotes. -/
def isPlain (c : Char) : Bool := isPrintable c && c != '"' && c != '\\'

/-- A string in double quotes on one line. -/
def basicString : Rule String := do
  let _ ← char (· = '"')
  let cs ← many (orElse (char isPlain) escape)
  let _ ← commit (char (· = '"'))
  pure (String.ofList cs)

/-- A string in single quotes on one line. -/
def literalString : Rule String := do
  let _ ← char (· = '\'')
  let cs ← run fun c => isPrintable c && c != '\''
  let _ ← commit (char (· = '\''))
  pure (String.ofList cs)

/-- Three quotes. -/
def fence (quote : Char) : Rule Unit := literal [quote, quote, quote]

/-- One or two quotes in front of what `next` reads. -/
def looseQuotes {α : Type} (quote : Char) (next : Rule α) : Rule (List Char) :=
  orElse (do literal [quote, quote]; let _ ← ahead next; pure [quote, quote])
    (do literal [quote]; let _ ← ahead next; pure [quote])

/-- Quotes inside a string of several lines. -/
def innerQuotes (quote : Char) : Rule (List Char) := looseQuotes quote (char (· != quote))

/-- The quotes in front of the closing ones. -/
def lastQuotes (quote : Char) : Rule (List Char) := do
  let cs ← optional (looseQuotes quote (fence quote))
  pure (cs.getD [])

/-- A piece of a string of several lines in double quotes. -/
def basicPiece : Rule (List Char) :=
  let plain : Rule (List Char) := do let c ← char isPlain; pure [c]
  let continued : Rule (List Char) := do literal ['\\']; blanks; lineEnd; space; pure []
  let escaped : Rule (List Char) := do let c ← escape; pure [c]
  orElse plain (orElse continued (orElse escaped (do lineEnd; pure ['\n'])))

/-- A string of several lines in double quotes. -/
def longBasicString : Rule String := do
  fence '"'
  let _ ← optional lineEnd
  let first ← commit (many basicPiece)
  let others ← commit (many (do
    let quotes ← innerQuotes '"'
    let pieces ← many basicPiece
    pure (quotes ++ pieces.flatten)))
  let last ← lastQuotes '"'
  commit (fence '"')
  pure (String.ofList (first.flatten ++ others.flatten ++ last))

/-- A piece of a string of several lines in single quotes. -/
def literalPiece : Rule Char :=
  orElse (char fun c => isPrintable c && c != '\'') (do lineEnd; pure '\n')

/-- A string of several lines in single quotes. -/
def longLiteralString : Rule String := do
  fence '\''
  let _ ← optional lineEnd
  let first ← many literalPiece
  let others ← many (do
    let quotes ← innerQuotes '\''
    let cs ← many1 literalPiece
    pure (quotes ++ cs))
  let last ← lastQuotes '\''
  commit (fence '\'')
  pure (String.ofList (first ++ others.flatten ++ last))

/-- A string. -/
def string : Rule String :=
  orElse longBasicString (orElse basicString (orElse longLiteralString literalString))

/-! ### Numbers -/

/-- Digits between which single underscores may stand, without the underscores. -/
def moreDigits (p : Char → Bool) : Rule (List Char) :=
  many (orElse (char p) (do let _ ← char (· = '_'); commit (char p)))

/-- The same, beginning with a digit. -/
def digits (p : Char → Bool) : Rule (List Char) := do
  let d ← char p
  let ds ← moreDigits p
  pure (d :: ds)

/-- Whether there is a minus sign; a plus sign may stand in its place. -/
def sign : Rule Bool := do
  let c ← optional (char fun c => c = '+' || c = '-')
  pure (c == some '-')

/-- A sign and decimal digits, which begin with a zero only if it is the only one. -/
def wholeDigits : Rule (Bool × List Char) := do
  let neg ← sign
  let ds ← orElse
    (do
      let d ← char fun c => c.isDigit && c != '0'
      let ds ← moreDigits Char.isDigit
      pure (d :: ds))
    (do let d ← char Char.isDigit; pure [d])
  pure (neg, ds)

/-- A number that fits into 64 bits with its sign. -/
def inRange? (n : Int) : Option Int :=
  if -(twoTo 63 : Int) ≤ n && n < twoTo 63 then some n else none

/-- The digits of a base. -/
def inBase (base : Nat) (mark : Char) : Rule Int :=
  commit (refine (do literal ['0', mark]; commit (digits (Digits.isDigit base))) fun ds =>
    (Digits.inBase? base ds).bind fun n => inRange? n)

/-- A whole number. -/
def wholeNumber : Rule Int := do
  let i ← here
  match i.rest with
  | '0' :: 'x' :: _ => inBase 16 'x'
  | '0' :: 'o' :: _ => inBase 8 'o'
  | '0' :: 'b' :: _ => inBase 2 'b'
  | _ => fun i =>
    match wholeDigits i with
    | .read (neg, ds) j =>
      match inRange? (Digits.signed neg ds) with
      | some n => .read n j
      | none => .broken i.pos
    | .missed stop => .missed stop
    | .broken stop => .broken stop

/-- An exponent with its mark. -/
def exponent : Rule Int := do
  let _ ← char fun c => c = 'e' || c = 'E'
  let neg ← sign
  let ds ← commit (digits Char.isDigit)
  pure (Digits.signed neg ds)

/-- What makes a number a fraction: digits after a point, an exponent, or both. -/
def fractionPart : Rule (List Char × Int) :=
  orElse (do let e ← exponent; pure ([], e))
    (do
      let _ ← char (· = '.')
      let ds ← commit (digits Char.isDigit)
      let e ← optional exponent
      pure (ds, e.getD 0))

/-- A double with a fraction or an exponent; too great a number is none. -/
def fraction : Rule Double := fun i =>
  let spelled : Rule Double := do
    let (neg, whole) ← wholeDigits
    let (ds, e) ← fractionPart
    pure (Double.ofDecimal neg (Digits.decimal (whole ++ ds)) (e - ds.length))
  match spelled i with
  | .read d j => if d == Double.infinity false then .broken i.pos else .read d j
  | done => done

/-- A double that is no finite number. -/
def namedDouble : Rule Double := do
  let neg ← sign
  orElse (do literal ['i', 'n', 'f']; pure (Double.infinity neg))
    (do literal ['n', 'a', 'n']; pure .nan)

/-! ### Dates and times -/

/-- A number of exactly `n` digits between two bounds. -/
def fixed (n low high : Nat) : Rule Nat :=
  refine (upTo n Char.isDigit) fun ds =>
    let value := Digits.decimal ds
    if ds.length = n && low ≤ value && value ≤ high then some value else none

/-- The days of a month. -/
def daysIn (year month : Nat) : Nat :=
  if month = 2 then if (year % 4 = 0 && year % 100 ≠ 0) || year % 400 = 0 then 29 else 28
  else if month = 4 || month = 6 || month = 9 || month = 11 then 30
  else 31

/-- A day of the calendar. -/
def date : Rule Unit := do
  let year ← fixed 4 0 9999
  literal ['-']
  let month ← commit (fixed 2 1 12)
  commit (literal ['-'])
  let _ ← commit (refine (fixed 2 1 31) fun day =>
    if day ≤ daysIn year month then some day else none)

/-- A time of the day. -/
def time : Rule Unit := do
  let _ ← fixed 2 0 23
  literal [':']
  commit do
    let _ ← fixed 2 0 59
    literal [':']
    let _ ← fixed 2 0 60
    let _ ← optional (do let _ ← char (· = '.'); many1 (char Char.isDigit))

/-- A distance from universal time. -/
def offset : Rule Unit :=
  orElse (do let _ ← char fun c => c = 'Z' || c = 'z')
    (do
      let _ ← char fun c => c = '+' || c = '-'
      commit do
        let _ ← fixed 2 0 23
        literal [':']
        let _ ← fixed 2 0 59)

/-- A date, a time or both. -/
def dateTime : Rule (List Char) :=
  textOf (orElse
    (do
      date
      let _ ← optional (do
        let _ ← char fun c => c = 'T' || c = 't' || c = ' '
        time
        optional offset))
    time)

/-- The only key of the map that stands for a date. -/
def dateKey : String := "$__toml_private_datetime"

/-! ### Values without quotes and brackets -/

/-- One of the two truth values. -/
def truth (text : List Char) (value : Bool) : Rule Json := do
  commit (literal text)
  pure (.bool value)

/-- A value that is written without quotes and brackets. -/
def word : Rule Json := do
  let whole : Rule Json := do let n ← wholeNumber; pure (.int n)
  let double (r : Rule Double) : Rule Json := do let d ← r; pure (.double d)
  match ← peek? with
  | some 't' => truth ['t', 'r', 'u', 'e'] true
  | some 'f' => truth ['f', 'a', 'l', 's', 'e'] false
  | some 'i' | some 'n' => double namedDouble
  | some '_' => whole
  | some '.' => double (orElse fraction namedDouble)
  | some c =>
    if c.isDigit || c = '+' || c = '-' then
      orElse (do let cs ← dateTime; pure (.obj [(dateKey, .str (String.ofList cs))]))
        (orElse (double (orElse fraction namedDouble)) whole)
    else miss
  | none => miss

end Toml

end ScriptHost
