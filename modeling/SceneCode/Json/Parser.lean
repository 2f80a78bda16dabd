import SceneCode.Json
import SceneCode.Number.Rounding
import SceneCode.OrderedMap
import SceneCode.Text.Integer

/-!
# Reading JSON

The grammar is that of the standard, with three more names of numbers: `NaN`, `Infinity` and
`-Infinity`.  Neither comments nor commas behind the last item are allowed, and a control
character inside a string has to be escaped.  Of members with the same key the last value counts,
at the place of the first.  Containers inside each other are read up to `depthLimit` of them.

Text is read from left to right and the first fault is reported.  An escape that denotes half of
a surrogate pair without its other half reads as the replacement character.
-/

set_option autoImplicit false

namespace SceneCode.Json

inductive Fault where
  | malformed
  | longInteger (digits : Nat)
  | tooDeep
  deriving DecidableEq, Repr

/-- The most containers inside each other. -/
def depthLimit : Nat := 990

def isSpace (c : Char) : Bool := c = ' ' || c = '\t' || c = '\n' || c = '\r'

def skipSpace (cs : List Char) : List Char := cs.dropWhile isSpace

def isAsciiDigit (c : Char) : Bool := '0' ≤ c && c ≤ '9'

def codeUnit? (a b c d : Char) : Option Nat :=
  if [a, b, c, d].all (Text.isDigitOf 16) then some (Text.positional 16 [a, b, c, d]) else none

def isHighSurrogate (n : Nat) : Bool := 0xD800 ≤ n && n < 0xDC00

def isLowSurrogate (n : Nat) : Bool := 0xDC00 ≤ n && n < 0xE000

/-- The character of a code unit; a lone half of a surrogate pair is replaced. -/
def unitChar (n : Nat) : Char :=
  if isHighSurrogate n || isLowSurrogate n then '\uFFFD' else Char.ofNat n

def surrogatePair (high low : Nat) : Char :=
  Char.ofNat (0x10000 + (high - 0xD800) * 0x400 + (low - 0xDC00))

def shortEscape? : Char → Option Char
  | '"' => some '"'
  | '\\' => some '\\'
  | '/' => some '/'
  | 'b' => some '\x08'
  | 'f' => some '\x0C'
  | 'n' => some '\n'
  | 'r' => some '\r'
  | 't' => some '\t'
  | _ => none

/-- The character an escape stands for, from behind its backslash on. -/
def readEscape : List Char → Except Fault (Char × List Char)
  | 'u' :: a :: b :: c :: d :: rest =>
    match codeUnit? a b c d with
    | none => .error .malformed
    | some high =>
      match isHighSurrogate high, rest with
      | true, '\\' :: 'u' :: e :: f :: g :: h :: behind =>
        match codeUnit? e f g h with
        | none => .error .malformed
        | some low =>
          if isLowSurrogate low then .ok (surrogatePair high low, behind)
          else .ok (unitChar high, rest)
      | _, _ => .ok (unitChar high, rest)
  | c :: rest =>
    match shortEscape? c with
    | some e => .ok (e, rest)
    | none => .error .malformed
  | [] => .error .malformed

def readChars : Nat → List Char → List Char → Except Fault (List Char × List Char)
  | 0, _, _ => .error .malformed
  | _, _, [] => .error .malformed
  | _, done, '"' :: rest => .ok (done.reverse, rest)
  | fuel + 1, done, '\\' :: rest => do
    let (c, behind) ← readEscape rest
    readChars fuel (c :: done) behind
  | fuel + 1, done, c :: rest =>
    if c.toNat < 0x20 then .error .malformed else readChars fuel (c :: done) rest

def readString (cs : List Char) : Except Fault (String × List Char) := do
  let (text, rest) ← readChars (cs.length + 1) [] cs
  pure (String.ofList text, rest)

def readFraction : List Char → List Char × List Char
  | '.' :: rest =>
    let digits := rest.takeWhile isAsciiDigit
    if digits.isEmpty then ([], '.' :: rest) else (digits, rest.dropWhile isAsciiDigit)
  | cs => ([], cs)

def readPower (negative : Bool) (whole cs : List Char) : Option Int × List Char :=
  let digits := cs.takeWhile isAsciiDigit
  if digits.isEmpty then (none, whole)
  else
    let power : Int := Text.positional 10 digits
    (some (if negative then -power else power), cs.dropWhile isAsciiDigit)

def readExponent (cs : List Char) : Option Int × List Char :=
  match cs with
  | 'e' :: rest | 'E' :: rest =>
    match rest with
    | '-' :: digits => readPower true cs digits
    | '+' :: digits => readPower false cs digits
    | _ => readPower false cs rest
  | _ => (none, cs)

/-- The digits before the point; a zero in front stands alone. -/
def leadingDigits : List Char → List Char
  | '0' :: _ => ['0']
  | cs => cs.takeWhile isAsciiDigit

def readNumber (negative : Bool) (cs : List Char) : Except Fault (Json × List Char) :=
  let digits := leadingDigits cs
  let (fraction, afterFraction) := readFraction (cs.drop digits.length)
  let (power, rest) := readExponent afterFraction
  if digits.isEmpty then .error .malformed
  else if fraction.isEmpty && power.isNone then
    if Text.digitLimit < digits.length then .error (.longInteger digits.length)
    else
      let value : Int := Text.positional 10 digits
      .ok (.int (if negative then -value else value), rest)
  else
    .ok (.float (Number.Binary64.ofDecimal negative (Text.positional 10 (digits ++ fraction))
      (power.getD 0 - fraction.length)), rest)

def readName? (cs : List Char) : Option (Json × List Char) :=
  let names : List (String × Json) :=
    [("null", .null), ("true", .bool true), ("false", .bool false),
     ("NaN", .float Number.Binary64.quietNaN),
     ("Infinity", .float (Number.Binary64.infinity false)),
     ("-Infinity", .float (Number.Binary64.infinity true))]
  names.findSome? fun (name, value) =>
    if name.toList.isPrefixOf cs then some (value, cs.drop name.length) else none

mutual

/-- A value without blanks before it, with at most `depth` containers inside each other.  Every
call consumes a character, so the length of the text is fuel enough. -/
def readValue (depth : Nat) : Nat → List Char → Except Fault (Json × List Char)
  | 0, _ => .error .malformed
  | fuel + 1, cs =>
    match readName? cs with
    | some found => .ok found
    | none =>
      match cs with
      | '"' :: rest => do
        let (text, behind) ← readString rest
        pure (.str text, behind)
      | '[' :: rest =>
        match depth, skipSpace rest with
        | 0, _ => .error .tooDeep
        | _, ']' :: behind => .ok (.arr [], behind)
        | deeper + 1, inside => readItems deeper fuel [] inside
      | '\x7b' :: rest =>
        match depth, skipSpace rest with
        | 0, _ => .error .tooDeep
        | _, '\x7d' :: behind => .ok (.obj [], behind)
        | deeper + 1, inside => readMembers deeper fuel OrderedMap.empty inside
      | '-' :: rest => readNumber true rest
      | _ => readNumber false cs

def readItems (depth : Nat) : Nat → List Json → List Char → Except Fault (Json × List Char)
  | 0, _, _ => .error .malformed
  | fuel + 1, done, cs => do
    let (item, rest) ← readValue depth fuel cs
    match skipSpace rest with
    | ']' :: behind => .ok (.arr (item :: done).reverse, behind)
    | ',' :: behind => readItems depth fuel (item :: done) (skipSpace behind)
    | _ => .error .malformed

def readMembers (depth : Nat) :
    Nat → OrderedMap String Json → List Char → Except Fault (Json × List Char)
  | fuel + 1, done, '"' :: cs => do
    let (key, rest) ← readString cs
    match skipSpace rest with
    | ':' :: afterColon =>
      let (value, afterValue) ← readValue depth fuel (skipSpace afterColon)
      let members := done.insert key value
      match skipSpace afterValue with
      | '\x7d' :: behind => .ok (.obj members.entries, behind)
      | ',' :: behind => readMembers depth fuel members (skipSpace behind)
      | _ => .error .malformed
    | _ => .error .malformed
  | _, _, _ => .error .malformed

end

/-- Reads a document with at most `depth` containers inside each other. -/
def parseWithin (depth : Nat) (text : String) : Except Fault Json := do
  let cs := text.toList
  let (document, rest) ← readValue depth (cs.length + 1) (skipSpace cs)
  if (skipSpace rest).isEmpty then pure document else throw .malformed

def parse (text : String) : Except Fault Json := parseWithin depthLimit text

end SceneCode.Json
