import SceneCode.Text.Blank
import SceneCode.Charset.ShiftJis
import SceneCode.Charset.Gbk

/-!
# Text encodings

The strings of a scenario are in one of three encodings.  An encoding is chosen by name; blanks
around a name, its case, and the difference between a hyphen and an underscore do not matter.
-/

set_option autoImplicit false

namespace SceneCode

inductive Encoding where
  | shiftJis
  | gbk
  | utf8
  deriving DecidableEq, Repr

structure UnknownEncoding where
  name : String
  deriving DecidableEq, Repr

def UnknownEncoding.message (fault : UnknownEncoding) : String :=
  "unknown text encoding: " ++ fault.name

namespace Encoding

def name : Encoding → String
  | shiftJis => "shift_jis"
  | gbk => "gbk"
  | utf8 => "utf8"

/-- The name of the character set behind an encoding. -/
def codec : Encoding → String
  | shiftJis => "cp932"
  | gbk => "gbk"
  | utf8 => "utf-8"

/-- Lower case, as far as a name of an encoding can depend on it: of the characters beyond ASCII
only the Kelvin sign has an ASCII letter as its lower case. -/
def foldCase (c : Char) : Char :=
  if c = '\u212A' then 'k' else c.toLower

def canonicalName (text : String) : String :=
  String.ofList ((Text.trim Text.isBlank text.toList).map fun c =>
    if c = '-' then '_' else foldCase c)

def ofName? (text : String) : Option Encoding :=
  match canonicalName text with
  | "shift_jis" | "sjis" | "cp932" => some shiftJis
  | "gbk" => some gbk
  | "utf8" | "utf_8" => some utf8
  | _ => none

def parse (text : String) : Except UnknownEncoding Encoding :=
  match ofName? text with
  | some encoding => .ok encoding
  | none => .error ⟨text⟩

/-- Decodes any bytes; what has no meaning is replaced. -/
def decode (encoding : Encoding) (bytes : List UInt8) : String :=
  String.ofList <| match encoding with
    | shiftJis => Charset.shiftJis.decode bytes
    | gbk => Charset.gbk.decode bytes
    | utf8 => Charset.Utf8.decode bytes

/-- Decodes a text field, which ends before its first zero byte. -/
def decodeField (encoding : Encoding) (bytes : List UInt8) : String :=
  encoding.decode (bytes.takeWhile (· ≠ 0))

end Encoding

end SceneCode
