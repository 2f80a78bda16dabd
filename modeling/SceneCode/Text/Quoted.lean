import SceneCode.Text.Numeral
import SceneCode.Text.Printable

/-!
# Quoted text

Text that came from outside is shown in quotes, so that blanks and control characters stay
visible and the text cannot run into its surroundings.  Single quotes are used unless the text
holds a single quote and no double quote.  The quote in use and the backslash are escaped by a
backslash; tab, line feed and carriage return have short escapes, and every other character that
is not printable is written by its code point.
-/

set_option autoImplicit false

namespace SceneCode.Text

def quoteMark (cs : List Char) : Char :=
  if cs.contains '\'' && !cs.contains '"' then '"' else '\''

/-- The numeric escape of a character: two, four or eight hexadecimal digits. -/
def numericEscape (c : Char) : List Char :=
  if c.toNat < 0x100 then ['\\', 'x'] ++ (lowerHex 2 c.toNat).toList
  else if c.toNat < 0x10000 then ['\\', 'u'] ++ (lowerHex 4 c.toNat).toList
  else ['\\', 'U'] ++ (lowerHex 8 c.toNat).toList

def escaped (mark c : Char) : List Char :=
  if c = mark || c = '\\' then ['\\', c]
  else if c = '\t' then ['\\', 't']
  else if c = '\n' then ['\\', 'n']
  else if c = '\r' then ['\\', 'r']
  else if isPrintable c then [c]
  else numericEscape c

def quoted (text : String) : String :=
  let cs := text.toList
  let mark := quoteMark cs
  String.ofList (mark :: cs.flatMap (escaped mark) ++ [mark])

example : quoted "it's" = "\"it's\"" := by
  decide +kernel

example : quoted "a\t\x1b'\"" = "'a\\t\\x1b\\'\"'" := by
  decide +kernel

end SceneCode.Text
