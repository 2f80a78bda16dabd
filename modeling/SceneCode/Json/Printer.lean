import SceneCode.Json
import SceneCode.Number.Format
import SceneCode.Text.Numeral

/-!
# Printing JSON

A document is printed with one item or member per line, two blanks further in than its container.
Containers without content are printed on one line.  In strings the double quote, the backslash
and the control characters below the blank are escaped; every other character stands for itself.
-/

set_option autoImplicit false

namespace SceneCode.Json

def escaped (c : Char) : List Char :=
  if c = '"' then ['\\', '"']
  else if c = '\\' then ['\\', '\\']
  else if c = '\n' then ['\\', 'n']
  else if c = '\r' then ['\\', 'r']
  else if c = '\t' then ['\\', 't']
  else if c.toNat = 0x0C then ['\\', 'f']
  else if c.toNat = 0x08 then ['\\', 'b']
  else if c.toNat < 0x20 then ['\\', 'u'] ++ (Text.lowerHex 4 c.toNat).toList
  else [c]

def stringText (s : String) : String :=
  String.ofList ('"' :: s.toList.flatMap escaped ++ ['"'])

def newLine (level : Nat) : String :=
  "\n" ++ String.ofList (List.replicate (2 * level) ' ')

/-- A container: its parts, each on a line of its own, between brackets. -/
def enclosed (level : Nat) (opening closing : String) (parts : List String) : String :=
  if parts.isEmpty then opening ++ closing
  else
    opening ++ newLine (level + 1)
      ++ String.intercalate ("," ++ newLine (level + 1)) parts
      ++ newLine level ++ closing

mutual

def textAt (level : Nat) : Json → String
  | null => "null"
  | bool value => if value then "true" else "false"
  | int value => Text.decimal value
  | float value => Number.jsonFormat.write value
  | str value => stringText value
  | arr items => enclosed level "[" "]" (itemTexts (level + 1) items)
  | obj members => enclosed level "\x7b" "\x7d" (memberTexts (level + 1) members)

def itemTexts (level : Nat) : List Json → List String
  | [] => []
  | item :: rest => textAt level item :: itemTexts level rest

def memberTexts (level : Nat) : List (String × Json) → List String
  | [] => []
  | (key, value) :: rest =>
    (stringText key ++ ": " ++ textAt level value) :: memberTexts level rest

end

/-- The text of a document, without a line end behind it. -/
def text (document : Json) : String := textAt 0 document

end SceneCode.Json
