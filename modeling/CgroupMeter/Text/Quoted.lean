import CgroupMeter.Text.Shown

/-!
# Quoted texts

A quoted text stands between quotation marks and shows every character.  The
quotation mark, the backslash and four controls are written as two characters,
and other characters without a shape of their own by their code point.
-/

namespace CgroupMeter.Text

/-- A character by its code point, in the fewest hexadecimal digits. -/
def codePointEscape (char : Char) : List Char :=
  ['\\', 'u', '\x7b'] ++ Nat.toDigits 16 char.toNat ++ ['\x7d']

/-- A character between quotation marks. -/
def quotedChar (char : Char) : List Char :=
  if char = '\x00' then ['\\', '0']
  else if char = '\t' then ['\\', 't']
  else if char = '\r' then ['\\', 'r']
  else if char = '\n' then ['\\', 'n']
  else if char = '\\' then ['\\', '\\']
  else if char = '"' then ['\\', '"']
  else if isShown char then [char]
  else codePointEscape char

/-- A text between quotation marks. -/
def quoted (text : String) : String :=
  String.ofList ('"' :: text.toList.flatMap quotedChar ++ ['"'])

end CgroupMeter.Text
