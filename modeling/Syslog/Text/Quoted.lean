import Syslog.Text.Printable

/-!
# Quoted text

Names and values are shown in quotes, with an escape for every character that would not be seen or
would end the quotes: the control characters with short escapes, any other hidden character by its
code point in braces.
-/

namespace Syslog.Text.Quoted

/-- The code point in hexadecimal, without leading zeros. -/
def codePoint (c : Char) : List Char := Nat.toDigits 16 c.toNat

/-- One character inside the given quotes. -/
def escapeChar (mark : Char) (c : Char) : List Char :=
  if c == '\x00' then ['\\', '0']
  else if c == '\t' then ['\\', 't']
  else if c == '\r' then ['\\', 'r']
  else if c == '\n' then ['\\', 'n']
  else if c == '\\' || c == mark then ['\\', c]
  else if isPrintable c then [c]
  else ['\\', 'u', '\x7b'] ++ codePoint c ++ ['\x7d']

/-- A text in double quotes. -/
def text (s : String) : String :=
  String.ofList (['"'] ++ s.toList.flatMap (escapeChar '"') ++ ['"'])

/-- A character in single quotes. -/
def char (c : Char) : String := String.ofList (['\''] ++ escapeChar '\'' c ++ ['\''])

/-- Texts in double quotes, as a list in brackets. -/
def list (items : List String) : String :=
  "[" ++ String.intercalate ", " (items.map text) ++ "]"

end Syslog.Text.Quoted
