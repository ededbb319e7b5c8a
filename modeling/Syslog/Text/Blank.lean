import Syslog.Text.Ranges

/-!
# Blanks

The characters that count as white space in a text, and the text without those at its ends.

* `isBlank` covers every character with the Unicode property `White_Space`;
* `trim` drops blanks at both ends and keeps those inside.
-/

namespace Syslog.Text

/-- The code points of white space. -/
def blankRanges : Ranges :=
  [(9, 13), (32, 32), (133, 133), (160, 160), (5760, 5760), (8192, 8202), (8232, 8233),
   (8239, 8239), (8287, 8287), (12288, 12288)]

/-- White space, in the sense of Unicode. -/
def isBlank (c : Char) : Bool := blankRanges.has c

/-- The characters without the blanks at either end. -/
def trimChars (cs : List Char) : List Char :=
  ((cs.dropWhile isBlank).reverse.dropWhile isBlank).reverse

/-- The text without the blanks at either end. -/
def trim (s : String) : String := String.ofList (trimChars s.toList)

example : trim "\t\u00a0local 7\u3000\n" = "local 7" := by decide +kernel

end Syslog.Text
