/-!
# Blank characters, trimming and words

The kernel's text files separate their fields by blanks.  A blank is a
character with the Unicode property `White_Space`; the property is closed, so
its ranges are written out here.  Trimming removes blanks at either end, and
the words of a text are its maximal runs of other characters.
-/

namespace CgroupMeter.Text

/-- The characters with the Unicode property `White_Space`. -/
def isBlank (char : Char) : Bool :=
  let code := char.toNat
  (0x09 ≤ code && code ≤ 0x0D) || code == 0x20 || code == 0x85 ||
    code == 0xA0 || code == 0x1680 || (0x2000 ≤ code && code ≤ 0x200A) ||
    code == 0x2028 || code == 0x2029 || code == 0x202F || code == 0x205F ||
    code == 0x3000

/-- The characters without the blanks they start with. -/
def trimStartChars (chars : List Char) : List Char :=
  chars.dropWhile isBlank

/-- The characters without the blanks they end with. -/
def trimEndChars (chars : List Char) : List Char :=
  (chars.reverse.dropWhile isBlank).reverse

/-- A text without the blanks at its end. -/
def trimEnd (text : String) : String :=
  String.ofList (trimEndChars text.toList)

/-- A text without the blanks at both ends. -/
def trim (text : String) : String :=
  String.ofList (trimEndChars (trimStartChars text.toList))

/-- A text that holds nothing but blanks. -/
def isBlankText (text : String) : Bool :=
  text.toList.all isBlank

/-- The maximal runs of characters that are no blanks. -/
def wordsOfChars (chars : List Char) : List (List Char) :=
  (chars.splitOnP isBlank).filter fun run => !run.isEmpty

/-- The words of a text, in order. -/
def words (text : String) : List String :=
  (wordsOfChars text.toList).map String.ofList

end CgroupMeter.Text
