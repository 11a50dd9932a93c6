/-!
Blanks: the characters with the Unicode property `White_Space`, and the trimming of a text by
them. Zero-width characters, the byte order mark and the information separators are no blanks.
-/

namespace SipContainer.Text

def isBlank (char : Char) : Bool :=
  let value := char.val.toNat
  (0x09 ≤ value && value ≤ 0x0D) || value == 0x20 || value == 0x85 || value == 0xA0 ||
    value == 0x1680 || (0x2000 ≤ value && value ≤ 0x200A) || value == 0x2028 ||
    value == 0x2029 || value == 0x202F || value == 0x205F || value == 0x3000

def dropEndWhile (drops : α → Bool) (items : List α) : List α :=
  (items.reverse.dropWhile drops).reverse

def trim (text : String) : String :=
  String.ofList (dropEndWhile isBlank (text.toList.dropWhile isBlank))

end SipContainer.Text
