/-!
Letter case, for the ASCII letters alone. Protocol tokens compare this way: every character
outside `a` to `z` and `A` to `Z` stands for itself only.
-/

namespace SipContainer.Text

def lower (text : String) : String :=
  String.ofList (text.toList.map Char.toLower)

def upper (text : String) : String :=
  String.ofList (text.toList.map Char.toUpper)

def sameFolded (left right : String) : Bool :=
  lower left == lower right

end SipContainer.Text
