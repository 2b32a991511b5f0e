import HttpBinding.Text.Run

/-!
Blank characters: the White_Space property of the Unicode character database.
-/
namespace HttpBinding.Text

def blankRanges : List (Nat × Nat) :=
  [(0x09, 0x0D), (0x20, 0x20), (0x85, 0x85), (0xA0, 0xA0), (0x1680, 0x1680),
   (0x2000, 0x200A), (0x2028, 0x2029), (0x202F, 0x202F), (0x205F, 0x205F), (0x3000, 0x3000)]

def isBlank (c : Char) : Bool := inRanges blankRanges c.toNat

def trimLeft (text : List Char) : List Char := text.dropWhile isBlank

def trimRight (text : List Char) : List Char := (text.reverse.dropWhile isBlank).reverse

end HttpBinding.Text
