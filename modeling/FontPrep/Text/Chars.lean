namespace FontPrep

structure CodeRange where
  first : Nat
  last : Nat

namespace CodeRange

def covers (range : CodeRange) (c : Char) : Bool :=
  range.first ≤ c.toNat && c.toNat ≤ range.last

def anyCovers (table : List CodeRange) (c : Char) : Bool := table.any (·.covers c)

end CodeRange

namespace Text

/-- The ranges of the property `White_Space`: 25 characters. -/
def blankRanges : List CodeRange :=
  [⟨0x9, 0xD⟩, ⟨0x20, 0x20⟩, ⟨0x85, 0x85⟩, ⟨0xA0, 0xA0⟩, ⟨0x1680, 0x1680⟩, ⟨0x2000, 0x200A⟩,
   ⟨0x2028, 0x2029⟩, ⟨0x202F, 0x202F⟩, ⟨0x205F, 0x205F⟩, ⟨0x3000, 0x3000⟩]

def isBlank (c : Char) : Bool := CodeRange.anyCovers blankRanges c

def trimEnd (text : List Char) : List Char := (text.reverse.dropWhile isBlank).reverse

/-- The text without the blanks it starts and ends with. -/
def trim (text : List Char) : List Char := trimEnd (text.dropWhile isBlank)

@[simp] theorem trim_nil : trim [] = [] := rfl

def hexDigits (n : Nat) : List Char := (Nat.toDigits 16 n).map Char.toUpper

/-- At least `width` digits; a longer number keeps all of its digits. -/
def paddedHex (width n : Nat) : List Char :=
  List.replicate (width - (hexDigits n).length) '0' ++ hexDigits n

def hexValue? (c : Char) : Option Nat :=
  if c.isDigit then some (c.toNat - 48)
  else if 'a' ≤ c ∧ c ≤ 'f' then some (c.toNat - 87)
  else if 'A' ≤ c ∧ c ≤ 'F' then some (c.toNat - 55)
  else none

example : paddedHex 4 0x41 = ['0', '0', '4', '1'] := by decide
example : paddedHex 4 0x1F600 = ['1', 'F', '6', '0', '0'] := by decide

end Text
end FontPrep
