import PackageRisk.Text.Ranges

/-!
# Blank characters and trimming

The blank characters are those with the Unicode property White_Space. Names that are read from
reports, configuration files and arguments are compared after the blanks around them are dropped.
-/

namespace PackageRisk.Text

/-- The code points with the property White_Space. -/
def blankRanges : Ranges :=
  [(0x9, 0xd), (0x20, 0x20), (0x85, 0x85), (0xa0, 0xa0), (0x1680, 0x1680), (0x2000, 0x200a),
    (0x2028, 0x2029), (0x202f, 0x202f), (0x205f, 0x205f), (0x3000, 0x3000)]

/-- A character with the property White_Space. -/
def isBlank (c : Char) : Bool := blankRanges.covers c.toNat

/-- The text without the blanks at its two ends. -/
def trim (text : List Char) : List Char :=
  ((text.dropWhile isBlank).reverse.dropWhile isBlank).reverse

/-- Every character that core counts as white space is blank. -/
theorem isBlank_of_isWhitespace {c : Char} (h : c.isWhitespace = true) : isBlank c = true := by
  have hc : c = ' ' ∨ c = '\t' ∨ c = '\r' ∨ c = '\n' := by
    simpa [Char.isWhitespace, or_assoc] using h
  rcases hc with rfl | rfl | rfl | rfl <;> decide

end PackageRisk.Text
