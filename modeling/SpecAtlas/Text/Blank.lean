import SpecAtlas.Text.Ranges

/-!
# White space

The characters that separate words: the Unicode property, and with it the four information
separators U+001C to U+001F.
-/

namespace SpecAtlas.Text

/-- The code points of white space. -/
def blankRanges : List (Nat × Nat) :=
  [(0x9, 0xD), (0x1C, 0x20), (0x85, 0x85), (0xA0, 0xA0), (0x1680, 0x1680), (0x2000, 0x200A),
   (0x2028, 0x2029), (0x202F, 0x202F), (0x205F, 0x205F), (0x3000, 0x3000)]

/-- Whether a character is white space. -/
def isBlank (c : Char) : Bool := inRanges blankRanges c.toNat

theorem ascending_blankRanges : ascending blankRanges = true := by decide

/-- The table adds to the four blanks of the core library and takes none of them away. -/
theorem isBlank_of_isWhitespace {c : Char} (h : c.isWhitespace = true) : isBlank c = true := by
  simp [Char.isWhitespace] at h
  rcases h with ((h | h) | h) | h <;> subst h <;> decide

end SpecAtlas.Text
