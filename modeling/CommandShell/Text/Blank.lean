/-!
# Blanks and White Space

Two different classes of separators matter to a command line. Words are kept
apart by *gaps*, and a gap is a space or a tab and nothing else. Whether a
piece of a line is *blank*, and whether a name is fit for an alias, is asked
of Unicode's property `White_Space`, which has twenty-five characters. The
classes differ: a no-break space is white space and yet part of a word, so a
segment that holds only one is blank although it has a word.

## Main definitions

* `isGap`: The characters that keep words apart.
* `isWhiteSpace`: The property `White_Space`.
* `isBlank`: A text of white space only.

## Theorems

* `isWhiteSpace_of_isGap`: Every gap is white space.
* `isBlank_iff`: A text is blank when all its characters are white space.
-/

namespace CommandShell

namespace Text

/-- The characters that keep words apart: the space and the tab. -/
def isGap (c : Char) : Bool :=
  c = ' ' || c = '\t'

/-- The characters with Unicode's property `White_Space`. -/
def isWhiteSpace (c : Char) : Bool :=
  let n := c.toNat
  (9 ≤ n && n ≤ 13) || n = 0x20 || n = 0x85 || n = 0xA0 || n = 0x1680
    || (0x2000 ≤ n && n ≤ 0x200A) || n = 0x2028 || n = 0x2029 || n = 0x202F
    || n = 0x205F || n = 0x3000

/-- A text is blank if trimming white space from its ends leaves nothing. -/
def isBlank (s : String) : Bool :=
  s.toList.all isWhiteSpace

theorem isGap_iff {c : Char} : isGap c = true ↔ c = ' ' ∨ c = '\t' := by
  simp [isGap]

theorem isWhiteSpace_of_isGap {c : Char} (h : isGap c = true) : isWhiteSpace c = true := by
  rcases isGap_iff.1 h with rfl | rfl <;> decide

theorem isBlank_iff {s : String} :
    isBlank s = true ↔ ∀ c ∈ s.toList, isWhiteSpace c = true := by
  simp [isBlank]

end Text

end CommandShell
