/-!
# Blank characters

The characters with the Unicode `White_Space` property, and trimming by them.  Core's
`Char.isWhitespace` knows only four ASCII blanks; settings and command-line values are trimmed by
the full set, which also holds the vertical tab, the form feed, the next-line control and the
Unicode spaces.

**Main statement.**  `isBlank_of_isWhitespace` says that every blank core knows is in the set.
-/

namespace WaveScope.Text

/-- The character has the Unicode `White_Space` property. -/
def isBlank (c : Char) : Bool :=
  let n := c.toNat
  (0x09 ≤ n && n ≤ 0x0D) || n == 0x20 || n == 0x85 || n == 0xA0 || n == 0x1680 ||
    (0x2000 ≤ n && n ≤ 0x200A) || n == 0x2028 || n == 0x2029 || n == 0x202F || n == 0x205F ||
    n == 0x3000

/-- The text without its leading and trailing blanks. -/
def trimBlank (s : String) : String :=
  String.ofList ((s.toList.dropWhile isBlank).reverse.dropWhile isBlank).reverse

theorem isBlank_of_isWhitespace (c : Char) (h : c.isWhitespace = true) : isBlank c = true := by
  simp only [Char.isWhitespace, Bool.or_eq_true, decide_eq_true_eq] at h
  rcases h with ((h | h) | h) | h <;> subst h <;> decide

end WaveScope.Text
