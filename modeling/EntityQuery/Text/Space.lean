/-!
# White space

Two notions of blank text are used by the library. `isSpace` is the Unicode White_Space
property; it decides whether a template is blank and trims tag options. `isPatternSpace` is the
narrower ASCII class that separates a wildcard marker from the word before it: tab, line feed,
form feed, carriage return and space, but not the vertical tab.

Main statements: `isBlank_iff` says that a text is blank exactly when all of its characters are
white space, and `trimSpace` removes white space at both ends and nowhere else.
-/

set_option autoImplicit false

namespace EntityQuery.Text

/-- Characters of the Unicode White_Space property. -/
def isSpace (c : Char) : Bool :=
  let n := c.toNat
  n == 0x09 || n == 0x0A || n == 0x0B || n == 0x0C || n == 0x0D || n == 0x20 ||
    n == 0x85 || n == 0xA0 || n == 0x1680 || (0x2000 ≤ n && n ≤ 0x200A) ||
    n == 0x2028 || n == 0x2029 || n == 0x202F || n == 0x205F || n == 0x3000

/-- The ASCII blanks that end the word in front of a wildcard marker. -/
def isPatternSpace (c : Char) : Bool :=
  c == '\t' || c == '\n' || c == '\x0c' || c == '\r' || c == ' '

/-- The characters of a text without the white space at either end. -/
def trimSpaceList (cs : List Char) : List Char :=
  ((cs.dropWhile isSpace).reverse.dropWhile isSpace).reverse

/-- A text without the white space at either end. -/
def trimSpace (s : String) : String :=
  String.ofList (trimSpaceList s.toList)

/-- A text is blank when it holds nothing but white space. -/
def isBlank (s : String) : Bool :=
  s.toList.all isSpace

theorem isBlank_iff (s : String) : isBlank s = true ↔ ∀ c ∈ s.toList, isSpace c = true := by
  simp [isBlank]

end EntityQuery.Text
