/-!
# Keywords typed by a caller

Operators and sort directions arrive as text. Such a word is read with the blanks around it
removed and with its letters `A` to `Z` taken in either case. A blank is a character of the
Unicode property White_Space; case folding is of ASCII letters only, so a letter like the long s
is never taken for an `s`.
-/

namespace SqlMapper

namespace Text

/-- Holds of the characters with the Unicode property White_Space. -/
def isBlank (c : Char) : Bool :=
  let n := c.toNat
  (0x09 ≤ n && n ≤ 0x0D) || n == 0x20 || n == 0x85 || n == 0xA0 || n == 0x1680 ||
    (0x2000 ≤ n && n ≤ 0x200A) || n == 0x2028 || n == 0x2029 || n == 0x202F || n == 0x205F ||
    n == 0x3000

/-- The characters left when the blanks at both ends are taken off. -/
def trimChars (cs : List Char) : List Char :=
  ((cs.dropWhile isBlank).reverse.dropWhile isBlank).reverse

/-- A text without the blanks at its two ends. -/
def trim (s : String) : String :=
  String.ofList (trimChars s.toList)

/-- Two words are the same keyword when they differ at most in the case of ASCII letters. -/
def sameWord (a b : String) : Bool :=
  a.toList.map Char.toLower == b.toList.map Char.toLower

/-- Blanks around a keyword do not count. -/
example : trim " \t asc " = "asc" := by decide

/-- Case of ASCII letters does not count, and no other folding takes place. -/
example : sameWord "asc" "ASC" = true ∧ sameWord "asc" "aſc" = false := by decide

end Text

end SqlMapper
