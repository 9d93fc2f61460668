import SqlMapper.Text.Picture

/-!
# Quoted texts

A text that is shown to a person stands between double quotes. A double quote and a backslash in it
are written after a backslash, and so are the null character, the tabulator and the two line ends.
Other characters that have no picture of their own are written by their number.
-/

namespace SqlMapper

namespace Text

/-- A character as it stands in a quoted text. -/
def quotedChar (c : Char) : List Char :=
  if c = '\x00' then ['\\', '0']
  else if c = '\t' then ['\\', 't']
  else if c = '\n' then ['\\', 'n']
  else if c = '\r' then ['\\', 'r']
  else if c = '\x22' ∨ c = '\\' then ['\\', c]
  else if hasPicture c then [c]
  else ['\\', 'u', '\x7b'] ++ Nat.toDigits 16 c.toNat ++ ['\x7d']

/-- A text between double quotes. -/
def quoted (s : String) : String :=
  String.ofList ('\x22' :: (s.toList.flatMap quotedChar ++ ['\x22']))

end Text

end SqlMapper
