/-!
# Quoted identifiers

A name is split at its points. A segment is put between quote characters, and a quote character
inside it is written twice. Two kinds of segments stay as they are: a star alone, and a segment of
at least two bytes that already starts and ends with the quote character.
-/

namespace SqlMapper

namespace Identifier

/-- The characters of a segment with every quote character written twice. -/
def double (quote : Char) (segment : List Char) : List Char :=
  segment.flatMap fun c => if c = quote then [quote, quote] else [c]

/-- A segment between quote characters. -/
def enclose (quote : Char) (segment : List Char) : List Char :=
  quote :: (double quote segment ++ [quote])

/-- The parts of a list between the places where a character stands; one more than its
occurrences. -/
def splitAt (c : Char) : List Char → List (List Char)
  | [] => [[]]
  | d :: rest =>
    if d = c then [] :: splitAt c rest
    else
      match splitAt c rest with
      | first :: others => (d :: first) :: others
      | [] => [[d]]

/-- The number of bytes of a list of characters in UTF-8. -/
def byteLength (cs : List Char) : Nat :=
  cs.foldr (fun c bytes => c.utf8Size + bytes) 0

/-- Whether a segment already starts and ends with the quote character. -/
def isEnclosed (quote : Char) (segment : List Char) : Bool :=
  2 ≤ byteLength segment && segment.head? == some quote && segment.getLast? == some quote

/-- A segment as it stands in a statement. -/
def wrapSegment (quote : Char) (segment : List Char) : List Char :=
  if segment = ['*'] ∨ isEnclosed quote segment then segment else enclose quote segment

/-- A name as it stands in a statement. -/
def wrap (quote : Char) (name : List Char) : List Char :=
  if name = ['*'] then name
  else ['.'].intercalate ((splitAt '.' name).map (wrapSegment quote))

/-- A list has at least one part. -/
theorem splitAt_ne_nil (c : Char) (cs : List Char) : splitAt c cs ≠ [] := by
  cases cs with
  | nil => simp [splitAt]
  | cons d rest =>
    unfold splitAt
    split
    · simp
    · split <;> simp

/-- Joining the parts with the character they were split at gives the list back. -/
theorem intercalate_splitAt (c : Char) (cs : List Char) : [c].intercalate (splitAt c cs) = cs := by
  induction cs with
  | nil => rfl
  | cons d rest ih =>
    obtain ⟨first, others, hs⟩ := List.exists_cons_of_ne_nil (splitAt_ne_nil c rest)
    rw [hs] at ih
    by_cases h : d = c
    · subst h
      simp [splitAt, hs, ih]
    · cases others <;> simp_all [splitAt]

/-- No part holds the character the list was split at. -/
theorem not_mem_of_mem_splitAt {c : Char} {cs part : List Char} (h : part ∈ splitAt c cs) :
    c ∉ part := by
  induction cs generalizing part with
  | nil => simp_all [splitAt]
  | cons d rest ih =>
    obtain ⟨first, others, hs⟩ := List.exists_cons_of_ne_nil (splitAt_ne_nil c rest)
    by_cases hd : d = c
    · simp only [splitAt, if_pos hd, List.mem_cons] at h
      rcases h with rfl | h
      · simp
      · exact ih h
    · simp only [splitAt, if_neg hd, hs, List.mem_cons] at h
      rcases h with rfl | h
      · simpa [Ne.symm hd] using ih (hs ▸ List.mem_cons_self)
      · exact ih (hs ▸ List.mem_cons_of_mem _ h)

end Identifier

end SqlMapper
