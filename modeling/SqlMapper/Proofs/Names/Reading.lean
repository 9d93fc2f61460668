import SqlMapper.Proofs.Names.Quoting
import SqlMapper.Proofs.Unambiguous.Names

/-!
# Reading names back

A reader of SQL takes a star alone for itself. After an opening quote character, two quote
characters stand for one, and a single one closes the part. A point after a part, outside quotes,
goes on with the next one. `Identifier.readName` reads a name from the start of a text and gives its
parts with what comes after them. A plain name that is written by a dialect is read back as its
segments, and the reader stops where it ends (`Dialect.readName_wrap`), so that no two plain names
are written alike (`DialectName.reads_written_name`).
-/

namespace SqlMapper

namespace Identifier

variable {quote : Char} {text part after : List Char}

/-- The part whose opening quote character has just been read, with what comes after the quote
character that closes it; nothing if none does. -/
def readQuoted (quote : Char) : List Char → Option (List Char × List Char)
  | [] => none
  | c :: rest =>
    if c = quote then
      match rest with
      | [] => some ([], [])
      | d :: more =>
        if d = quote then (readQuoted quote more).map fun (part, after) => (quote :: part, after)
        else some ([], d :: more)
    else (readQuoted quote rest).map fun (part, after) => (c :: part, after)

/-- A quote character before anything else closes the part. -/
theorem readQuoted_quote (h : after.head? ≠ some quote) :
    readQuoted quote (quote :: after) = some ([], after) := by
  cases after with
  | nil => rw [readQuoted, if_pos rfl]
  | cons d rest =>
    have hd : d ≠ quote := by simpa using h
    rw [readQuoted, if_pos rfl]
    exact if_neg hd

/-- Two quote characters stand for one. -/
theorem readQuoted_quote_quote (quote : Char) (rest : List Char) :
    readQuoted quote (quote :: quote :: rest) =
      (readQuoted quote rest).map fun (part, after) => (quote :: part, after) := by
  rw [readQuoted, if_pos rfl]
  exact if_pos rfl

/-- Another character stands for itself. -/
theorem readQuoted_cons_of_ne {c : Char} (hc : c ≠ quote) (rest : List Char) :
    readQuoted quote (c :: rest) =
      (readQuoted quote rest).map fun (part, after) => (c :: part, after) := by
  rw [readQuoted.eq_def]
  exact if_neg hc

/-- A part is read up to the quote character that closes it, with the quote characters inside
doubled, and nothing else is read. -/
theorem readQuoted_eq_some_iff :
    readQuoted quote text = some (part, after) ↔
      text = double quote part ++ quote :: after ∧ after.head? ≠ some quote := by
  constructor
  · intro h
    induction text using readQuoted.induct quote generalizing part with
    | case1 => cases h
    | case2 =>
      rw [readQuoted_quote (by simp)] at h
      cases h
      exact ⟨rfl, by simp⟩
    | case3 rest ih =>
      rw [readQuoted_quote_quote, Option.map_eq_some_iff] at h
      obtain ⟨⟨inner, _⟩, hinner, heq⟩ := h
      cases heq
      obtain ⟨rfl, hafter⟩ := ih hinner
      exact ⟨by rw [double_cons, if_pos rfl]; rfl, hafter⟩
    | case4 d rest hd =>
      have hafter : (d :: rest).head? ≠ some quote := by simpa using hd
      rw [readQuoted_quote hafter] at h
      cases h
      exact ⟨rfl, hafter⟩
    | case5 c rest hc ih =>
      rw [readQuoted_cons_of_ne hc, Option.map_eq_some_iff] at h
      obtain ⟨⟨inner, _⟩, hinner, heq⟩ := h
      cases heq
      obtain ⟨rfl, hafter⟩ := ih hinner
      exact ⟨by rw [double_cons, if_neg hc]; rfl, hafter⟩
  · rintro ⟨rfl, hafter⟩
    induction part with
    | nil => exact readQuoted_quote hafter
    | cons c rest ih =>
      rw [double_cons]
      by_cases hc : c = quote
      · subst hc
        rw [if_pos rfl, List.append_assoc]
        show readQuoted c (c :: c :: (double c rest ++ c :: after)) = _
        rw [readQuoted_quote_quote, ih, Option.map_some]
      · rw [if_neg hc, List.append_assoc, List.singleton_append, readQuoted_cons_of_ne hc, ih,
          Option.map_some]

/-- The part at the start of a text, a star alone or a quoted one, with what comes after it. -/
def readPart (quote : Char) : List Char → Option (List Char × List Char)
  | [] => none
  | c :: rest =>
    if c = '*' then some (['*'], rest)
    else if c = quote then readQuoted quote rest
    else none

/-- What comes after a part is shorter than the text. -/
theorem length_lt_of_readPart (h : readPart quote text = some (part, after)) :
    after.length < text.length := by
  cases text with
  | nil => cases h
  | cons c rest =>
    rw [readPart] at h
    split at h
    · cases h
      exact Nat.lt_succ_self _
    · split at h
      · obtain ⟨rfl, -⟩ := readQuoted_eq_some_iff.1 h
        simp only [List.length_cons, List.length_append]
        omega
      · cases h

/-- The parts of the name at the start of a text, with what comes after the name. A point after a
part goes on with the next part. -/
def readName (quote : Char) (text : List Char) : Option (List (List Char) × List Char) :=
  match _ : readPart quote text with
  | none => none
  | some (part, '.' :: rest) =>
    (readName quote rest).map fun (parts, after) => (part :: parts, after)
  | some (part, after) => some ([part], after)
termination_by text.length
decreasing_by
  have shorter := length_lt_of_readPart ‹readPart quote text = some (part, '.' :: rest)›
  rw [List.length_cons] at shorter
  omega

/-- A name goes on after a point. -/
theorem readName_of_dot {rest : List Char} (h : readPart quote text = some (part, '.' :: rest)) :
    readName quote text =
      (readName quote rest).map fun (parts, after) => (part :: parts, after) := by
  rw [readName]
  split
  · next heq => cases h.symm.trans heq
  · next heq =>
    cases h.symm.trans heq
    rfl
  · next hdot heq =>
    cases h.symm.trans heq
    exact absurd rfl (hdot rest)

/-- A name ends with a part that no point comes after. -/
theorem readName_of_ne_dot (h : readPart quote text = some (part, after))
    (hafter : after.head? ≠ some '.') : readName quote text = some ([part], after) := by
  rw [readName]
  split
  · next heq => cases h.symm.trans heq
  · next heq =>
    cases h.symm.trans heq
    exact absurd rfl hafter
  · next heq =>
    cases h.symm.trans heq
    rfl

/-- A segment that is not kept is read back as it was, before anything that does not start with a
quote character. -/
theorem readPart_wrapSegment (hstar : quote ≠ '*') {segment : List Char}
    (plain : isEnclosed quote segment = false) (hafter : after.head? ≠ some quote) :
    readPart quote (wrapSegment quote segment ++ after) = some (segment, after) := by
  by_cases hs : segment = ['*']
  · subst hs
    rfl
  · rw [wrapSegment, if_neg (by simp [hs, plain]), enclose, List.cons_append, List.append_assoc,
      List.singleton_append, readPart, if_neg hstar, if_pos rfl]
    exact readQuoted_eq_some_iff.2 ⟨rfl, hafter⟩

/-- Segments that are not kept and are joined by points are read back one by one. -/
theorem readName_intercalate (hstar : quote ≠ '*') (hdot : quote ≠ '.')
    {segments : List (List Char)} (hne : segments ≠ [])
    (plain : ∀ segment ∈ segments, isEnclosed quote segment = false)
    (hquote : after.head? ≠ some quote) (hend : after.head? ≠ some '.') :
    readName quote (['.'].intercalate (segments.map (wrapSegment quote)) ++ after) =
      some (segments, after) := by
  induction segments with
  | nil => exact absurd rfl hne
  | cons segment others ih =>
    have first := plain segment List.mem_cons_self
    cases others with
    | nil =>
      rw [List.map_singleton, List.intercalate_singleton]
      exact readName_of_ne_dot (readPart_wrapSegment hstar first hquote) hend
    | cons next more =>
      have inner := ih (List.cons_ne_nil next more) fun s hs => plain s (List.mem_cons_of_mem _ hs)
      rw [List.map_cons] at inner ⊢
      have point (t : List Char) : ('.' :: t).head? ≠ some quote := by simpa using hdot.symm
      rw [List.map_cons, List.intercalate_cons_cons, List.append_assoc, List.append_assoc,
        List.singleton_append, readName_of_dot (readPart_wrapSegment hstar first (point _)), inner,
        Option.map_some]

end Identifier

namespace Dialect

open Identifier

/-- **A plain name is read back.** Before anything that starts with neither a quote character nor a
point, a reader takes what a dialect writes for a plain name, gives the segments of the name, and
stops where the name ends. -/
theorem readName_wrap {d : Dialect} (hstar : d.quote ≠ '*') (hdot : d.quote ≠ '.') {name : String}
    (plain : d.Plain name) {rest : String} (ends : d.EndsName rest) :
    readName d.quote (d.wrap name ++ rest).toList = some (splitAt '.' name.toList, rest.toList) := by
  have follows (c : Char) (hc : c = d.quote ∨ c = '.') : rest.toList.head? ≠ some c := by
    intro head
    obtain ⟨hquote, hpoint⟩ := ends c head
    exact hc.elim hquote hpoint
  rw [String.toList_append, wrap, String.toList_ofList, wrap_eq_intercalate]
  exact readName_intercalate hstar hdot (splitAt_ne_nil '.' name.toList) plain
    (follows _ (.inl rfl)) (follows _ (.inr rfl))

end Dialect

namespace DialectName

open Identifier Dialect

/-- **What is written for a plain name can be read.** In the dialects that settings can name, a
reader takes what is written for a plain name and gives the segments of the name, whatever comes
after it that starts with neither a quote character nor a point, and stops right before that. So no
other plain name is written the same way. -/
theorem reads_written_name (dialect : DialectName) {name : String}
    (plain : dialect.dialect.Plain name) :
    (∀ rest, dialect.dialect.EndsName rest →
      readName dialect.dialect.quote (dialect.dialect.wrap name ++ rest).toList =
        some (splitAt '.' name.toList, rest.toList)) ∧
      ∀ other, dialect.dialect.Plain other →
        dialect.dialect.wrap other = dialect.dialect.wrap name → other = name := by
  have hstar := dialect.readable.quote_ne '*' (by decide)
  have hdot := dialect.readable.quote_ne '.' (by decide)
  refine ⟨fun rest ends => readName_wrap hstar hdot plain ends, fun other plain' same => ?_⟩
  have read (n : String) (hn : dialect.dialect.Plain n) :
      readName dialect.dialect.quote (dialect.dialect.wrap n).toList =
        some (splitAt '.' n.toList, []) := by
    have ends : dialect.dialect.EndsName "" := by simp [EndsName]
    simpa using readName_wrap hstar hdot hn ends
  have segments : splitAt '.' other.toList = splitAt '.' name.toList := by
    have both := read other plain'
    rw [same, read name plain, Option.some.injEq, Prod.mk.injEq] at both
    exact both.1.symm
  rw [← String.toList_inj, ← intercalate_splitAt '.' other.toList, segments, intercalate_splitAt]

/-- A name with a quote character inside a segment, an empty segment, a star, and a segment that is
a quote character alone is read back in front of a condition. -/
theorem reads_written_name_hostile :
    sqlite.dialect.Plain "a\x22b..*.\x22" ∧ sqlite.dialect.EndsName " = ?" ∧
      sqlite.dialect.wrap "a\x22b..*.\x22" = "\x22a\x22\x22b\x22.\x22\x22.*.\x22\x22\x22\x22" ∧
      readName '\x22' (sqlite.dialect.wrap "a\x22b..*.\x22" ++ " = ?").toList =
        some ([['a', '\x22', 'b'], [], ['*'], ['\x22']], " = ?".toList) := by
  have plain : sqlite.dialect.Plain "a\x22b..*.\x22" := by decide
  have ends : sqlite.dialect.EndsName " = ?" := by
    intro c hc
    obtain rfl : ' ' = c := by simpa using hc
    decide
  exact ⟨plain, ends, by decide, (reads_written_name sqlite plain).1 " = ?" ends⟩

end DialectName

end SqlMapper
