import SqlMapper.Proofs.Names.Quoting
import SqlMapper.Proofs.Unambiguous.Telling
import SqlMapper.Settings.Basic

/-!
# What a name tells

A plain name is one whose segments are all put between quote characters, but for a star alone. The
quote characters inside are doubled, so that a single one is the end of the segment, and a point
after it goes on with the next segment. So a plain name is told by the way it is written before
anything that starts with neither of the two (`Dialect.tells_wrap`), and a list of plain names
before anything that does not start with a comma either (`Dialect.tells_wrapAll`).
-/

namespace SqlMapper

namespace Identifier

variable {quote : Char}

/-- Doubling a character of a segment. -/
theorem double_cons (quote c : Char) (segment : List Char) :
    double quote (c :: segment) =
      (if c = quote then [quote, quote] else [c]) ++ double quote segment := by
  rw [double, List.flatMap_cons, ← double]

/-- The segment that the inside of a quoted name stands for, up to the first quote character that is
not doubled, with what comes after it. -/
def unquote (quote : Char) : List Char → List Char × List Char
  | [] => ([], [])
  | [c] => if c = quote then ([], []) else ([c], [])
  | c :: d :: rest =>
    if c = quote then
      if d = quote then
        let (segment, after) := unquote quote rest
        (quote :: segment, after)
      else ([], d :: rest)
    else
      let (segment, after) := unquote quote (d :: rest)
      (c :: segment, after)

/-- A quote character before anything else ends the segment. -/
theorem unquote_quote {r : List Char} (hr : r.head? ≠ some quote) :
    unquote quote (quote :: r) = ([], r) := by
  cases r with
  | nil => rw [unquote, if_pos rfl]
  | cons d rest =>
    have hd : d ≠ quote := by simpa using hr
    rw [unquote, if_pos rfl, if_neg hd]

/-- Another character belongs to the segment. -/
theorem unquote_cons_of_ne {c : Char} (hc : c ≠ quote) {cs : List Char} (hcs : cs ≠ []) :
    unquote quote (c :: cs) = (c :: (unquote quote cs).1, (unquote quote cs).2) := by
  obtain ⟨d, rest, rfl⟩ := List.exists_cons_of_ne_nil hcs
  rw [unquote, if_neg hc]

/-- The segment is found again between its quote characters. -/
theorem unquote_double (segment : List Char) {r : List Char} (hr : r.head? ≠ some quote) :
    unquote quote (double quote segment ++ quote :: r) = (segment, r) := by
  induction segment with
  | nil => exact unquote_quote hr
  | cons c rest ih =>
    rw [double_cons]
    by_cases hc : c = quote
    · subst hc
      rw [if_pos rfl, List.append_assoc]
      show unquote c (c :: c :: (double c rest ++ c :: r)) = _
      rw [unquote, if_pos rfl, if_pos rfl, ih]
    · rw [if_neg hc, List.append_assoc, List.singleton_append,
        unquote_cons_of_ne hc (by simp), ih]

end Identifier

/-- A dialect whose selects can be read back: its quote character starts and ends nothing but names,
and its placeholder is a question mark. -/
structure Dialect.Readable (d : Dialect) : Prop where
  quote : d.quote ∉ ['*', '.', ',', ' ', ')', '0', '1', 'D']
  placeholder : d.placeholder = "?"

/-- No such character is the quote character. -/
theorem Dialect.Readable.quote_ne {d : Dialect} (hd : d.Readable) (c : Char)
    (hc : c ∈ ['*', '.', ',', ' ', ')', '0', '1', 'D']) : d.quote ≠ c :=
  fun h => hd.quote (h ▸ hc)

/-- Both dialects that settings can name are such dialects. -/
theorem DialectName.readable (name : DialectName) : name.dialect.Readable := by
  cases name <;> exact ⟨by decide, rfl⟩

namespace Dialect

open Identifier

variable {d : Dialect}

/-- A plain name: each of its segments is written between quote characters or is a star alone,
because none has two bytes or more and already starts and ends with the quote character. -/
def Plain (d : Dialect) (name : String) : Prop :=
  ∀ segment ∈ splitAt '.' name.toList, isEnclosed d.quote segment = false

instance (d : Dialect) (name : String) : Decidable (d.Plain name) :=
  inferInstanceAs
    (Decidable (∀ segment ∈ splitAt '.' name.toList, isEnclosed d.quote segment = false))

/-- What a text has to be to follow a name: it starts neither with a quote character nor with a
point. -/
def EndsName (d : Dialect) (r : String) : Prop :=
  ∀ c ∈ r.toList.head?, c ≠ d.quote ∧ c ≠ '.'

/-- A segment that is not kept is told by the way it is written, before anything that does not start
with a quote character. -/
theorem tells_segment (hd : d.Readable) {segment : List Char}
    (plain : isEnclosed d.quote segment = false) :
    Tells (fun segment => isEnclosed d.quote segment = false)
      (fun r => r.toList.head? ≠ some d.quote)
      (fun segment => String.ofList (wrapSegment d.quote segment)) Eq segment := by
  intro segment' plain' r r' hr hr' heq
  have chars : wrapSegment d.quote segment ++ r.toList =
      wrapSegment d.quote segment' ++ r'.toList := by
    simpa using congrArg String.toList heq
  have hstar : wrapSegment d.quote ['*'] = ['*'] := rfl
  have enclosed (s : List Char) (hs : isEnclosed d.quote s = false) (hne : s ≠ ['*']) :
      wrapSegment d.quote s = d.quote :: (double d.quote s ++ [d.quote]) := by
    rw [wrapSegment, if_neg (by simp [hne, hs]), enclose]
  by_cases hs : segment = ['*'] <;> by_cases hs' : segment' = ['*']
  · subst hs hs'
    rw [hstar, List.append_cancel_left_eq, String.toList_inj] at chars
    exact ⟨rfl, chars⟩
  · subst hs
    rw [hstar, enclosed _ plain' hs'] at chars
    exact absurd (List.cons.inj chars).1.symm (hd.quote_ne '*' (by decide))
  · subst hs'
    rw [hstar, enclosed _ plain hs] at chars
    exact absurd (List.cons.inj chars).1 (hd.quote_ne '*' (by decide))
  · rw [enclosed _ plain hs, enclosed _ plain' hs', List.cons_append, List.cons_append,
      List.append_assoc, List.append_assoc] at chars
    have inside := (List.cons.inj chars).2
    have read : (segment, r.toList) = (segment', r'.toList) := by
      rw [← unquote_double segment hr, ← unquote_double segment' hr']
      exact congrArg (unquote d.quote) inside
    exact ⟨congrArg Prod.fst read, String.toList_inj.1 (congrArg Prod.snd read)⟩

/-- A name is written segment by segment, a star alone included. -/
theorem wrap_eq (d : Dialect) (name : String) :
    d.wrap name = ".".intercalate ((splitAt '.' name.toList).map
      fun segment => String.ofList (wrapSegment d.quote segment)) := by
  rw [← String.toList_inj, String.toList_intercalate, List.map_map, wrap, String.toList_ofList,
    wrap_eq_intercalate]
  simp [Function.comp_def]

/-- A plain name is told by the way it is written. -/
theorem tells_wrap (hd : d.Readable) {name : String} (plain : d.Plain name) :
    Tells d.Plain d.EndsName d.wrap Eq name := by
  have hdot := hd.quote_ne '.' (by decide)
  have segments : Tells _ d.EndsName (fun segments => ".".intercalate (segments.map
      fun segment => String.ofList (wrapSegment d.quote segment))) Eq (splitAt '.' name.toList) :=
    Tells.intercalate (splitAt_ne_nil '.' name.toList)
      (fun segment h => tells_segment hd (plain segment h)) (fun t => by simpa using hdot.symm)
      (fun r hr hq => (hr d.quote hq).1 rfl) (fun r hr t heq => (hr '.' (by simp [heq])).2 rfl)
  intro name' plain' r r' hr hr' heq
  rw [wrap_eq, wrap_eq] at heq
  obtain ⟨same, hrest⟩ := segments _ ⟨splitAt_ne_nil '.' name'.toList, plain'⟩ r r' hr hr' heq
  refine ⟨String.toList_inj.1 ?_, hrest⟩
  rw [← intercalate_splitAt '.' name.toList, same, intercalate_splitAt]

/-- The star alone is plain. -/
theorem plain_star (d : Dialect) : d.Plain "*" := by
  have single : splitAt '.' "*".toList = [['*']] := rfl
  intro segment h
  rw [single, List.mem_singleton] at h
  subst h
  rfl

/-- The star alone is written as it is. -/
theorem wrap_star (d : Dialect) : d.wrap "*" = "*" := by
  rw [wrap, Identifier.wrap, if_pos (by rfl)]
  rfl

/-- A name starts with the quote character or with a star. -/
theorem head?_wrap (d : Dialect) {name : String} (plain : d.Plain name) (r : String) :
    (d.wrap name ++ r).toList.head? = some d.quote ∨
      (d.wrap name ++ r).toList.head? = some '*' := by
  obtain ⟨segment, rest, hsplit⟩ := List.exists_cons_of_ne_nil (splitAt_ne_nil '.' name.toList)
  have kept : isEnclosed d.quote segment = false := plain segment (hsplit ▸ List.mem_cons_self)
  have head : ∃ cs, wrapSegment d.quote segment = d.quote :: cs ∨
      wrapSegment d.quote segment = '*' :: cs := by
    rw [wrapSegment]
    by_cases hs : segment = ['*']
    · exact ⟨[], .inr (by simp [hs])⟩
    · exact ⟨_, .inl (by rw [if_neg (by simp [hs, kept]), enclose])⟩
  obtain ⟨cs, hcs⟩ := head
  rw [wrap_eq, hsplit]
  cases rest <;> rcases hcs with hcs | hcs <;> simp [hcs]

/-- What a text has to be to follow a list of names: it may follow a name, and does not start with
a comma. -/
def EndsNames (d : Dialect) (r : String) : Prop :=
  d.EndsName r ∧ r.toList.head? ≠ some ','

/-- A list of plain names is told by the way it is written. -/
theorem tells_wrapAll (hd : d.Readable) {names : List String} (hne : names ≠ [])
    (plain : ∀ name ∈ names, d.Plain name) :
    Tells (fun names => names ≠ [] ∧ ∀ name ∈ names, d.Plain name) d.EndsNames d.wrapAll Eq
      names := by
  refine Tells.intercalate hne (fun name h => tells_wrap hd (plain name h)) (fun t c hc => ?_)
    (fun r hr => hr.1) (fun r hr t heq => hr.2 (by simp [heq]))
  obtain rfl : ',' = c := by simpa using hc
  exact ⟨(hd.quote_ne ',' (by decide)).symm, by decide⟩

/-- A list of names starts like a name. -/
theorem head?_wrapAll (d : Dialect) {names : List String} (hne : names ≠ [])
    (plain : ∀ name ∈ names, d.Plain name) (r : String) :
    (d.wrapAll names ++ r).toList.head? = some d.quote ∨
      (d.wrapAll names ++ r).toList.head? = some '*' := by
  obtain ⟨name, rest, rfl⟩ := List.exists_cons_of_ne_nil hne
  have first := d.head?_wrap (plain name List.mem_cons_self)
  cases rest with
  | nil => simpa [wrapAll] using first r
  | cons next rest =>
    rw [wrapAll, List.map_cons, List.map_cons, String.intercalate_cons_cons, String.append_assoc,
      String.append_assoc]
    exact first _

end Dialect

end SqlMapper
