import SqlMapper.Dialect.Statement

/-!
# Whether a name stays inside its quotes

A reader of a statement takes a quote character for the end of a quoted name unless a second one
follows, and what comes after the end for something else than a name. So a name is safe if each of
its parts between points is a star alone or stands between quote characters with every quote
character inside in a pair (`Identifier.isWellNamed`). Writing a name doubles the quote characters
of the segments that it encloses, but keeps a segment that starts and ends with one:
`Dialect.isWellNamed_wrap_iff` says that the name written is safe exactly when the segments that are
kept are, and `Dialect.escapes_quoting` is a segment that is kept and is not.
-/

namespace SqlMapper

namespace Identifier

/-- Whether every quote character of a text stands in a pair with another one. -/
def isPaired (quote : Char) : List Char → Bool
  | [] => true
  | [c] => c != quote
  | c :: d :: rest =>
    if c = quote then d == quote && isPaired quote rest else isPaired quote (d :: rest)

/-- Whether a segment is one quoted name: it starts and ends with the quote character, and between
them every quote character stands in a pair. -/
def isQuoted (quote : Char) : List Char → Bool
  | [] => false
  | c :: rest => c == quote && rest.getLast? == some quote && isPaired quote rest.dropLast

/-- Whether every part of a text between points is a star alone or one quoted name. -/
def isWellNamed (quote : Char) (text : List Char) : Bool :=
  (splitAt '.' text).all fun segment => segment == ['*'] || isQuoted quote segment

/-- A quote character that is written twice makes a pair. -/
theorem isPaired_cons_cons (quote : Char) (rest : List Char) :
    isPaired quote (quote :: quote :: rest) = isPaired quote rest := by
  rw [isPaired, if_pos rfl, beq_self_eq_true, Bool.true_and]

/-- Another character changes nothing about the pairs after it. -/
theorem isPaired_cons_of_ne {quote c : Char} (h : c ≠ quote) (rest : List Char) :
    isPaired quote (c :: rest) = isPaired quote rest := by
  cases rest with
  | nil => exact bne_iff_ne.2 h
  | cons d rest => rw [isPaired, if_neg h]

/-- After doubling, every quote character stands in a pair. -/
theorem isPaired_double (quote : Char) (segment : List Char) :
    isPaired quote (double quote segment) = true := by
  induction segment with
  | nil => rfl
  | cons c rest ih =>
    rw [double, List.flatMap_cons, ← double]
    by_cases h : c = quote
    · rw [if_pos h, List.cons_append, List.singleton_append, isPaired_cons_cons, ih]
    · rw [if_neg h, List.singleton_append, isPaired_cons_of_ne h, ih]

/-- A segment that is enclosed is one quoted name. -/
theorem isQuoted_enclose (quote : Char) (segment : List Char) :
    isQuoted quote (enclose quote segment) = true := by
  rw [enclose, isQuoted, List.getLast?_concat, List.dropLast_concat, isPaired_double]
  simp

/-- A star alone is no enclosed segment: it has a single byte. -/
theorem isEnclosed_star (quote : Char) : isEnclosed quote ['*'] = false := rfl

/-- A segment is written as a star or as one quoted name exactly when it is one already or is not
kept. -/
theorem wrapSegment_safe_iff (quote : Char) (segment : List Char) :
    (wrapSegment quote segment = ['*'] ∨ isQuoted quote (wrapSegment quote segment) = true) ↔
      (isEnclosed quote segment = true → isQuoted quote segment = true) := by
  unfold wrapSegment
  by_cases hstar : segment = ['*']
  · subst hstar
    simp [isEnclosed_star]
  · by_cases hkept : isEnclosed quote segment = true
    · simp [hstar, hkept]
    · simp [hstar, hkept, isQuoted_enclose]

/-- Every character of an enclosed segment is one of the segment or the quote character. -/
theorem mem_enclose {quote c : Char} {segment : List Char} (h : c ∈ enclose quote segment) :
    c ∈ segment ∨ c = quote := by
  rw [enclose, List.mem_cons, List.mem_append, List.mem_singleton, double, List.mem_flatMap] at h
  rcases h with rfl | ⟨d, hd, hc⟩ | rfl
  · exact .inr rfl
  · split at hc
    · next hquote => simp_all
    · exact .inl (List.mem_singleton.1 hc ▸ hd)
  · exact .inr rfl

/-- Writing a segment brings no point in. -/
theorem dot_notMem_wrapSegment {quote : Char} (hquote : quote ≠ '.') {segment : List Char}
    (h : '.' ∉ segment) : '.' ∉ wrapSegment quote segment := by
  unfold wrapSegment
  split
  · exact h
  · intro hdot
    rcases mem_enclose hdot with hdot | hdot
    · exact h hdot
    · exact hquote hdot.symm

/-- Splitting before a list without the character. -/
theorem splitAt_of_notMem {c : Char} {part : List Char} (h : c ∉ part) :
    splitAt c part = [part] := by
  induction part with
  | nil => rfl
  | cons d rest ih =>
    rw [List.mem_cons, not_or] at h
    rw [splitAt, if_neg (Ne.symm h.1), ih h.2]

/-- Splitting after the first part. -/
theorem splitAt_append_cons {c : Char} {part : List Char} (h : c ∉ part) (rest : List Char) :
    splitAt c (part ++ c :: rest) = part :: splitAt c rest := by
  induction part with
  | nil => rw [List.nil_append, splitAt, if_pos rfl]
  | cons d others ih =>
    rw [List.mem_cons, not_or] at h
    rw [List.cons_append, splitAt, if_neg (Ne.symm h.1), ih h.2]

/-- Parts that do not hold the character are found again. -/
theorem splitAt_intercalate {c : Char} {parts : List (List Char)} (hne : parts ≠ [])
    (h : ∀ part ∈ parts, c ∉ part) : splitAt c ([c].intercalate parts) = parts := by
  induction parts with
  | nil => exact absurd rfl hne
  | cons part rest ih =>
    have first : c ∉ part := h part List.mem_cons_self
    cases rest with
    | nil =>
      rw [List.intercalate_singleton]
      exact splitAt_of_notMem first
    | cons next others =>
      have inner := ih (List.cons_ne_nil next others) fun p hp => h p (List.mem_cons_of_mem part hp)
      rw [List.intercalate_cons_cons, List.append_assoc, List.singleton_append,
        splitAt_append_cons first, inner]

/-- A name is written segment by segment; a star alone is no exception. -/
theorem wrap_eq_intercalate (quote : Char) (name : List Char) :
    wrap quote name = ['.'].intercalate ((splitAt '.' name).map (wrapSegment quote)) := by
  unfold wrap
  split
  · next hstar =>
    subst hstar
    rfl
  · rfl

/-- The parts of a name that is written are the segments as they are written. -/
theorem splitAt_wrap {quote : Char} (hquote : quote ≠ '.') (name : List Char) :
    splitAt '.' (wrap quote name) = (splitAt '.' name).map (wrapSegment quote) := by
  have some_part : (splitAt '.' name).map (wrapSegment quote) ≠ [] :=
    fun h => splitAt_ne_nil '.' name (List.map_eq_nil_iff.1 h)
  rw [wrap_eq_intercalate]
  refine splitAt_intercalate some_part fun part hpart => ?_
  obtain ⟨segment, hsegment, rfl⟩ := List.mem_map.1 hpart
  exact dot_notMem_wrapSegment hquote (not_mem_of_mem_splitAt hsegment)

end Identifier

namespace Dialect

open Identifier

/-- **A name is safe exactly when the segments it keeps are.** In every dialect whose quote
character is no point, the name that is written consists of stars and quoted names, joined by
points, if and only if every segment that is taken for quoted already, because it starts and ends
with the quote character and has at least two bytes, is a quoted name itself. -/
theorem isWellNamed_wrap_iff (d : Dialect) (hquote : d.quote ≠ '.') (name : String) :
    isWellNamed d.quote (d.wrap name).toList = true ↔
      ∀ segment ∈ splitAt '.' name.toList,
        isEnclosed d.quote segment = true → isQuoted d.quote segment = true := by
  rw [Dialect.wrap, String.toList_ofList, isWellNamed, splitAt_wrap hquote, List.all_map,
    List.all_eq_true]
  refine forall₂_congr fun segment _ => ?_
  rw [Function.comp_apply, Bool.or_eq_true, beq_iff_eq]
  exact wrapSegment_safe_iff d.quote segment

/-- In one name, a stray quote character is written twice, a segment that is a quoted name already
is kept, and a star stays bare. -/
theorem isWellNamed_wrap_mixed :
    sqlite.quote ≠ '.' ∧
      (isWellNamed sqlite.quote (sqlite.wrap "a\x22b.\x22c\x22\x22d\x22.*").toList = true ↔
        ∀ segment ∈ splitAt '.' "a\x22b.\x22c\x22\x22d\x22.*".toList,
          isEnclosed sqlite.quote segment = true → isQuoted sqlite.quote segment = true) ∧
      sqlite.wrap "a\x22b.\x22c\x22\x22d\x22.*" = "\x22a\x22\x22b\x22.\x22c\x22\x22d\x22.*" :=
  ⟨by decide, isWellNamed_wrap_iff sqlite (by decide) _, by decide⟩

/-- **A name can leave its quotes.** This segment is kept because it starts and ends with the quote
character, but the second one ends the quoted name, and what follows is read as a condition. There
is no way to take what is written for stars and quoted names joined by points. -/
theorem escapes_quoting :
    ¬ ∃ parts : List (List Char),
      (∀ part ∈ parts, part = ['*'] ∨ isQuoted mysql.quote part = true) ∧
        ['.'].intercalate parts = (mysql.wrap "`id` = 1 OR `x`").toList := by
  rintro ⟨parts, hparts, hjoined⟩
  have kept : (mysql.wrap "`id` = 1 OR `x`").toList = "`id` = 1 OR `x`".toList := by decide
  rw [kept] at hjoined
  match parts with
  | [] => exact absurd hjoined (by decide)
  | [part] =>
    rw [List.intercalate_singleton] at hjoined
    subst hjoined
    exact absurd (hparts _ (List.mem_singleton_self _)) (by decide)
  | part :: next :: rest =>
    -- a point joins the first two parts, and the name has none
    have dot : '.' ∈ "`id` = 1 OR `x`".toList := by
      rw [← hjoined, List.intercalate_cons_cons]
      simp
    exact absurd dot (by decide)

/-- What a condition on such a column makes of a delete. -/
example : mysql.compile .delete ((Query.ofTable "t").whereEq "`id` = 1 OR `x`" (.int 5)) =
    .ok "DELETE FROM `t` WHERE `id` = 1 OR `x` = ?" := by rfl

end Dialect

end SqlMapper
