import SqlMapper.Proofs.Unambiguous.Clauses

/-!
# The text of a select is unambiguous

Every part of a select tells what it is there to show: the columns and the table their names, the
order its columns with their directions, the page its numbers, and the conditions their clauses, by
recursion over sub-selects (`Dialect.tells_select`). So two legible queries whose selects have the
same text have the same shape (`Dialect.shape_eq_of_select_eq`): no name, however it is made up,
blurs the border between two clauses, two parts or a sub-select and what is around it.
-/

namespace SqlMapper

namespace Query

/-- The columns that the text of a select shows. -/
def shownColumns (q : Query) : List String :=
  if q.columns.isEmpty then ["*"] else q.columns

/-- Two queries show the same in one part. -/
def SamePart : SelectPart → Query → Query → Prop
  | .columns, q, q' => q.distinct = q'.distinct ∧ q.shownColumns = q'.shownColumns
  | .from_, q, q' => q.table = q'.table
  | .joins, _, _ => True
  | .wheres, q, q' => clausesShape q.wheres = clausesShape q'.wheres
  | .groups, q, q' => q.groups = q'.groups
  | .havings, q, q' => clausesShape q.havings = clausesShape q'.havings
  | .orders, q, q' => q.orders = q'.orders
  | .limit, q, q' => q.limit = q'.limit
  | .offset, q, q' => q.offset = q'.offset

/-- Queries that show the same in every part have the same shape. -/
theorem shape_eq_of_sameParts {q q' : Query} (h : ∀ p, SamePart p q q') : q.shape = q'.shape := by
  obtain ⟨distinct, columns⟩ := h .columns
  rw [shape_eq, shape_eq, SelectShape.mk.injEq]
  exact ⟨distinct, columns, h .from_, h .wheres, h .groups, h .havings, h .orders, h .limit,
    h .offset⟩

/-- A part that applies to neither of two queries shows the same. -/
theorem samePart_of_isAbsent {p : SelectPart} {q q' : Query} (h : p.isAbsent q = true)
    (h' : p.isAbsent q' = true) : SamePart p q q' := by
  cases p <;> simp_all [SelectPart.isAbsent, SamePart, clausesShape]

/-- The predicates in the clauses of a legible query are legible. -/
theorem Legible.predicate {d : Dialect} {q : Query} (h : q.Legible d) {c : Clause Query}
    (hc : c ∈ q.wheres ++ q.havings) : c.predicate.Legible d where
  column := h.plain (by
    have column : c.predicate.column ∈
        (q.wheres ++ q.havings).map (fun c => c.predicate.column) :=
      List.mem_map_of_mem hc
    simp only [names, List.mem_append, List.mem_cons]
    exact .inl (.inl (.inr column)))
  child := fun _ hchild => h.child hc hchild

end Query

namespace Dialect

variable {d : Dialect}

/-- What follows a part may follow a list of names. -/
theorem endsNames_of_follows (hd : d.Readable) {parts : List SelectPart} {r : String}
    (hr : Follows parts r) : d.EndsNames r := by
  have space := hd.quote_ne ' ' (by decide)
  have bracket := hd.quote_ne ')' (by decide)
  refine ⟨fun c hc => ?_, fun hc => ?_⟩
  · rcases hr.head? hc with rfl | rfl
    · exact ⟨space.symm, by decide⟩
    · exact ⟨bracket.symm, by decide⟩
  · rcases hr.head? hc with h | h <;> cases h

/-- A direction is told by its word. -/
theorem tells_direction (dir : Direction) :
    Tells (fun _ => True) (fun _ => True) Direction.sql Eq dir :=
  tells_word fun dir' _ h => by revert h; cases dir <;> cases dir' <;> decide

/-- A column to sort by is told with its direction. -/
theorem tells_orderText (hd : d.Readable) {o : Ordering} (plain : d.Plain o.column) :
    Tells (fun o => d.Plain o.column) (fun _ => True) d.orderText Eq o := by
  rintro ⟨column', direction'⟩ plain' r r' - - heq
  obtain ⟨column, direction⟩ := o
  have after (t : String) : d.EndsName (" " ++ t) := endsName_of_space hd (by simp)
  simp only [orderText, String.append_assoc] at heq
  obtain ⟨rfl, hrest⟩ := tells_wrap hd plain column' plain' _ _ (after _) (after _) heq
  obtain ⟨rfl, hend⟩ := tells_direction direction direction' trivial r r' trivial trivial
    ((String.append_right_inj _).1 hrest)
  exact ⟨rfl, hend⟩

/-- The columns are told before the other parts. -/
theorem tells_columns (hd : d.Readable) {q : Query} (legible : q.Legible d) :
    Tells (Query.Legible d) (Follows SelectPart.all) (fun q => d.part q .columns)
      (Query.SamePart .columns) q := by
  have text (q : Query) : d.part q .columns =
      "SELECT " ++ ((if q.distinct then "DISTINCT " else "") ++ d.wrapAll q.shownColumns) := by
    cases h : q.columns <;> cases h' : q.distinct <;>
      simp [part, partText, Query.shownColumns, h, h', wrapAll, wrap_star, ← String.append_assoc]
  have names (q : Query) (legible : q.Legible d) :
      q.shownColumns ≠ [] ∧ ∀ name ∈ q.shownColumns, d.Plain name := by
    cases h : q.columns with
    | nil => simp [Query.shownColumns, h, plain_star]
    | cons name rest =>
      have plain : ∀ name ∈ q.columns, d.Plain name := fun name hname =>
        legible.plain (by simp [Query.names, hname])
      simpa [Query.shownColumns, h] using plain
  have columns := tells_wrapAll hd (names q legible).1 (names q legible).2
  have ends (r : String) (hr : Follows SelectPart.all r) := endsNames_of_follows hd hr
  -- a name does not start like the word that asks for distinct rows
  have apart (q : Query) (legible : q.Legible d) (r r' : String) :
      d.wrapAll q.shownColumns ++ r ≠ "DISTINCT " ++ r' := by
    intro heq
    have head := d.head?_wrapAll (names q legible).1 (names q legible).2 r
    have quote := hd.quote_ne 'D' (by decide)
    rw [heq] at head
    simp [quote.symm] at head
  intro q' legible' r r' hr hr' heq
  simp only [text, String.append_assoc, String.append_right_inj] at heq
  cases h : q.distinct <;> cases h' : q'.distinct <;>
    simp only [h, h', if_true, Bool.false_eq_true, if_false, String.empty_append] at heq
  · obtain ⟨same, hrest⟩ := columns _ (names q' legible') r r' (ends r hr) (ends r' hr') heq
    exact ⟨⟨h.trans h'.symm, same⟩, hrest⟩
  · exact absurd heq (apart q legible r _)
  · exact absurd heq.symm (apart q' legible' r' _)
  · obtain ⟨same, hrest⟩ := columns _ (names q' legible') r r' (ends r hr) (ends r' hr')
      ((String.append_right_inj _).1 heq)
    exact ⟨⟨h.trans h'.symm, same⟩, hrest⟩

/-- A number of rows is told before the other parts. -/
theorem tells_page (n : Option Nat) (hn : n.isNone = false) :
    Tells (fun n : Option Nat => n.isNone = false) (Follows SelectPart.all)
      (fun n => Nat.repr (n.getD 0)) Eq n := by
  obtain ⟨n, rfl⟩ := Option.isSome_iff_exists.1 (by simpa using hn)
  rintro m' hm r r' hr hr' heq
  obtain ⟨m, rfl⟩ := Option.isSome_iff_exists.1 (by simpa using hm)
  have ends (r : String) (hr : Follows SelectPart.all r) :
      ∀ c ∈ r.toList.head?, c.isDigit = false := by
    intro c hc
    rcases hr.head? hc with rfl | rfl <;> decide
  obtain ⟨rfl, hrest⟩ := tells_repr n m trivial r r' (ends r hr) (ends r' hr') heq
  exact ⟨rfl, hrest⟩

/-- The clauses of one of the two lists of a legible query are told if all predicates are. -/
theorem tells_clauses {clauses : Query → List (Clause Query)}
    (inside : ∀ q, clauses q ⊆ q.wheres ++ q.havings) {q : Query}
    (hne : (clauses q).isEmpty = false)
    (predicates : ∀ c ∈ q.wheres ++ q.havings, d.TellsPredicate c.predicate) :
    Tells (fun q' => q'.Legible d ∧ (clauses q').isEmpty = false) (Follows SelectPart.all)
      (fun q' => d.clauses (clauses q'))
      (fun q q' => clausesShape (clauses q) = clausesShape (clauses q')) q := by
  have listed (q : Query) (h : (clauses q).isEmpty = false) : clauses q ≠ [] := by simpa using h
  have told := tells_clauses_of_predicates (listed q hne) fun c hc => predicates c (inside q hc)
  exact (told.comap (f := clauses)).imp
    (fun q' h => ⟨listed q' h.2, fun c hc => h.1.predicate (inside q' hc)⟩) (fun _ hr => hr)
    fun _ _ h => h

/-- The content of every part after the columns is told, if the clauses are. -/
theorem tells_content (hd : d.Readable) {q : Query} (legible : q.Legible d)
    (predicates : ∀ c ∈ q.wheres ++ q.havings, d.TellsPredicate c.predicate)
    {p : SelectPart} (hp : p ∈ SelectPart.afterColumns) (habsent : p.isAbsent q = false) :
    Tells (fun q' => q'.Legible d ∧ p.isAbsent q' = false) (Follows SelectPart.all)
      (fun q' => d.content q' p) (Query.SamePart p) q := by
  cases p with
  | columns => exact absurd hp (by decide)
  | joins => simp [SelectPart.isAbsent, legible.joins] at habsent
  | from_ =>
    have table (q : Query) (legible : q.Legible d) : d.Plain q.table :=
      legible.plain (by simp [Query.names])
    exact ((tells_wrap hd (table q legible)).comap (f := Query.table)).imp
      (fun q' h => table q' h.1) (fun r hr => (endsNames_of_follows hd hr).1) fun q' _ h => h
  | wheres => exact tells_clauses (fun q => List.subset_append_left q.wheres _) habsent predicates
  | havings => exact tells_clauses (fun q => List.subset_append_right q.wheres _) habsent predicates
  | groups =>
    have some_name (q : Query) (legible : q.Legible d) (h : SelectPart.groups.isAbsent q = false) :
        q.groups ≠ [] ∧ ∀ name ∈ q.groups, d.Plain name :=
      ⟨by simpa [SelectPart.isAbsent] using h, fun name hname =>
        legible.plain (by simp [Query.names, hname])⟩
    obtain ⟨hne, plain⟩ := some_name q legible habsent
    exact ((tells_wrapAll hd hne plain).comap (f := Query.groups)).imp
      (fun q' h => some_name q' h.1 h.2) (fun r hr => endsNames_of_follows hd hr) fun q' _ h => h
  | orders =>
    have some_order (q : Query) (legible : q.Legible d) (h : SelectPart.orders.isAbsent q = false) :
        q.orders ≠ [] ∧ ∀ o ∈ q.orders, d.Plain o.column :=
      ⟨by simpa [SelectPart.isAbsent] using h, fun o ho =>
        legible.plain (List.mem_append_right _ (List.mem_map_of_mem ho))⟩
    obtain ⟨hne, plain⟩ := some_order q legible habsent
    have orders : Tells _ (Follows SelectPart.all)
        (fun orders => ", ".intercalate (orders.map d.orderText)) Eq q.orders :=
      Tells.intercalate hne (fun o ho => tells_orderText hd (plain o ho)) (fun _ => trivial)
        (fun _ _ => trivial) fun r hr => hr.ne (by decide) (by decide)
          fun p _ => by cases p <;> decide
    exact (orders.comap (f := Query.orders)).imp (fun q' h => some_order q' h.1 h.2)
      (fun r hr => hr) fun q' _ h => h
  | limit =>
    exact ((tells_page q.limit habsent).comap (f := Query.limit)).imp (fun q' h => h.2)
      (fun r hr => hr) fun q' _ h => h
  | offset =>
    exact ((tells_page q.offset habsent).comap (f := Query.offset)).imp (fun q' h => h.2)
      (fun r hr => hr) fun q' _ h => h

/-- A legible select is told by its text if its clauses are. -/
theorem tells_select_of_predicates (hd : d.Readable) {q : Query} (legible : q.Legible d)
    (predicates : ∀ c ∈ q.wheres ++ q.havings, d.TellsPredicate c.predicate) :
    d.TellsSelect q := by
  have rest : Tells (Query.Legible d) (Follows [])
      (fun q => d.leads q SelectPart.afterColumns)
      (fun q q' => ∀ p ∈ SelectPart.afterColumns, Query.SamePart p q q') q :=
    tells_leads (by decide) legible (fun p _ q' h h' => Query.samePart_of_isAbsent h h')
      fun p hp habsent => tells_content hd legible predicates hp habsent
  have whole := (tells_columns hd legible).append legible rest fun q' _ r hr =>
    (follows_leads q' SelectPart.afterColumns hr).mono (List.tail_sublist SelectPart.all).subset
  intro q' legible' r r' hr hr' heq
  rw [select_eq_leads legible.joins, select_eq_leads legible'.joins] at heq
  obtain ⟨⟨columns, others⟩, hend⟩ := whole q' legible' r r' hr hr' heq
  refine ⟨Query.shape_eq_of_sameParts fun p => ?_, hend⟩
  by_cases hp : p = .columns
  · subst hp
    exact columns
  · exact others p (SelectPart.mem_afterColumns hp)

mutual

/-- A legible select is told by its text, before the end of the statement or of a sub-select. -/
theorem tells_select (hd : d.Readable) (q : Query) (legible : q.Legible d) :
    d.TellsSelect q := by
  obtain ⟨table, columns, distinct, wheres, joins, groups, havings, orders, limit, offset,
    assignments, insertColumns, insertRows, bindings⟩ := q
  refine tells_select_of_predicates hd legible fun c hc => ?_
  rcases List.mem_append.1 hc with h | h
  · exact tells_predicates hd wheres
      (fun c hc => legible.predicate (List.mem_append_left _ hc)) c h
  · exact tells_predicates hd havings
      (fun c hc => legible.predicate (List.mem_append_right _ hc)) c h

/-- The predicates of legible clauses are told. -/
theorem tells_predicates (hd : d.Readable) (cs : List (Clause Query))
    (legible : ∀ c ∈ cs, c.predicate.Legible d) : ∀ c ∈ cs, d.TellsPredicate c.predicate := by
  match cs with
  | [] => simp
  | ⟨connector, p⟩ :: rest =>
    rw [List.forall_mem_cons] at legible ⊢
    exact ⟨tells_predicate hd p legible.1, tells_predicates hd rest legible.2⟩

/-- A legible predicate is told by its text, whatever follows. -/
theorem tells_predicate (hd : d.Readable) (p : Predicate Query) (legible : p.Legible d) :
    d.TellsPredicate p := by
  refine tells_predicate_of_child hd legible fun child hchild => ?_
  match p with
  | .amongSelect column select negated =>
    obtain rfl : select = child := Option.some.inj hchild
    exact tells_select hd select (legible.child select rfl)

end

/-- **The text of a select is unambiguous.** In both dialects that settings can name, take two
queries that join nothing and have plain names only, at every depth of their sub-selects. If their
selects have the same text then the queries have the same shape: the same columns, table, grouping,
order and page, and clause by clause the same connectors, columns, operators, negations and numbers
of values, with sub-selects of the same shape. -/
theorem shape_eq_of_select_eq (name : DialectName) {q q' : Query}
    (legible : q.Legible name.dialect) (legible' : q'.Legible name.dialect)
    (same : name.dialect.select q = name.dialect.select q') : q.shape = q'.shape := by
  have told := tells_select name.readable q legible
  exact (told q' legible' "" "" (.inl rfl) (.inl rfl) (by rw [same])).1

/-- A sub-select whose names look like the text around them. -/
def hostileChild (n : Int64) : Query :=
  (Query.ofTable "v, `w").whereEq "c) AND `d" (.int n)

/-- A query whose names look like the text around them, comparing with a number. -/
def hostileSelect (n : Int64) : Query :=
  ((Query.ofTable "t` WHERE `x").whereEq "a` = ? OR `b" (.int n)).addWhere .or
    (.amongSelect "u.*.`" (hostileChild n) true)

/-- The names of the query are plain. -/
theorem legible_hostileSelect (n : Int64) :
    (hostileSelect n).Legible DialectName.mysql.dialect := by
  have child : (hostileChild n).Legible DialectName.mysql.dialect := by
    refine Query.legible_of_children ⟨rfl, ?_⟩ fun c hc child hchild => ?_
    · show ∀ name ∈ ["v, `w", "c) AND `d"], DialectName.mysql.dialect.Plain name
      decide
    · obtain rfl := List.mem_singleton.1 hc
      cases hchild
  refine Query.legible_of_children ⟨rfl, ?_⟩ fun c hc inner hinner => ?_
  · show ∀ name ∈ ["t` WHERE `x", "a` = ? OR `b", "u.*.`"], DialectName.mysql.dialect.Plain name
    decide
  · rcases List.mem_cons.1 hc with rfl | hc
    · cases hinner
    · obtain rfl := List.mem_singleton.1 hc
      obtain rfl : hostileChild n = inner := Option.some.inj hinner
      exact child

/-- The text of the query tells its shape, whichever number it compares with. -/
theorem shape_hostileSelect :
    (hostileSelect 1).Legible DialectName.mysql.dialect ∧
      (hostileSelect 2).Legible DialectName.mysql.dialect ∧
      DialectName.mysql.dialect.select (hostileSelect 1) =
        "SELECT * FROM `t`` WHERE ``x` WHERE `a`` = ? OR ``b` = ? OR `u`.*.```` NOT IN " ++
          "(SELECT * FROM `v, ``w` WHERE `c) AND ``d` = ?)" ∧
      DialectName.mysql.dialect.select (hostileSelect 1) =
        DialectName.mysql.dialect.select (hostileSelect 2) ∧
      (hostileSelect 1).shape = (hostileSelect 2).shape := by
  have same : DialectName.mysql.dialect.select (hostileSelect 1) =
      DialectName.mysql.dialect.select (hostileSelect 2) := by rfl
  exact ⟨legible_hostileSelect 1, legible_hostileSelect 2, by rfl, same,
    shape_eq_of_select_eq .mysql (legible_hostileSelect 1) (legible_hostileSelect 2) same⟩

end Dialect

end SqlMapper
