import SqlMapper.Proofs.Names.Quoting

/-!
# Names that are quoted already

A segment that was put between quote characters starts and ends with one and has two bytes at least,
so it is kept when it is written again, and the points between segments stay where they are. So a
name as it stands in a statement stays as it is (`Dialect.wrap_wrap`). Names in another spelling
that is written alike (`Dialect.Respells`) can be put in a query at every depth of sub-selects, and
it compiles to the same result (`Dialect.Respells.compile`).
-/

namespace SqlMapper

/-! ## Writing a name twice -/

namespace Identifier

/-- Every character has a byte at least. -/
theorem length_le_byteLength (cs : List Char) : cs.length ≤ byteLength cs := by
  induction cs with
  | nil => exact Nat.le_refl 0
  | cons c rest ih =>
    have first := c.utf8Size_pos
    rw [List.length_cons, byteLength, List.foldr_cons, ← byteLength]
    omega

/-- What was put between quote characters starts with one and ends with another one. -/
theorem isEnclosed_enclose (quote : Char) (segment : List Char) :
    isEnclosed quote (enclose quote segment) = true := by
  have bytes : 2 ≤ byteLength (enclose quote segment) := by
    refine Nat.le_trans ?_ (length_le_byteLength _)
    simp [enclose]
  have last : (enclose quote segment).getLast? = some quote := by
    rw [enclose, ← List.cons_append, List.getLast?_concat]
  rw [isEnclosed, decide_eq_true bytes, last, enclose, List.head?_cons, beq_self_eq_true]
  rfl

/-- A segment as it stands in a statement is kept. -/
theorem wrapSegment_wrapSegment (quote : Char) (segment : List Char) :
    wrapSegment quote (wrapSegment quote segment) = wrapSegment quote segment := by
  by_cases kept : segment = ['*'] ∨ isEnclosed quote segment = true
  · have same : wrapSegment quote segment = segment := if_pos kept
    rw [same, same]
  · have enclosed : wrapSegment quote segment = enclose quote segment := if_neg kept
    rw [enclosed]
    exact if_pos (.inr (isEnclosed_enclose quote segment))

/-- A name as it stands in a statement stays as it is. -/
theorem wrap_wrap {quote : Char} (hquote : quote ≠ '.') (name : List Char) :
    wrap quote (wrap quote name) = wrap quote name := by
  have kept : wrapSegment quote ∘ wrapSegment quote = wrapSegment quote :=
    funext (wrapSegment_wrapSegment quote)
  rw [wrap_eq_intercalate quote (wrap quote name), splitAt_wrap hquote, List.map_map, kept,
    ← wrap_eq_intercalate]

end Identifier

namespace Dialect

variable {d : Dialect}

/-- A name as it stands in a statement stays as it is. -/
theorem wrap_wrap (hquote : d.quote ≠ '.') (name : String) : d.wrap (d.wrap name) = d.wrap name := by
  simp only [wrap, String.toList_ofList, Identifier.wrap_wrap hquote]

/-- Something is written for every name. -/
theorem wrap_ne_empty (hquote : d.quote ≠ '.') (name : String) : d.wrap name ≠ "" := by
  intro empty
  -- the empty name is written as two quote characters
  have quotes : d.wrap "" = String.ofList [d.quote, d.quote] := rfl
  rw [← empty, wrap_wrap hquote, empty] at quotes
  simpa using congrArg String.toList quotes

end Dialect

/-! ## Names in another spelling -/

/-- The columns under other names. -/
def ColumnValues.rename (f : String → String) (cv : ColumnValues) : ColumnValues :=
  ⟨cv.entries.map fun entry => (f entry.1, entry.2)⟩

mutual

/-- A query with other names, at every depth. A missing table stays missing, and joins stay as they
are, since their names stand in a statement as they are given. -/
def Query.rename (f : String → String) : Query → Query
  | { table, columns, distinct, wheres, joins, groups, havings, orders, limit, offset, assignments,
      insertColumns, insertRows, bindings } =>
    { table := if table = "" then "" else f table
      columns := columns.map f
      distinct, joins, limit, offset, insertRows, bindings
      wheres := renameClauses f wheres
      groups := groups.map f
      havings := renameClauses f havings
      orders := orders.map fun o => { o with column := f o.column }
      assignments := assignments.map f
      insertColumns := insertColumns.map f }

/-- Clauses with other names. -/
def renameClauses (f : String → String) : List (Clause Query) → List (Clause Query)
  | [] => []
  | ⟨connector, p⟩ :: rest => ⟨connector, renamePredicate f p⟩ :: renameClauses f rest

/-- A predicate with other names. -/
def renamePredicate (f : String → String) : Predicate Query → Predicate Query
  | .compare column operator value => .compare (f column) operator value
  | .nullCheck column negated => .nullCheck (f column) negated
  | .among column values negated => .among (f column) values negated
  | .amongSelect column select negated => .amongSelect (f column) (select.rename f) negated

end

/-- A query with other names, part by part. -/
theorem Query.rename_eq (f : String → String) (q : Query) : q.rename f =
    { q with
      table := if q.table = "" then "" else f q.table
      columns := q.columns.map f
      wheres := renameClauses f q.wheres
      groups := q.groups.map f
      havings := renameClauses f q.havings
      orders := q.orders.map fun o => { o with column := f o.column }
      assignments := q.assignments.map f
      insertColumns := q.insertColumns.map f } := by
  cases q
  rw [rename]

/-- There are clauses with other names if there were some. -/
theorem isEmpty_renameClauses (f : String → String) (cs : List (Clause Query)) :
    (renameClauses f cs).isEmpty = cs.isEmpty := by
  cases cs <;> rfl

/-- Other names that are written alike. -/
structure Dialect.Respells (d : Dialect) (f : String → String) : Prop where
  /-- Every name is written as before. -/
  wrap : ∀ name, d.wrap (f name) = d.wrap name
  /-- No name is lost. -/
  ne_empty : ∀ name, name ≠ "" → f name ≠ ""

namespace Dialect.Respells

variable {d : Dialect} {f : String → String}

/-- Names that are as they were or as they stand in a statement are written alike. -/
theorem of_wrap (hquote : d.quote ≠ '.') (h : ∀ name, f name = name ∨ f name = d.wrap name) :
    d.Respells f where
  wrap name := by
    rcases h name with same | wrapped
    · rw [same]
    · rw [wrapped, wrap_wrap hquote]
  ne_empty name hname := by
    rcases h name with same | wrapped
    · rwa [same]
    · rw [wrapped]
      exact wrap_ne_empty hquote name

/-- A list of names is written alike. -/
theorem wrapAll (h : d.Respells f) (names : List String) :
    d.wrapAll (names.map f) = d.wrapAll names := by
  rw [Dialect.wrapAll, Dialect.wrapAll, List.map_map]
  exact congrArg _ (List.map_congr_left fun name _ => h.wrap name)

/-- A table is missing if it was missing. -/
theorem table_eq_empty (h : d.Respells f) (table : String) :
    ((if table = "" then "" else f table) == "") = (table == "") := by
  by_cases htable : table = ""
  · rw [if_pos htable, htable]
  · rw [if_neg htable, beq_false_of_ne htable, beq_false_of_ne (h.ne_empty table htable)]

/-- A table is written alike. -/
theorem wrap_table (h : d.Respells f) (table : String) :
    d.wrap (if table = "" then "" else f table) = d.wrap table := by
  split
  · next htable => rw [htable]
  · exact h.wrap table

/-- The parts of a select that are put together read the same, if its conditions do. -/
theorem assemble (h : d.Respells f) (q : Query) (wheres havings : String) :
    d.assemble (q.rename f) wheres havings = d.assemble q wheres havings := by
  have order (o : Ordering) : d.orderText { o with column := f o.column } = d.orderText o := by
    rw [orderText, orderText, h.wrap]
  have parts : d.partText (q.rename f) wheres havings = d.partText q wheres havings := by
    funext p
    rw [Query.rename_eq]
    cases p with
    | columns => simp only [partText, List.isEmpty_map, h.wrapAll]
    | from_ => simp only [partText, h.table_eq_empty, h.wrap_table]
    | wheres => simp only [partText, isEmpty_renameClauses]
    | groups => simp only [partText, List.isEmpty_map, h.wrapAll]
    | havings => simp only [partText, isEmpty_renameClauses]
    | orders => simp only [partText, List.isEmpty_map, List.map_map, Function.comp_def, order]
    | joins | limit | offset => rfl
  rw [Dialect.assemble, Dialect.assemble, parts]

mutual

/-- A select reads the same. -/
theorem select (h : d.Respells f) (q : Query) : d.select (q.rename f) = d.select q := by
  obtain ⟨table, columns, distinct, wheres, joins, groups, havings, orders, limit, offset,
    assignments, insertColumns, insertRows, bindings⟩ := q
  have whole := h.assemble ⟨table, columns, distinct, wheres, joins, groups, havings, orders, limit,
    offset, assignments, insertColumns, insertRows, bindings⟩ (d.clauses wheres) (d.clauses havings)
  rw [Query.rename] at whole ⊢
  rw [Dialect.select, Dialect.select, clauses h wheres, clauses h havings, whole]

/-- Clauses read the same. -/
theorem clauses (h : d.Respells f) (cs : List (Clause Query)) :
    d.clauses (renameClauses f cs) = d.clauses cs := by
  match cs with
  | [] => rfl
  | ⟨_, first⟩ :: rest =>
    rw [renameClauses, Dialect.clauses, Dialect.clauses, predicate h first, connected h rest]

/-- Clauses that follow another one read the same. -/
theorem connected (h : d.Respells f) (cs : List (Clause Query)) :
    d.connected (renameClauses f cs) = d.connected cs := by
  match cs with
  | [] => rfl
  | ⟨_, next⟩ :: rest =>
    rw [renameClauses, Dialect.connected, Dialect.connected, predicate h next, connected h rest]

/-- A predicate reads the same. -/
theorem predicate (h : d.Respells f) (p : Predicate Query) :
    d.predicate (renamePredicate f p) = d.predicate p := by
  match p with
  | .compare column operator value =>
    rw [renamePredicate, Dialect.predicate, Dialect.predicate, h.wrap]
  | .nullCheck column negated =>
    rw [renamePredicate, Dialect.predicate, Dialect.predicate, h.wrap]
  | .among column values negated =>
    rw [renamePredicate, Dialect.predicate, Dialect.predicate, h.wrap]
  | .amongSelect column child negated =>
    rw [renamePredicate, Dialect.predicate, Dialect.predicate, h.wrap, select h child]

end

/-- The conditions at the end of a statement read the same. -/
theorem whereTail (h : d.Respells f) (q : Query) : d.whereTail (q.rename f) = d.whereTail q := by
  have part : d.part (q.rename f) .wheres = d.part q .wheres := by
    simp only [Dialect.part, partText, Query.rename_eq, isEmpty_renameClauses, clauses h]
  rw [Dialect.whereTail, Dialect.whereTail, part]

/-- An insert reads the same, or is refused alike. -/
theorem insert (h : d.Respells f) (q : Query) : d.insert (q.rename f) = d.insert q := by
  have tuple : d.rowTuple (q.rename f) = d.rowTuple q := by
    rw [rowTuple, rowTuple, Query.rename_eq, List.length_map]
  have staged : (q.rename f).bindingsFor .insert = q.bindingsFor .insert := by
    rw [Query.rename_eq]
    rfl
  rw [Dialect.insert, Dialect.insert, tuple, staged, Query.rename_eq]
  simp only [List.length_map, List.isEmpty_map, h.wrap_table, h.wrapAll]

/-- An update reads the same, or is refused alike. -/
theorem update (h : d.Respells f) (q : Query) : d.update (q.rename f) = d.update q := by
  have assignment (column : String) : d.assignmentText (f column) = d.assignmentText column := by
    rw [assignmentText, assignmentText, h.wrap]
  rw [Dialect.update, Dialect.update, h.whereTail]
  simp only [Query.rename_eq, List.isEmpty_map, List.map_map, Function.comp_def, assignment,
    h.wrap_table]

/-- A delete reads the same. -/
theorem delete (h : d.Respells f) (q : Query) : d.delete (q.rename f) = d.delete q := by
  rw [Dialect.delete, Dialect.delete, h.whereTail]
  simp only [Query.rename_eq, h.wrap_table]

/-- Every statement reads the same, or is refused alike. -/
theorem compile (h : d.Respells f) (q : Query) (kind : StatementKind) :
    d.compile kind (q.rename f) = d.compile kind q := by
  have table : ((q.rename f).table == "") = (q.table == "") := by
    rw [Query.rename_eq]
    exact h.table_eq_empty q.table
  have text : d.text (q.rename f) kind = d.text q kind := by
    cases kind with
    | select => exact congrArg Except.ok (select h q)
    | existence => rw [Dialect.text, Dialect.text, existence, existence, select h q]
    | insert => exact h.insert q
    | insertMany => exact h.insert q
    | update => exact h.update q
    | delete => exact congrArg Except.ok (h.delete q)
  rw [Dialect.compile, Dialect.compile, table, text]

end Dialect.Respells

end SqlMapper
