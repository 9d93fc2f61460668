import SqlMapper.Proofs.Query.Change
import SqlMapper.Proofs.Unambiguous.Names

/-!
# The shape of a select

What the text of a select is there to show is its shape: whether equal rows are returned once, the
columns, the table, the grouping, the order and the page, and the clauses one by one. Of a clause
these are the connector, unless it is the first one, the kind of the predicate with its column, its
operator and whether it is negated, the number of the values of a list and the shape of a sub-select
(`Query.shape`). No bound value is part of a shape, and an empty list is a condition that holds
always or never, whatever its column. `Query.Within` are the selects inside a query, at any depth;
`Query.Legible` asks of all of them that there are no joins and that all names are plain.
-/

namespace SqlMapper

/-- What the text of a predicate shows. -/
inductive PredicateShape (σ : Type) where
  /-- A comparison of a column. -/
  | compare (column : String) (operator : Operator)
  /-- A null check of a column. -/
  | nullCheck (column : String) (negated : Bool)
  /-- An empty list: the condition never holds, or always if it is negated. -/
  | constant (negated : Bool)
  /-- A list for a column, with the number of its values. -/
  | among (column : String) (count : Nat) (negated : Bool)
  /-- A sub-select for a column. -/
  | amongSelect (column : String) (select : σ) (negated : Bool)
deriving Inhabited

/-- What the text of a clause shows. -/
structure ClauseShape (σ : Type) where
  /-- The connector; nothing for a first clause. -/
  connector : Option Connector
  /-- The predicate. -/
  predicate : PredicateShape σ
deriving Inhabited

/-- What the text of a select shows. -/
structure SelectShape where
  /-- Whether equal rows are returned once. -/
  distinct : Bool
  /-- The selected columns. -/
  columns : List String
  /-- The table; empty when there is none. -/
  table : String
  /-- The conditions on rows. -/
  wheres : List (ClauseShape SelectShape)
  /-- The columns to group by. -/
  groups : List String
  /-- The conditions on groups. -/
  havings : List (ClauseShape SelectShape)
  /-- The columns to sort by, with their directions. -/
  orders : List Ordering
  /-- The largest number of rows. -/
  limit : Option Nat
  /-- The number of rows to skip. -/
  offset : Option Nat
deriving Inhabited

mutual

/-- The shape of a query. A query without columns selects the star alone. -/
def Query.shape : Query → SelectShape
  | { table, columns, distinct, wheres, groups, havings, orders, limit, offset, .. } =>
    { distinct, columns := if columns.isEmpty then ["*"] else columns, table, groups, orders,
      limit, offset, wheres := clausesShape wheres, havings := clausesShape havings }

/-- The shapes of clauses. The connector of the first one is left out. -/
def clausesShape : List (Clause Query) → List (ClauseShape SelectShape)
  | [] => []
  | ⟨_, first⟩ :: rest => ⟨none, predicateShape first⟩ :: connectedShape rest

/-- The shapes of clauses that follow another one. -/
def connectedShape : List (Clause Query) → List (ClauseShape SelectShape)
  | [] => []
  | ⟨connector, next⟩ :: rest => ⟨some connector, predicateShape next⟩ :: connectedShape rest

/-- The shape of a predicate. -/
def predicateShape : Predicate Query → PredicateShape SelectShape
  | .compare column operator _ => .compare column operator
  | .nullCheck column negated => .nullCheck column negated
  | .among column values negated =>
    if values.isEmpty then .constant negated else .among column values.length negated
  | .amongSelect column select negated => .amongSelect column select.shape negated

end

namespace Query

/-- The shape of a query, field by field. -/
theorem shape_eq (q : Query) : q.shape =
    { distinct := q.distinct, columns := if q.columns.isEmpty then ["*"] else q.columns,
      table := q.table, wheres := clausesShape q.wheres, groups := q.groups,
      havings := clausesShape q.havings, orders := q.orders, limit := q.limit,
      offset := q.offset } := by
  cases q
  rw [shape]

/-- The selects inside a query, at any depth, the query itself included. -/
inductive Within : Query → Query → Prop where
  /-- The query itself. -/
  | refl (q : Query) : Within q q
  /-- The sub-select of a clause. -/
  | child {q inner child : Query} {c : Clause Query} (inside : Within inner q)
      (clause : c ∈ inner.wheres ++ inner.havings) (select : c.predicate.child? = some child) :
      Within child q

/-- What is inside a select that is inside a query is inside the query. -/
theorem Within.trans {q inner innermost : Query} (h : innermost.Within inner)
    (hq : inner.Within q) : innermost.Within q := by
  induction h with
  | refl => exact hq
  | child _ clause select ih => exact .child (ih hq) clause select

/-- The names that the text of a query writes itself, without those of its sub-selects. -/
def names (q : Query) : List String :=
  q.table :: q.columns ++ (q.wheres ++ q.havings).map (fun c => c.predicate.column) ++ q.groups ++
    q.orders.map Ordering.column

/-- A query can be read back if, at every depth, nothing is joined and all names are plain. -/
def Legible (d : Dialect) (q : Query) : Prop :=
  ∀ inner : Query, inner.Within q → inner.joins = [] ∧ ∀ name ∈ inner.names, d.Plain name

/-- A legible query joins nothing. -/
theorem Legible.joins {d : Dialect} {q : Query} (h : q.Legible d) : q.joins = [] :=
  (h q (.refl q)).1

/-- The names of a legible query are plain. -/
theorem Legible.plain {d : Dialect} {q : Query} (h : q.Legible d) {name : String}
    (hname : name ∈ q.names) : d.Plain name :=
  (h q (.refl q)).2 name hname

/-- A sub-select of a legible query is legible. -/
theorem Legible.child {d : Dialect} {q child : Query} {c : Clause Query} (h : q.Legible d)
    (hc : c ∈ q.wheres ++ q.havings) (hchild : c.predicate.child? = some child) :
    child.Legible d :=
  fun inner hinner => h inner (hinner.trans (.child (.refl q) hc hchild))

/-- A select inside a query is the query or is inside one of its sub-selects. -/
theorem Within.outermost {q inner : Query} (h : inner.Within q) :
    inner = q ∨ ∃ c ∈ q.wheres ++ q.havings, ∃ child,
      c.predicate.child? = some child ∧ inner.Within child := by
  induction h with
  | refl => exact .inl rfl
  | @child q _ child c _ hc hchild ih =>
    rcases ih with rfl | ⟨c', hc', child', hchild', hinside⟩
    · exact .inr ⟨c, hc, child, hchild, .refl child⟩
    · exact .inr ⟨c', hc', child', hchild', .child hinside hc hchild⟩

/-- A query is legible if it is so itself and its sub-selects are. -/
theorem legible_of_children {d : Dialect} {q : Query}
    (own : q.joins = [] ∧ ∀ name ∈ q.names, d.Plain name)
    (children : ∀ c ∈ q.wheres ++ q.havings, ∀ child, c.predicate.child? = some child →
      child.Legible d) : q.Legible d := by
  intro inner hinner
  rcases hinner.outermost with rfl | ⟨c, hc, child, hchild, hinside⟩
  · exact own
  · exact children c hc child hchild inner hinside

end Query

end SqlMapper
