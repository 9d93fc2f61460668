import SqlMapper.Entity.Relation
import SqlMapper.Proofs.Rendering.Listening
import SqlMapper.Proofs.Rendering.SubSelects

/-!
# Where nulls are bound

A comparison with null is true of no row, so building a query turns it into a null check, through
whatever door it comes. What a caller, its listeners, enhancers and relations can make of queries is
`Query.Arises`; all of it is built (`Query.Arises.built`), and nothing that is built compares with
null at any depth (`Query.Built.comparesNoNull`). Every value that the conditions of a statement
bind belongs to one predicate (`Query.conditionSources`, `Query.Built.map_conditionSources`). So a
null among them is an element of a list: `Query.Arises.nulls_in_lists`.
-/

namespace SqlMapper

/-- Whether a predicate compares a column with null. -/
def Predicate.comparesNull {σ : Type} : Predicate σ → Bool
  | .compare _ _ value => value.isNull
  | _ => false

/-- Nothing that was normalized compares with null. -/
theorem Predicate.comparesNull_normalize {σ : Type} (p : Predicate σ) :
    p.normalize.comparesNull = false := by
  cases p with
  | compare column operator value =>
    cases h : value.isNull <;> simp [normalize, comparison, comparesNull, h]
  | _ => rfl

/-- The ways in which a caller gives a comparison of a column with a value, for conditions on rows
and for those on groups. -/
inductive Refinement.Compares (connector : Connector) (column : String) (operator : Operator)
    (value : Value) : Section → Refinement → Prop where
  /-- As a condition on rows, by the function that makes comparisons. -/
  | rows : Compares connector column operator value .rows
      (.where_ connector (.comparison column operator value))
  /-- As a condition on rows, made directly. -/
  | rowsDirectly : Compares connector column operator value .rows
      (.where_ connector (.compare column operator value))
  /-- As a condition on rows, with the operator as text. -/
  | rowsText (text : String) (h : Operator.ofText text = .ok operator) :
      Compares connector column operator value .rows (.whereText connector column text value)
  /-- As a condition on groups, by the function that makes comparisons. -/
  | groups : Compares connector column operator value .groups
      (.having connector (.comparison column operator value))
  /-- As a condition on groups, made directly. -/
  | groupsDirectly : Compares connector column operator value .groups
      (.having connector (.compare column operator value))
  /-- As a condition on groups, with the operator as text. -/
  | groupsText (text : String) (h : Operator.ofText text = .ok operator) :
      Compares connector column operator value .groups (.havingText connector column text value)

/-! ## Values and their predicates -/

mutual

/-- The values that the conditions of a select bind, in the order of their placeholders, each with
the predicate that it belongs to. -/
def Query.sources : Query → List (Predicate Query × Value)
  | { wheres, havings, .. } => clausesSources wheres ++ clausesSources havings

/-- The values that clauses bind, each with its predicate. -/
def clausesSources : List (Clause Query) → List (Predicate Query × Value)
  | [] => []
  | ⟨_, p⟩ :: rest => predicateSources p ++ clausesSources rest

/-- The values that a predicate binds, each with its predicate. Those of a sub-select belong to the
predicates inside it. -/
def predicateSources : Predicate Query → List (Predicate Query × Value)
  | .compare column operator value => [(.compare column operator value, value)]
  | .nullCheck _ _ => []
  | .among column values negated => values.map fun value => (.among column values negated, value)
  | .amongSelect _ select _ => select.sources

end

namespace Query

/-- The values that the conditions of a statement bind, each with its predicate. -/
def conditionSources (q : Query) (kind : StatementKind) : List (Predicate Query × Value) :=
  kind.sections.flatMap fun s => clausesSources (q.clausesOf s)

/-- The values that a statement binds before those of its conditions: what it writes. -/
def writtenValues (q : Query) : StatementKind → List Value
  | .insert | .insertMany => q.bindings.inserts
  | .update => q.bindings.updates
  | _ => []

/-- No predicate of a query compares with null, nor does one of its sub-selects, at any depth. -/
def ComparesNoNull (q : Query) : Prop :=
  ∀ inner : Query, inner.Within q → ∀ c ∈ inner.wheres ++ inner.havings,
    c.predicate.comparesNull = false

end Query

section Sources

variable (d : Dialect)

mutual

/-- The values with their predicates are those that the rendering of a select shows. -/
theorem Query.map_sources (q : Query) :
    q.sources.map Prod.snd = (Rendering.ofSelect d q).values := by
  obtain ⟨table, columns, distinct, wheres, joins, groups, havings, orders, limit, offset,
    assignments, insertColumns, insertRows, bindings⟩ := q
  rw [Query.sources, List.map_append, map_clausesSources wheres, map_clausesSources havings,
    Rendering.values_ofSelect]

/-- The values with their predicates are those that the rendering of clauses shows. -/
theorem map_clausesSources (cs : List (Clause Query)) :
    (clausesSources cs).map Prod.snd = (Rendering.ofClauses d cs).values := by
  match cs with
  | [] => rfl
  | ⟨connector, p⟩ :: rest =>
    rw [clausesSources, List.map_append, map_predicateSources p, map_clausesSources rest,
      Rendering.values_ofClauses, Rendering.values_ofClauses, List.flatMap_cons]

/-- The values with their predicates are those that the rendering of a predicate shows. -/
theorem map_predicateSources (p : Predicate Query) :
    (predicateSources p).map Prod.snd = (Rendering.ofPredicate d p).values := by
  match p with
  | .compare column operator value => rfl
  | .nullCheck column negated => rfl
  | .among column values negated =>
    have own : (predicateSources (.among column values negated)).map Prod.snd = values := by
      rw [predicateSources, List.map_map]
      exact List.map_id values
    rw [own]
    exact (Query.values_ofPredicate d (p := .among column values negated) nofun).symm
  | .amongSelect column select negated =>
    rw [predicateSources, Query.map_sources select, Rendering.ofPredicate, Rendering.values_literal,
      Rendering.values_append, Rendering.values_literal, Rendering.values_nil, List.append_nil]

end

end Sources

/-! ## What can be made of queries -/

namespace Query

variable {q next : Query}

/-- A query that has only clauses of another one and normalized predicates compares nothing with
null if that one does not, and if neither do the sub-selects of these predicates. -/
theorem ComparesNoNull.grow (h : q.ComparesNoNull)
    (clauses : ∀ c ∈ next.wheres ++ next.havings, c ∈ q.wheres ++ q.havings ∨
      ∃ p : Predicate Query, c.predicate = p.normalize ∧
        ∀ child, p.child? = some child → child.ComparesNoNull) : next.ComparesNoNull := by
  intro inner hinner
  rcases hinner.outermost with rfl | ⟨c, hc, child, hchild, hinside⟩
  · intro c hc
    rcases clauses c hc with old | ⟨p, hp, -⟩
    · exact h q (.refl q) c old
    · rw [hp]
      exact p.comparesNull_normalize
  · rcases clauses c hc with old | ⟨p, hp, children⟩
    · exact h inner (hinside.trans (.child (.refl q) old hchild))
    · rw [hp, Predicate.child?_normalize] at hchild
      exact children child hchild inner hinside

/-- A change compares nothing with null, if the sub-select it brings in does not. -/
theorem ComparesNoNull.change {step : Refinement} (h : q.ComparesNoNull) (c : Change q step next)
    (children : ∀ child, Refinement.child? step = some child → child.ComparesNoNull) :
    next.ComparesNoNull := by
  cases c with
  | rows connector p child _ _ =>
    refine h.grow fun c hc => ?_
    simp only [addWhere, List.mem_append, List.mem_singleton] at hc ⊢
    rcases hc with (old | rfl) | old
    · exact .inl (.inl old)
    · exact .inr ⟨p, rfl, fun select hselect => children select (child select hselect)⟩
    · exact .inl (.inr old)
  | groups connector p child _ _ =>
    refine h.grow fun c hc => ?_
    simp only [addHaving, List.mem_append, List.mem_singleton] at hc ⊢
    rcases hc with old | old | rfl
    · exact .inl (.inl old)
    · exact .inl (.inr old)
    · exact .inr ⟨p, rfl, fun select hselect => children select (child select hselect)⟩
  | updates values _ _ => exact h.grow fun c hc => .inl hc
  | inserts rows next staged _ _ =>
    obtain ⟨_, rfl⟩ := stageInsert_eq_ok staged
    exact h.grow fun c hc => .inl hc
  | rest next wheres havings _ _ _ _ _ _ =>
    exact h.grow fun c hc => .inl (by rwa [wheres, havings] at hc)

/-- Nothing that is built compares with null, at any depth. -/
theorem Built.comparesNoNull (h : Built q) : q.ComparesNoNull := by
  induction h with
  | fresh table =>
    intro inner hinner c hc
    obtain rfl := eq_ofTable_of_within hinner
    exact absurd hc List.not_mem_nil
  | step step _ _ refined ih children => exact ih.change (change_of_refine refined) children

/-- The queries that come up: fresh ones, what steps of building make of others, what listeners
leave of them and ask for in their stead, what the enhancers of a model make of a selection, and the
selection of a relation. Listeners and enhancers, those of the caller too, take steps of
building. -/
inductive Arises : Query → Prop where
  /-- A fresh query. -/
  | fresh (table : String) : Arises (ofTable table)
  /-- A step of building, whose sub-select came up before. -/
  | step {q next : Query} (step : Refinement) (arises : Arises q)
      (children : ∀ child, Refinement.child? step = some child → Arises child)
      (refined : q.refine step = .ok next) : Arises next
  /-- What the listeners of a moment leave. -/
  | dispatched {σ ℓ : Type} {hear : Hearing (StateM σ) ℓ} (builds : Listener.BuildsWith hear)
      (kind : EventKind) (op : Operation ℓ) (s : σ) (arises : Arises op.query) :
      Arises ((dispatch hear kind op).run s).1.2.query
  /-- What the listeners of a moment ask for in the stead of an operation. -/
  | requested {σ ℓ : Type} {hear : Hearing (StateM σ) ℓ} (builds : Listener.BuildsWith hear)
      (kind : EventKind) (op : Operation ℓ) (s : σ) (arises : Arises op.query)
      {report : Report ℓ} (reported : ((dispatch hear kind op).run s).1.1 = .ok report)
      {sub : Substitute ℓ} (asked : sub ∈ report.substitutes) : Arises sub.operation.query
  /-- What the enhancers of a model make of a selection. -/
  | enhanced {m : Type → Type} [Monad m] {ℓ α : Type} (model : Model m ℓ α) (store : Store m ℓ)
      (s : Selection ℓ) (builds : ∀ e ∈ s.enhancers model store, ∀ op : Operation (Listener ℓ),
        op.query.LeadsTo (e.enhance model.schema op).query)
      (arises : Arises s.operation.query) : Arises (s.toOperation model store).query
  /-- The selection of a relation. -/
  | related {m : Type → Type} {ℓ α : Type} (keys : RelationKeys) (model : Model m ℓ α)
      (parent : ColumnValues) {s : Selection ℓ}
      (selected : keys.selection model parent = .ok (some s)) : Arises s.operation.query

/-- Steps of building lead from a built query to a built query. -/
theorem LeadsTo.built (h : q.LeadsTo next) (hq : Built q) : Built next := by
  obtain ⟨steps, rfl, children⟩ := h
  exact hq.refineEach steps children

/-- What listeners leave and what they ask for is built, if the query that they are shown is. -/
theorem Built.dispatch {σ ℓ : Type} {hear : Hearing (StateM σ) ℓ} (h : Listener.BuildsWith hear)
    (kind : EventKind) {op : Operation ℓ} (hop : Built op.query) :
    Ensures (fun _ => True) (SqlMapper.dispatch hear kind op) (fun result _ =>
      Built result.2.query ∧ ∀ report, result.1 = .ok report →
        ∀ sub ∈ report.substitutes, Built sub.operation.query) := by
  have none_queued : ∀ sub ∈ ([] : List (Substitute ℓ)), op.query.LeadsTo sub.operation.query :=
    nofun
  have all := leadsTo_dispatchTo h kind op.events.policy (op.events.registeredFor kind)
    (.refl op.query) none_queued []
  refine Ensures.mono all fun result _ hresult => ?_
  exact ⟨hresult.1.built hop, fun report hreport sub hsub =>
    (hresult.2 report hreport sub hsub).built hop⟩

/-- Enhancers one after another take steps of building. -/
theorem leadsTo_foldl_enhance {m : Type → Type} {ℓ : Type} (schema : Schema)
    (es : List (Enhancer m ℓ)) (h : ∀ e ∈ es, ∀ op : Operation (Listener ℓ),
      op.query.LeadsTo (e.enhance schema op).query) (op : Operation (Listener ℓ)) :
    op.query.LeadsTo (es.foldl (fun op e => e.enhance schema op) op).query := by
  induction es generalizing op with
  | nil => exact .refl op.query
  | cons e rest ih =>
    rw [List.forall_mem_cons] at h
    exact (h.1 op).trans (ih h.2 (e.enhance schema op))

/-- Everything that comes up is built. -/
theorem Arises.built (h : q.Arises) : Built q := by
  induction h with
  | fresh table => exact .fresh table
  | step step _ _ refined ih children => exact .step step ih children refined
  | dispatched builds kind op s _ ih => exact (ih.dispatch builds kind s trivial).1
  | requested builds kind op s _ reported asked ih =>
    exact (ih.dispatch builds kind s trivial).2 _ reported _ asked
  | enhanced model store s builds _ ih =>
    exact (leadsTo_foldl_enhance model.schema (s.enhancers model store) builds s.operation).built ih
  | related keys model parent selected =>
    rw [RelationKeys.selection] at selected
    split at selected
    · cases selected
    · split at selected
      · cases selected
      · cases selected
        exact .step (.where_ .and (.comparison _ .eq _)) (.fresh model.schema.table)
          (fun child hchild => by simp at hchild) rfl

/-! ## Nulls that are bound -/

/-- A predicate in a clause of a query, at any depth, binds a value itself and not through a
sub-select. -/
def Binds (q : Query) (p : Predicate Query) (value : Value) : Prop :=
  p.child? = none ∧ value ∈ predicateValues p ∧ ∃ inner : Query, inner.Within q ∧
    ∃ c ∈ inner.wheres ++ inner.havings, c.predicate = p

/-- What the sub-select of a clause binds, the query binds. -/
theorem Binds.of_child {child : Query} {p : Predicate Query} {value : Value}
    (h : child.Binds p value) {c : Clause Query} (hc : c ∈ q.wheres ++ q.havings)
    (hchild : c.predicate.child? = some child) : q.Binds p value := by
  obtain ⟨own, bound, inner, hinner, standing⟩ := h
  exact ⟨own, bound, inner, hinner.trans (.child (.refl q) hc hchild), standing⟩

end Query

mutual

/-- The sources of a select are values with predicates in its clauses that bind them. -/
theorem Query.binds_of_mem_sources (q : Query) {source : Predicate Query × Value}
    (h : source ∈ q.sources) : q.Binds source.1 source.2 := by
  obtain ⟨table, columns, distinct, wheres, joins, groups, havings, orders, limit, offset,
    assignments, insertColumns, insertRows, bindings⟩ := q
  rw [Query.sources] at h
  rcases List.mem_append.1 h with h | h
  · exact binds_of_mem_clausesSources wheres (fun c hc => List.mem_append_left _ hc) h
  · exact binds_of_mem_clausesSources havings (fun c hc => List.mem_append_right _ hc) h

/-- The sources of clauses of a query are values with predicates that bind them. -/
theorem binds_of_mem_clausesSources (cs : List (Clause Query)) {q : Query}
    (clauses : ∀ c ∈ cs, c ∈ q.wheres ++ q.havings) {source : Predicate Query × Value}
    (h : source ∈ clausesSources cs) : q.Binds source.1 source.2 := by
  match cs with
  | [] => exact absurd h List.not_mem_nil
  | ⟨connector, p⟩ :: rest =>
    rw [List.forall_mem_cons] at clauses
    rw [clausesSources] at h
    rcases List.mem_append.1 h with h | h
    · exact binds_of_mem_predicateSources p clauses.1 h
    · exact binds_of_mem_clausesSources rest clauses.2 h

/-- The sources of a predicate of a query are values with predicates that bind them. -/
theorem binds_of_mem_predicateSources (p : Predicate Query) {q : Query} {connector : Connector}
    (clause : ⟨connector, p⟩ ∈ q.wheres ++ q.havings) {source : Predicate Query × Value}
    (h : source ∈ predicateSources p) : q.Binds source.1 source.2 := by
  match p with
  | .compare column operator value =>
    obtain rfl := List.mem_singleton.1 h
    exact ⟨rfl, List.mem_singleton_self value, q, .refl q, _, clause, rfl⟩
  | .nullCheck column negated => exact absurd h List.not_mem_nil
  | .among column values negated =>
    obtain ⟨value, hvalue, rfl⟩ := List.mem_map.1 h
    exact ⟨rfl, hvalue, q, .refl q, _, clause, rfl⟩
  | .amongSelect column select negated =>
    rw [predicateSources] at h
    exact (Query.binds_of_mem_sources select h).of_child clause rfl

end

namespace Query

variable {q : Query}

/-- If nothing compares with null, then a predicate that binds null is a list with null in it. -/
theorem ComparesNoNull.among_of_binds (h : q.ComparesNoNull) {p : Predicate Query}
    (bound : q.Binds p .null) : ∃ column values negated,
      p = .among column values negated ∧ Value.null ∈ values := by
  obtain ⟨own, hnull, inner, hinner, c, hc, rfl⟩ := bound
  have compares := h inner hinner c hc
  cases hp : c.predicate with
  | compare column operator value =>
    rw [hp] at compares hnull
    obtain rfl := List.mem_singleton.1 hnull
    cases compares
  | nullCheck column negated => simp [hp, predicateValues] at hnull
  | among column values negated => exact ⟨column, values, negated, rfl, by rwa [hp] at hnull⟩
  | amongSelect column select negated => simp [hp, Predicate.child?] at own

/-- The sources of the conditions of a statement are in clauses of the query. -/
theorem binds_of_mem_conditionSources {kind : StatementKind} {source : Predicate Query × Value}
    (h : source ∈ q.conditionSources kind) : q.Binds source.1 source.2 := by
  obtain ⟨s, -, hs⟩ := List.mem_flatMap.1 h
  refine binds_of_mem_clausesSources (q.clausesOf s) (fun c hc => ?_) hs
  cases s with
  | rows => exact List.mem_append_left _ hc
  | groups => exact List.mem_append_right _ hc
  | insert | update => exact absurd hc List.not_mem_nil

/-- A statement of a built query binds what it writes, and then the values of its conditions, each
belonging to a predicate. -/
theorem Built.map_conditionSources (h : Built q) (kind : StatementKind) :
    q.bindingsFor kind = q.writtenValues kind ++ (q.conditionSources kind).map Prod.snd := by
  have rows : (clausesSources q.wheres).map Prod.snd = q.bindings.wheres :=
    (map_clausesSources .mysql q.wheres).trans (h.paired.rows .mysql)
  have groups : (clausesSources q.havings).map Prod.snd = q.bindings.havings :=
    (map_clausesSources .mysql q.havings).trans (h.paired.groups .mysql)
  cases kind <;>
    simp [bindingsFor, Bindings.forStatement, StatementKind.sections, Bindings.valuesOf,
      conditionSources, writtenValues, clausesOf, clausesSources, rows, groups]

/-- A comparison with null that is given as a condition becomes a null check, negated for the two
inequalities. No value is bound for it. -/
theorem refine_compares_null {s : Section} {step : Refinement} {connector : Connector}
    {column : String} {operator : Operator}
    (h : Refinement.Compares connector column operator .null s step) (q : Query) :
    ∃ next, q.refine step = .ok next ∧ next.bindings = q.bindings ∧
      next.clausesOf s =
        q.clausesOf s ++ [⟨connector, .nullCheck column operator.isInequality⟩] := by
  have rows : (q.bindings.append .rows []) = q.bindings := by simp [Bindings.append]
  have groups : (q.bindings.append .groups []) = q.bindings := by simp [Bindings.append]
  cases h with
  | rows | rowsDirectly => exact ⟨_, rfl, rows, rfl⟩
  | groups | groupsDirectly => exact ⟨_, rfl, groups, rfl⟩
  | rowsText text known => exact ⟨_, by rw [refine, known]; rfl, rows, rfl⟩
  | groupsText text known => exact ⟨_, by rw [refine, known]; rfl, groups, rfl⟩

/-- The text of the null check that stands for a comparison with null. It has no placeholder. -/
theorem ofPredicate_nullCheck (d : Dialect) (column : String) (operator : Operator) :
    Rendering.ofPredicate d (.nullCheck column operator.isInequality) =
      [.literal (d.wrap column ++
        if operator = .ne ∨ operator = .notEq then " IS NOT NULL" else " IS NULL")] := by
  have inequality : operator.isInequality = decide (operator = .ne ∨ operator = .notEq) := by
    cases operator <;> rfl
  rw [Rendering.ofPredicate, inequality, String.append_assoc, String.append_assoc]
  by_cases h : operator = .ne ∨ operator = .notEq
  · rw [if_pos h, decide_eq_true h]
    rfl
  · rw [if_neg h, decide_eq_false h]
    rfl

/-- **Null is bound as an element of a list only.** No predicate of a query that comes up compares
with null, at any depth. Whatever statement is made of the query, it binds what it writes and then
the values of its conditions, each of them belonging to a predicate inside the query; and where such
a value is null, the predicate is a list and null is one of its elements. A comparison with null
that is given to the query, in any of the six ways, binds nothing, and all that stands for it in a
statement is a null check, negated for the two inequalities. -/
theorem Arises.nulls_in_lists (h : q.Arises) :
    q.ComparesNoNull ∧
      (∀ kind : StatementKind,
        q.bindingsFor kind = q.writtenValues kind ++ (q.conditionSources kind).map Prod.snd ∧
        ∀ source ∈ q.conditionSources kind, q.Binds source.1 source.2 ∧
          (source.2 = .null → ∃ column values negated,
            source.1 = .among column values negated ∧ Value.null ∈ values)) ∧
      ∀ s step connector column operator,
        Refinement.Compares connector column operator .null s step →
        ∃ next p, q.refine step = .ok next ∧ next.bindings = q.bindings ∧
          next.clausesOf s = q.clausesOf s ++ [⟨connector, p⟩] ∧
          ∀ d : Dialect, Rendering.ofPredicate d p = [.literal (d.wrap column ++
            if operator = .ne ∨ operator = .notEq then " IS NOT NULL" else " IS NULL")] := by
  have clean := h.built.comparesNoNull
  refine ⟨clean, fun kind => ⟨h.built.map_conditionSources kind, fun source hsource => ?_⟩, ?_⟩
  · have bound := binds_of_mem_conditionSources hsource
    exact ⟨bound, fun hnull => clean.among_of_binds (hnull ▸ bound)⟩
  · intro s step connector column operator compares
    obtain ⟨next, refined, unbound, shown⟩ := refine_compares_null compares q
    exact ⟨next, _, refined, unbound, shown, fun d => ofPredicate_nullCheck d column operator⟩

/-- Conditions on notes: a comparison with null that is made directly, and a list with null in it
that stands in a sub-select. -/
def nullSteps : List Refinement :=
  [.where_ .and (.compare "owner" .notEq .null),
    .where_ .and (.amongSelect "id"
      ((ofTable "tags").addWhere .and (.among "kind" [.int 1, .null] false)) false)]

/-- A delete with these conditions binds the null of the list, and no other one. -/
theorem nulls_in_lists_nullSteps :
    let q := (ofTable "notes").refineEach nullSteps
    Dialect.mysql.compile .delete q = .ok ("DELETE FROM `notes` WHERE `owner` IS NOT NULL AND " ++
        "`id` IN (SELECT * FROM `tags` WHERE `kind` IN (?, ?))") ∧
      q.bindingsFor .delete = [.int 1, .null] ∧ q.ComparesNoNull := by
  have tags : Arises ((ofTable "tags").addWhere .and (.among "kind" [.int 1, .null] false)) :=
    .step (.where_ .and (.among "kind" [.int 1, .null] false)) (.fresh "tags") nofun rfl
  have owned : Arises ((ofTable "notes").addWhere .and (.compare "owner" .notEq .null)) :=
    .step (.where_ .and (.compare "owner" .notEq .null)) (.fresh "notes") nofun rfl
  have notes : Arises ((ofTable "notes").refineEach nullSteps) := by
    refine .step (.where_ .and (.amongSelect "id" _ false)) owned ?_ rfl
    rintro child ⟨⟩
    exact tags
  exact ⟨by rfl, by rfl, notes.nulls_in_lists.1⟩

end Query

end SqlMapper
