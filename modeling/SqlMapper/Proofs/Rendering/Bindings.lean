import SqlMapper.Proofs.Query.Staging
import SqlMapper.Proofs.Rendering.Select

/-!
# The sections of a built query

The values of a condition are bound at the moment the condition is added, and clauses are only ever
added at the end. So the section for conditions on rows holds the values that the rendering of these
conditions shows, from left to right, and likewise the section for conditions on groups
(`Query.Paired`). This holds of every query that can be built (`Query.Built.paired`). The induction
follows the building: a sub-select was built before the clause that holds it, its own two sections
are paired, and together they are what its select shows.
-/

namespace SqlMapper

namespace Query

/-- The sections for conditions hold the values that the conditions show. -/
structure Paired (q : Query) : Prop where
  rows : ∀ d, (Rendering.ofClauses d q.wheres).values = q.bindings.wheres
  groups : ∀ d, (Rendering.ofClauses d q.havings).values = q.bindings.havings

/-- A select of a paired query shows the values bound for it. -/
theorem Paired.values_ofSelect {q : Query} (h : q.Paired) (d : Dialect) :
    (Rendering.ofSelect d q).values = q.bindingsFor .select := by
  rw [Rendering.values_ofSelect, h.rows, h.groups]
  simp [bindingsFor, Bindings.forStatement, StatementKind.sections, Bindings.valuesOf]

/-- A predicate shows the values that are bound when it is added, if its sub-select is paired. -/
theorem values_ofPredicate (d : Dialect) {p : Predicate Query}
    (h : ∀ child, p.child? = some child → child.Paired) :
    (Rendering.ofPredicate d p).values = predicateValues p := by
  cases p with
  | compare column operator value => rfl
  | nullCheck column negated => rfl
  | among column values negated =>
    rw [Rendering.ofPredicate]
    cases hv : values with
    | nil => rfl
    | cons value rest =>
      rw [List.isEmpty_cons, if_neg Bool.false_ne_true, Rendering.values_literal,
        Rendering.values_append, Rendering.values_join, List.flatMap_map]
      simp [predicateValues]
  | amongSelect column child negated =>
    rw [Rendering.ofPredicate, Rendering.values_literal, Rendering.values_append,
      (h child rfl).values_ofSelect d, Rendering.values_literal, Rendering.values_nil, List.append_nil]
    rfl

/-- A clause added at the end shows the values of its predicate after those before. -/
theorem values_ofClauses_concat (d : Dialect) (cs : List (Clause Query)) (c : Clause Query) :
    (Rendering.ofClauses d (cs ++ [c])).values =
      (Rendering.ofClauses d cs).values ++ (Rendering.ofPredicate d c.predicate).values := by
  simp only [Rendering.values_ofClauses, List.flatMap_append, List.flatMap_cons, List.flatMap_nil,
    List.append_nil]

/-- A fresh query is paired. -/
theorem paired_ofTable (table : String) : (ofTable table).Paired where
  rows _ := rfl
  groups _ := rfl

/-- A change keeps a query paired, if the sub-select it brings in is. -/
theorem Paired.change {q next : Query} {step : Refinement} (h : q.Paired) (c : Change q step next)
    (children : ∀ child, Refinement.child? step = some child → child.Paired) : next.Paired := by
  cases c with
  | rows connector p child _ _ =>
    have normal : ∀ select, p.normalize.child? = some select → select.Paired := fun select hs =>
      children select (child select (p.child?_normalize ▸ hs))
    exact
      { rows := fun d => by
          rw [addWhere, values_ofClauses_concat, h.rows, values_ofPredicate d normal]
          rfl
        groups := h.groups }
  | groups connector p child _ _ =>
    have normal : ∀ select, p.normalize.child? = some select → select.Paired := fun select hs =>
      children select (child select (p.child?_normalize ▸ hs))
    exact
      { rows := h.rows
        groups := fun d => by
          rw [addHaving, values_ofClauses_concat, h.groups, values_ofPredicate d normal]
          rfl }
  | updates values _ _ => exact ⟨h.rows, h.groups⟩
  | inserts rows next staged _ _ =>
    obtain ⟨_, rfl⟩ := stageInsert_eq_ok staged
    exact ⟨h.rows, h.groups⟩
  | rest next hwheres hhavings _ _ _ hbindings _ _ =>
    exact ⟨fun d => by rw [hwheres, hbindings, h.rows],
      fun d => by rw [hhavings, hbindings, h.groups]⟩

/-- Every query that can be built is paired. -/
theorem Built.paired {q : Query} (h : Built q) : q.Paired := by
  induction h with
  | fresh table => exact paired_ofTable table
  | step step _ _ refined ih children => exact ih.change (change_of_refine refined) children

/-- Steps whose sub-selects are built lead from a built query to a built query. -/
theorem Built.refineEach {q : Query} (h : Built q) (steps : List Refinement)
    (children : ∀ step ∈ steps, ∀ child, Refinement.child? step = some child → Built child) :
    Built (q.refineEach steps) := by
  induction steps generalizing q with
  | nil => exact h
  | cons step rest ih =>
    have one : Built ((q.refine step).toOption.getD q) := by
      cases hr : q.refine step with
      | ok next => exact .step step h (children step List.mem_cons_self) hr
      | error _ => exact h
    exact ih one fun other hother => children other (List.mem_cons_of_mem step hother)

end Query

end SqlMapper
