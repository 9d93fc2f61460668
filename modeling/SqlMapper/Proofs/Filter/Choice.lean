import SqlMapper.Proofs.Enhancing.BuiltIn
import SqlMapper.Statement.Refinement

/-!
# Choosing rows

A caller chooses the rows of an entity by filters, by asking for those marked as deleted, and by
leaving enhancers out, in any order and number (`Choice`). What was chosen is the list of the
clauses that the choices added, one after another (`Selection.Chosen.choices`); no listener is
registered on the way.
-/

namespace SqlMapper

/-- The condition that a step of building adds. -/
def Refinement.clause? : Refinement → Option (Clause Query)
  | .where_ connector p => some ⟨connector, p.normalize⟩
  | .whereText connector column operator value =>
    match Operator.ofText operator with
    | .ok operator => some ⟨connector, .comparison column operator value⟩
    | .error _ => none
  | _ => none

/-- A step adds its condition to those there are; one that fails adds none. -/
theorem Query.wheres_refine (q : Query) (step : Refinement) :
    ((q.refine step).toOption.getD q).wheres = q.wheres ++ step.clause?.toList := by
  cases step with
  | whereText connector column operator value =>
    rw [refine, Refinement.clause?]
    cases Operator.ofText operator with
    | ok op =>
      show (q.addWhere connector (.comparison column op value)).wheres = _
      rw [addWhere, Predicate.normalize_comparison]
      rfl
    | error fault => exact (List.append_nil _).symm
  | join kind table left operator right =>
    rw [refine]
    cases Operator.ofText operator <;> exact (List.append_nil _).symm
  | havingText connector column operator value =>
    rw [refine]
    cases Operator.ofText operator <;> exact (List.append_nil _).symm
  | orderByText column direction =>
    rw [refine]
    cases Direction.ofText direction <;> exact (List.append_nil _).symm
  | stageInsert rows =>
    show ((q.stageInsert rows).toOption.getD q).wheres = _
    unfold stageInsert
    split
    · exact (List.append_nil _).symm
    · split
      · exact (List.append_nil _).symm
      · next first rest _ =>
        cases alignRows first.columns 0 (first :: rest) <;> exact (List.append_nil _).symm
  | where_ connector p => rfl
  | _ => exact (List.append_nil _).symm

/-- Steps add their conditions one after another. -/
theorem Query.wheres_refineEach (q : Query) (steps : List Refinement) :
    (q.refineEach steps).wheres = q.wheres ++ steps.filterMap Refinement.clause? := by
  induction steps generalizing q with
  | nil => simp [refineEach]
  | cons step rest ih =>
    have first := wheres_refine q step
    have others := ih ((q.refine step).toOption.getD q)
    rw [first, List.append_assoc] at others
    rw [List.filterMap_cons]
    cases hc : step.clause? <;> simpa [hc, refineEach] using others

/-- One step of a caller in choosing rows. -/
inductive Choice where
  /-- Steps of building on the query; those that fail are left out. -/
  | filter (steps : List Refinement)
  /-- Restricts to the rows marked as deleted. -/
  | onlyTrashed
  /-- Leaves out the enhancers of a name. -/
  | without (name : String)
deriving Inhabited

namespace Choice

/-- The clauses that a choice adds. -/
def clauses (schema : Schema) : Choice → List (Clause Query)
  | .filter steps => steps.filterMap Refinement.clause?
  | .onlyTrashed => schema.softDelete.toList.map (fun column => ⟨.and, .nullCheck column true⟩)
  | .without _ => []

/-- The names of the enhancers that a choice leaves out. -/
def skipped : Choice → List String
  | .filter _ => []
  | .onlyTrashed => [Enhancer.softDeletesName]
  | .without name => [name]

end Choice

namespace Selection

variable {m : Type → Type} {ℓ α : Type}

/-- The selection after one choice. -/
def choose (model : Model m ℓ α) (s : Selection ℓ) : Choice → Except MappingFault (Selection ℓ)
  | .filter steps => .ok (s.filter (fun op => op.mapQuery (fun q => q.refineEach steps)))
  | .onlyTrashed => s.onlyTrashed model
  | .without name => .ok (s.without name)

/-- What was chosen: some clauses, and some enhancers to leave out. -/
structure Chosen (s : Selection ℓ) (clauses : List (Clause Query)) (skipped : List String) :
    Prop where
  wheres : s.operation.query.wheres = clauses
  skipped : s.skipped = skipped
  silent : ∀ kind, s.operation.heard kind = []

/-- Nothing was chosen at first. -/
theorem chosen_ofModel (model : Model m ℓ α) : (ofModel model : Selection ℓ).Chosen [] [] where
  wheres := rfl
  skipped := rfl
  silent _ := rfl

/-- Restricting to the rows marked as deleted is possible only where there is a column for it. -/
theorem onlyTrashed_eq_ok {model : Model m ℓ α} {s next : Selection ℓ}
    (h : s.onlyTrashed model = .ok next) : ∃ column, model.schema.softDelete = some column ∧
      next = s.withTrashed.filter (fun op => op.mapQuery (fun q => q.whereNotNull column)) := by
  unfold onlyTrashed Model.softDeleteColumn at h
  cases hs : model.schema.softDelete with
  | none =>
    rw [hs] at h
    cases h
  | some column =>
    rw [hs] at h
    cases h
    exact ⟨column, rfl, rfl⟩

/-- A choice adds its clauses at the end. -/
theorem Chosen.choice {model : Model m ℓ α} {s next : Selection ℓ} {clauses : List (Clause Query)}
    {skipped : List String} (h : s.Chosen clauses skipped) {c : Choice}
    (hnext : s.choose model c = .ok next) :
    next.Chosen (clauses ++ c.clauses model.schema) (skipped ++ c.skipped) := by
  cases c with
  | filter steps =>
    cases hnext
    exact
      { wheres := by
          rw [← h.wheres]
          exact Query.wheres_refineEach s.operation.query steps
        skipped := by rw [← h.skipped]; exact (List.append_nil _).symm
        silent := h.silent }
  | onlyTrashed =>
    obtain ⟨column, hs, rfl⟩ := onlyTrashed_eq_ok hnext
    exact
      { wheres := by rw [← h.wheres, Choice.clauses, hs]; rfl
        skipped := by rw [← h.skipped]; rfl
        silent := h.silent }
  | without name =>
    cases hnext
    exact
      { wheres := by rw [← h.wheres]; exact (List.append_nil _).symm
        skipped := by rw [← h.skipped]; rfl
        silent := h.silent }

/-- Choices add their clauses one after another. -/
theorem Chosen.choices {model : Model m ℓ α} {choices : List Choice} {s last : Selection ℓ}
    {clauses : List (Clause Query)} {skipped : List String} (h : s.Chosen clauses skipped)
    (hlast : choices.foldlM (choose model) s = .ok last) :
    last.Chosen (clauses ++ choices.flatMap (fun c => c.clauses model.schema))
      (skipped ++ choices.flatMap Choice.skipped) := by
  induction choices generalizing s clauses skipped with
  | nil =>
    cases hlast
    simpa using h
  | cons choice rest ih =>
    rw [List.foldlM_cons] at hlast
    cases hs : s.choose model choice with
    | error fault =>
      rw [hs] at hlast
      cases hlast
    | ok next =>
      rw [hs] at hlast
      have all := ih (h.choice hs) hlast
      rw [List.append_assoc, List.append_assoc] at all
      exact all

end Selection

end SqlMapper
