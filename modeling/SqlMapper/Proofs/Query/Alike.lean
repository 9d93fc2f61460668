import SqlMapper.Proofs.Query.Change
import SqlMapper.Proofs.Rendering.SameText
import SqlMapper.Proofs.Values.Agreement

/-!
# Values do not reach the text

Two sequences of building steps are alike if they are the same but for the values they bind. What
may be seen of a value is little: whether a compared value is null, how many values a list has, how
many rows there are and which columns they have (`Refinement.Alike`). `Query.BuiltAlike` relates the
queries that two such sequences lead to, their sub-selects built alike in turn. A step does the same
on both sides: it fails with the same fault, or leads to queries that read the same
(`Refinement.Alike.refine`). So the two queries compile to the same result, whatever the dialect and
the kind of statement (`Query.BuiltAlike.compile_eq`).
-/

namespace SqlMapper

/-- The same fault, or results that are related. -/
inductive SameOutcome {α : Type} (R : α → α → Prop) :
    Except QueryFault α → Except QueryFault α → Prop
  | ok {a a' : α} (h : R a a') : SameOutcome R (.ok a) (.ok a')
  | error (fault : QueryFault) : SameOutcome R (.error fault) (.error fault)

namespace SameOutcome

variable {α β : Type} {R : α → α → Prop} {S : β → β → Prop} {x x' : Except QueryFault α}

/-- What follows related results has the same outcome if it does for each two of them. -/
theorem bind (h : SameOutcome R x x') {f f' : α → Except QueryFault β}
    (hf : ∀ a a', R a a' → SameOutcome S (f a) (f' a')) : SameOutcome S (x >>= f) (x' >>= f') := by
  cases h with
  | ok h => exact hf _ _ h
  | error fault => exact .error fault

/-- A value that is the same on both sides. -/
theorem refl (x : Except QueryFault α) : SameOutcome Eq x x := by
  cases x with
  | ok a => exact .ok rfl
  | error fault => exact .error fault

end SameOutcome

/-- Predicates that are the same but for their values: compared values are both null or both not,
and lists are equally long. Of sub-selects nothing is said. -/
inductive Predicate.Alike {σ : Type} : Predicate σ → Predicate σ → Prop where
  | compare (column : String) (operator : Operator) {value value' : Value}
      (h : value.isNull = value'.isNull) :
      Alike (.compare column operator value) (.compare column operator value')
  | nullCheck (column : String) (negated : Bool) :
      Alike (.nullCheck column negated) (.nullCheck column negated)
  | among (column : String) {values values' : List Value} (negated : Bool)
      (h : values.length = values'.length) :
      Alike (.among column values negated) (.among column values' negated)
  | amongSelect (column : String) (select select' : σ) (negated : Bool) :
      Alike (.amongSelect column select negated) (.amongSelect column select' negated)

namespace Refinement

/-- Whether a step binds no values. -/
def bindsNothing : Refinement → Bool
  | .table _ | .select _ | .distinct | .join _ _ _ _ _ | .groupBy _ | .orderBy _ _
  | .orderByText _ _ | .limit _ | .offset _ => true
  | _ => false

/-- Steps that are the same but for the values they bind. -/
inductive Alike : Refinement → Refinement → Prop where
  | plain (step : Refinement) (h : step.bindsNothing = true) : Alike step step
  | where_ (connector : Connector) {p p' : Predicate Query} (h : p.Alike p') :
      Alike (.where_ connector p) (.where_ connector p')
  | whereText (connector : Connector) (column operator : String) {value value' : Value}
      (h : value.isNull = value'.isNull) :
      Alike (.whereText connector column operator value)
        (.whereText connector column operator value')
  | having (connector : Connector) {p p' : Predicate Query} (h : p.Alike p') :
      Alike (.having connector p) (.having connector p')
  | havingText (connector : Connector) (column operator : String) {value value' : Value}
      (h : value.isNull = value'.isNull) :
      Alike (.havingText connector column operator value)
        (.havingText connector column operator value')
  | stageUpdate {values values' : ColumnValues} (h : values.columns = values'.columns) :
      Alike (.stageUpdate values) (.stageUpdate values')
  | stageInsert {rows rows' : List ColumnValues}
      (h : rows.map ColumnValues.columns = rows'.map ColumnValues.columns) :
      Alike (.stageInsert rows) (.stageInsert rows')

end Refinement

namespace Query

/-- The query after steps that are taken together: if one of them fails, none is taken. -/
def attempt (q : Query) (steps : List Refinement) : Query :=
  (q.refineAll steps).toOption.getD q

/-- Queries that were built the same way but for the values: from a query on the same table, by
steps that are alike, with sub-selects that were built alike. -/
inductive BuiltAlike : Query → Query → Prop where
  /-- A fresh query. -/
  | fresh (table : String) : BuiltAlike (ofTable table) (ofTable table)
  /-- Pairs of steps that are alike, taken together on both sides. -/
  | attempt {q q' : Query} (pairs : List (Refinement × Refinement)) (built : BuiltAlike q q')
      (alike : ∀ pair ∈ pairs, pair.1.Alike pair.2)
      (children : ∀ pair ∈ pairs, ∀ child child', Refinement.child? pair.1 = some child →
        Refinement.child? pair.2 = some child' → BuiltAlike child child') :
      BuiltAlike (q.attempt (pairs.map Prod.fst)) (q'.attempt (pairs.map Prod.snd))

end Query

namespace ColumnValues

/-- Whether a column has a value depends on the names of the columns alone. -/
theorem isSome_get?_congr {a b : ColumnValues} (h : a.columns = b.columns) (column : String) :
    (a.get? column).isSome = (b.get? column).isSome := by
  have found (cv : ColumnValues) : (cv.get? column).isSome ↔ column ∈ cv.columns := by
    constructor
    · intro hsome
      obtain ⟨value, hvalue⟩ := Option.isSome_iff_exists.1 hsome
      exact mem_columns_of_get? hvalue
    · intro hmem
      obtain ⟨value, hvalue⟩ := exists_get? hmem
      rw [hvalue]
      rfl
  rw [Bool.eq_iff_iff, found a, found b, h]

end ColumnValues

namespace Query

/-- Rows with the same columns are aligned alike: they lack the same column, or give as many
values. -/
theorem sameOutcome_alignRow {row row' : ColumnValues} (h : row.columns = row'.columns)
    (columns : List String) (index : Nat) :
    SameOutcome (fun values values' => values.length = values'.length)
      (alignRow columns index row) (alignRow columns index row') := by
  unfold alignRow
  induction columns with
  | nil => exact .ok rfl
  | cons column rest ih =>
    have same := ColumnValues.isSome_get?_congr h column
    rw [List.mapM_cons, List.mapM_cons]
    refine SameOutcome.bind (R := fun _ _ => True) ?_ fun value value' _ =>
      ih.bind fun values values' hlength => .ok (congrArg Nat.succ hlength)
    cases hv : row.get? column <;> cases hv' : row'.get? column <;> rw [hv, hv'] at same
    · exact .error _
    · cases same
    · cases same
    · exact .ok trivial

/-- Lists of rows with the same columns are aligned alike. -/
theorem sameOutcome_alignRows {rows rows' : List ColumnValues}
    (h : rows.map ColumnValues.columns = rows'.map ColumnValues.columns) (columns : List String)
    (index : Nat) :
    SameOutcome (fun values values' => values.length = values'.length)
      (alignRows columns index rows) (alignRows columns index rows') := by
  induction rows generalizing rows' index with
  | nil =>
    obtain rfl := List.map_eq_nil_iff.1 h.symm
    exact .ok rfl
  | cons row rest ih =>
    obtain ⟨row', rest', rfl, hrow, hrest⟩ := List.map_eq_cons_iff.1 h.symm
    have size : row.size = row'.size := by
      simpa [ColumnValues.columns, ColumnValues.size] using (congrArg List.length hrow).symm
    rw [alignRows, alignRows, size]
    split
    · exact .error _
    · refine (sameOutcome_alignRow hrow.symm columns index).bind fun first first' hfirst => ?_
      refine (ih hrest.symm (index + 1)).bind fun others others' hothers => .ok ?_
      rw [List.length_append, List.length_append, hfirst, hothers]

end Query

namespace Predicate.Alike

variable {p p' : Predicate Query}

/-- Predicates that are alike read the same and bind as many values, if their sub-selects read the
same. A compared value that is null turns both into null checks. -/
theorem sameText (h : p.Alike p')
    (children : ∀ child child', p.child? = some child → p'.child? = some child' →
      child.SameText child') :
    (∀ d : Dialect, d.predicate p.normalize = d.predicate p'.normalize) ∧
      (Query.predicateValues p.normalize).length = (Query.predicateValues p'.normalize).length := by
  cases h with
  | @compare column operator value value' h =>
    simp only [normalize, Predicate.comparison, h]
    split
    · exact ⟨fun _ => rfl, rfl⟩
    · exact ⟨fun d => by rw [Dialect.predicate, Dialect.predicate], rfl⟩
  | nullCheck column negated => exact ⟨fun _ => rfl, rfl⟩
  | @among column values values' negated h =>
    have empty : values.isEmpty = values'.isEmpty := by
      rw [Bool.eq_iff_iff, List.isEmpty_iff_length_eq_zero, List.isEmpty_iff_length_eq_zero, h]
    exact ⟨fun d => by simp only [normalize, Dialect.predicate, empty, h], h⟩
  | amongSelect column select select' negated =>
    have same := children select select' rfl rfl
    exact ⟨fun d => by simp only [normalize, Dialect.predicate, same.select d],
      same.length_bindingsFor .select⟩

/-- Comparisons with values that are both null or both not are alike. -/
theorem comparison {column : String} {operator : Operator} {value value' : Value}
    (h : value.isNull = value'.isNull) :
    (Predicate.comparison column operator value : Predicate Query).Alike
      (.comparison column operator value') := by
  unfold Predicate.comparison
  rw [h]
  split
  · exact .nullCheck column operator.isInequality
  · exact .compare column operator h

end Predicate.Alike

namespace Query.SameText

variable {q q' : Query} {p p' : Predicate Query}

/-- Adding conditions on rows that read the same. -/
theorem addWhere (h : q.SameText q') (connector : Connector) (hp : p.Alike p')
    (children : ∀ child child', p.child? = some child → p'.child? = some child' →
      child.SameText child') :
    (q.addWhere connector p).SameText (q'.addWhere connector p') := by
  obtain ⟨text, count⟩ := hp.sameText children
  cases h with
  | intro rows groups counts =>
    exact .intro (List.rel_append rows (.cons ⟨rfl, text⟩ .nil)) groups (counts.append .rows count)

/-- Adding conditions on groups that read the same. -/
theorem addHaving (h : q.SameText q') (connector : Connector) (hp : p.Alike p')
    (children : ∀ child child', p.child? = some child → p'.child? = some child' →
      child.SameText child') :
    (q.addHaving connector p).SameText (q'.addHaving connector p') := by
  obtain ⟨text, count⟩ := hp.sameText children
  cases h with
  | intro rows groups counts =>
    exact .intro rows (List.rel_append groups (.cons ⟨rfl, text⟩ .nil))
      (counts.append .groups count)

/-- Staging rows with the same columns. -/
theorem stageInsert (h : q.SameText q') {rows rows' : List ColumnValues}
    (hrows : rows.map ColumnValues.columns = rows'.map ColumnValues.columns) :
    SameOutcome SameText (q.stageInsert rows) (q'.stageInsert rows') := by
  cases rows with
  | nil =>
    obtain rfl := List.map_eq_nil_iff.1 hrows.symm
    exact .error _
  | cons first rest =>
    obtain ⟨first', rest', rfl, hfirst, _⟩ := List.map_eq_cons_iff.1 hrows.symm
    have empty : first.isEmpty = first'.isEmpty := by
      rw [Bool.eq_iff_iff, ColumnValues.isEmpty, ColumnValues.isEmpty, List.isEmpty_iff,
        List.isEmpty_iff, ← List.map_eq_nil_iff (f := Prod.fst),
        ← List.map_eq_nil_iff (f := Prod.fst)]
      exact (congrArg (· = []) hfirst.symm).to_iff
    have count : (first :: rest).length = (first' :: rest').length := by
      simpa using congrArg List.length hrows
    unfold Query.stageInsert
    dsimp only
    rw [empty]
    split
    · exact .error _
    · rw [hfirst]
      refine (sameOutcome_alignRows hrows first.columns 0).bind fun values values' hvalues => .ok ?_
      rw [count]
      cases h with
      | intro rows groups counts => exact .intro rows groups (counts.append .insert hvalues)

end Query.SameText

namespace Refinement.Alike

variable {step step' : Refinement} {q q' : Query}

/-- A step that binds nothing does the same on queries that read the same. -/
theorem refine_plain (h : step.bindsNothing = true) (hq : q.SameText q') :
    SameOutcome Query.SameText (q.refine step) (q'.refine step) := by
  cases hq with
  | intro rows groups counts =>
    cases step with
    | join kind table left operator right =>
      exact (SameOutcome.refl (Operator.ofText operator)).bind fun op op' hop =>
        .ok (hop ▸ .intro rows groups counts)
    | orderByText column direction =>
      exact (SameOutcome.refl (Direction.ofText direction)).bind fun dir dir' hdir =>
        .ok (hdir ▸ .intro rows groups counts)
    | table | select | distinct | groupBy | orderBy | limit | offset =>
      exact .ok (.intro rows groups counts)
    | _ => cases h

/-- Steps that are alike do the same on queries that read the same. -/
theorem refine (h : step.Alike step') (hq : q.SameText q')
    (children : ∀ child child', Query.Refinement.child? step = some child →
      Query.Refinement.child? step' = some child' → child.SameText child') :
    SameOutcome Query.SameText (q.refine step) (q'.refine step') := by
  cases h with
  | plain step h => exact refine_plain h hq
  | where_ connector hp =>
    rw [Query.Refinement.child?_where, Query.Refinement.child?_where] at children
    exact .ok (hq.addWhere connector hp children)
  | having connector hp =>
    rw [Query.Refinement.child?_having, Query.Refinement.child?_having] at children
    exact .ok (hq.addHaving connector hp children)
  | whereText connector column operator hv =>
    refine (SameOutcome.refl (Operator.ofText operator)).bind fun op op' hop => .ok ?_
    subst hop
    exact hq.addWhere connector (Predicate.Alike.comparison hv) (by simp)
  | havingText connector column operator hv =>
    refine (SameOutcome.refl (Operator.ofText operator)).bind fun op op' hop => .ok ?_
    subst hop
    exact hq.addHaving connector (Predicate.Alike.comparison hv) (by simp)
  | @stageUpdate values values' hcolumns =>
    have count : values.values.length = values'.values.length := by
      simpa [ColumnValues.columns, ColumnValues.values] using congrArg List.length hcolumns
    refine .ok ?_
    rw [Query.stageUpdate, Query.stageUpdate, hcolumns]
    cases hq with
    | intro rows groups counts => exact .intro rows groups (counts.append .update count)
  | stageInsert hrows => exact hq.stageInsert hrows

end Refinement.Alike

namespace Query

/-- Steps that are alike, one after another, do the same on queries that read the same. -/
theorem SameText.refineAll {q q' : Query} (hq : q.SameText q')
    (pairs : List (Refinement × Refinement)) (alike : ∀ pair ∈ pairs, pair.1.Alike pair.2)
    (children : ∀ pair ∈ pairs, ∀ child child', Refinement.child? pair.1 = some child →
      Refinement.child? pair.2 = some child' → child.SameText child') :
    SameOutcome SameText (q.refineAll (pairs.map Prod.fst))
      (q'.refineAll (pairs.map Prod.snd)) := by
  induction pairs generalizing q q' with
  | nil => exact .ok hq
  | cons pair rest ih =>
    rw [List.map_cons, List.map_cons, Query.refineAll, Query.refineAll, List.foldlM_cons,
      List.foldlM_cons]
    refine ((alike pair List.mem_cons_self).refine hq
      (children pair List.mem_cons_self)).bind fun next next' hnext => ?_
    exact ih hnext (fun other hother => alike other (List.mem_cons_of_mem pair hother))
      fun other hother => children other (List.mem_cons_of_mem pair hother)

/-- Queries that were built alike read the same. -/
theorem BuiltAlike.sameText {q q' : Query} (h : BuiltAlike q q') : q.SameText q' := by
  induction h with
  | fresh table => exact .refl (ofTable table)
  | @attempt q q' pairs _ alike _ hq children =>
    have outcome := hq.refineAll pairs alike children
    rw [Query.attempt, Query.attempt]
    revert outcome
    generalize q.refineAll (pairs.map Prod.fst) = x
    generalize q'.refineAll (pairs.map Prod.snd) = x'
    intro outcome
    cases outcome with
    | ok hnext => exact hnext
    | error fault => exact hq

/-- **Values do not reach the text.** Two queries that were built the same way but for the values
they bind compile to the same text or are refused with the same fault, in every dialect and for
every kind of statement. -/
theorem BuiltAlike.compile_eq {q q' : Query} (h : BuiltAlike q q') (d : Dialect)
    (kind : StatementKind) : d.compile kind q = d.compile kind q' :=
  h.sameText.compile d kind

/-- Steps of a sub-select, once with a harmless value and once with one that looks like SQL. -/
def groupedPairs : List (Refinement × Refinement) :=
  [(.select ["owner"], .select ["owner"]),
    (.havingText .and "total" ">" (.int 2), .havingText .and "total" ">" (.text "0) OR (1 = 1"))]

/-- Steps of an update, once with harmless values and once with values that look like SQL. -/
def updatePairs : List (Refinement × Refinement) :=
  [(.whereText .and "name" "=" (.text "ada"), .whereText .and "name" "=" (.text "' OR 1 = 1 --")),
    (.where_ .or (.among "id" [.int 1, .null] false),
      .where_ .or (.among "id" [.text "?", .text "`"] false)),
    (.where_ .and (.amongSelect "id" ((ofTable "notes").attempt (groupedPairs.map Prod.fst)) true),
      .where_ .and
        (.amongSelect "id" ((ofTable "notes").attempt (groupedPairs.map Prod.snd)) true)),
    (.stageUpdate ⟨[("age", .null)]⟩, .stageUpdate ⟨[("age", .text "0; DROP TABLE `users`")]⟩)]

/-- These steps lead to queries that were built alike. -/
theorem builtAlike_updatePairs :
    BuiltAlike ((ofTable "users").attempt (updatePairs.map Prod.fst))
      ((ofTable "users").attempt (updatePairs.map Prod.snd)) := by
  have grouped : BuiltAlike ((ofTable "notes").attempt (groupedPairs.map Prod.fst))
      ((ofTable "notes").attempt (groupedPairs.map Prod.snd)) := by
    refine .attempt groupedPairs (.fresh "notes") (fun pair hpair => ?_)
      fun pair hpair child child' hchild _ => ?_
    · simp only [groupedPairs, List.mem_cons, List.not_mem_nil, or_false] at hpair
      rcases hpair with rfl | rfl
      · exact .plain _ rfl
      · exact .havingText _ _ _ rfl
    · simp only [groupedPairs, List.mem_cons, List.not_mem_nil, or_false] at hpair
      rcases hpair with rfl | rfl <;> cases hchild
  refine .attempt updatePairs (.fresh "users") (fun pair hpair => ?_)
    fun pair hpair child child' hchild hchild' => ?_
  · simp only [updatePairs, List.mem_cons, List.not_mem_nil, or_false] at hpair
    rcases hpair with rfl | rfl | rfl | rfl
    · exact .whereText _ _ _ rfl
    · exact .where_ _ (.among _ _ rfl)
    · exact .where_ _ (.amongSelect _ _ _ _)
    · exact .stageUpdate rfl
  · simp only [updatePairs, List.mem_cons, List.not_mem_nil, or_false] at hpair
    rcases hpair with rfl | rfl | rfl | rfl <;> cases hchild
    cases hchild'
    exact grouped

/-- The values that look like SQL leave the update as it is. -/
theorem compile_updatePairs :
    BuiltAlike ((ofTable "users").attempt (updatePairs.map Prod.fst))
        ((ofTable "users").attempt (updatePairs.map Prod.snd)) ∧
      Dialect.mysql.compile .update ((ofTable "users").attempt (updatePairs.map Prod.fst)) =
        .ok ("UPDATE `users` SET `age` = ? WHERE `name` = ? OR `id` IN (?, ?) AND `id` NOT IN " ++
          "(SELECT `owner` FROM `notes` HAVING `total` > ?)") ∧
      Dialect.mysql.compile .update ((ofTable "users").attempt (updatePairs.map Prod.fst)) =
        Dialect.mysql.compile .update ((ofTable "users").attempt (updatePairs.map Prod.snd)) :=
  ⟨builtAlike_updatePairs, by rfl, builtAlike_updatePairs.compile_eq .mysql .update⟩

end Query

end SqlMapper
