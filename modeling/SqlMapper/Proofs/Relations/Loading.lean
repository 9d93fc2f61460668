import SqlMapper.Entity.Relation
import SqlMapper.Proofs.Enhancing.BuiltIn
import SqlMapper.Proofs.Filter.Deletion
import SqlMapper.Proofs.Protocol.Course
import SqlMapper.Proofs.Unambiguous.Leads

/-!
# What a relation loads

The related rows of a parent are chosen by one clause, and the enhancers of the library add theirs
behind it, so what is compiled is known (`Dialect.prepare_choosing`): one select. It is sent over
one connection, and what the database tells of the rows is made into records
(`Selection.yields_get`, `Selection.yields_first`).
-/

namespace SqlMapper

/-! ## The select -/

namespace Query

/-- The query of the rows of a table for which clauses hold, not more than a limit. -/
def choosing (table : String) (clauses : List (Clause Query)) (limit : Option Nat) : Query :=
  { table, wheres := clauses, limit, bindings := { wheres := clauseValues clauses } }

variable {table : String} {clauses : List (Clause Query)} {limit : Option Nat}

/-- A further condition is a further clause. -/
theorem addWhere_choosing (connector : Connector) (p : Predicate Query) :
    (choosing table clauses limit).addWhere connector p =
      choosing table (clauses ++ [⟨connector, p.normalize⟩]) limit := by
  simp [choosing, addWhere, Bindings.append, clauseValues]

/-- Conditions that all have to hold stand behind the other clauses. -/
theorem restrict_choosing (conditions : List (Predicate Query)) :
    (choosing table clauses limit).restrict conditions =
      choosing table (clauses ++ conditions.map fun p => ⟨.and, p.normalize⟩) limit := by
  induction conditions generalizing clauses with
  | nil => rw [List.map_nil, List.append_nil]; rfl
  | cons p rest ih =>
    show ((choosing table clauses limit).addWhere .and p).restrict rest = _
    rw [addWhere_choosing, ih, List.append_assoc, List.map_cons, List.singleton_append]

end Query

namespace Dialect

/-- A limit at the end of a select, if there is one. -/
def limitText : Option Nat → String
  | some rows => " LIMIT " ++ Nat.repr rows
  | none => ""

/-- The statement that selects the rows of a table for which clauses hold, not more than a limit. -/
def choosing (d : Dialect) (table : String) (clauses : List (Clause Query)) (limit : Option Nat) :
    Statement where
  kind := some .select
  sql := "SELECT * FROM " ++ d.wrap table ++ d.whereText clauses ++ limitText limit
  bindings := Query.clauseValues clauses

variable {d : Dialect} {table : String}

/-- A query that chooses rows compiles to their select. -/
theorem prepare_choosing (htable : table ≠ "") (clauses : List (Clause Query))
    (limit : Option Nat) :
    d.prepare .select (Query.choosing table clauses limit) =
      .ok (d.choosing table clauses limit) := by
  have text : d.select (Query.choosing table clauses limit) =
      (d.choosing table clauses limit).sql := by
    have parts : SelectPart.afterColumns =
        [.from_, .joins, .wheres, .groups, .havings, .orders, .limit, .offset] := rfl
    have from_ (t : String) : "SELECT *" ++ (" " ++ ("FROM " ++ t)) = "SELECT * FROM " ++ t := by
      rw [← String.append_assoc, ← String.append_assoc]
      rfl
    have where_ (t : String) : " " ++ ("WHERE " ++ t) = " WHERE " ++ t := by
      rw [← String.append_assoc]
      rfl
    have limit_ (t : String) : " " ++ ("LIMIT " ++ t) = " LIMIT " ++ t := by
      rw [← String.append_assoc]
      rfl
    rw [select_eq_leads rfl, parts]
    cases clauses <;> cases limit <;>
      simp [leads, lead, part, partText, SelectPart.isAbsent, SelectPart.keyword, content, choosing,
        Query.choosing, whereText, limitText, htable, String.append_assoc, from_, where_, limit_]
  have bound : (Query.choosing table clauses limit).bindingsFor .select =
      Query.clauseValues clauses := by
    simp [Query.choosing, Query.bindingsFor, Bindings.forStatement, StatementKind.sections,
      Bindings.valuesOf]
  have compiled : d.compile .select (Query.choosing table clauses limit) =
      .ok (d.choosing table clauses limit).sql := by
    rw [compile, if_neg (by simpa [Query.choosing] using htable), Dialect.text, text]
  rw [prepare, compiled]
  simp only [bound]
  rfl

end Dialect

/-! ## The restrictions of a model -/

/-- The condition that an enhancer of the library adds to every select. -/
def BuiltIn.restriction? (schema : Schema) : BuiltIn → Option (Predicate Query)
  | .scope _ column value => some (.comparison column .eq value)
  | .timestamps => none
  | .softDeletes => schema.softDelete.map fun column => .nullCheck column false

/-- The clauses that the enhancers of a model add to every select, in their order. -/
def BuiltIn.restrictions (schema : Schema) (named : List BuiltIn) : List (Clause Query) :=
  ((BuiltIn.all schema named).filterMap (restriction? schema)).map fun p => ⟨.and, p⟩

/-- The listeners for the moment before a select add the restrictions. -/
theorem BuiltIn.conditions_listeners {ℓ : Type} (schema : Schema) (bs : List BuiltIn) :
    Listener.conditions (bs.flatMap fun b => (b.listeners schema .preSelect : List (Listener ℓ))) =
      bs.filterMap (restriction? schema) := by
  induction bs with
  | nil => rfl
  | cons b rest ih =>
    rw [List.flatMap_cons]
    cases b with
    | scope name column value => exact congrArg _ ih
    | timestamps => exact ih
    | softDeletes =>
      cases hschema : schema.softDelete with
      | some column =>
        have first : (softDeletes.listeners schema .preSelect : List (Listener ℓ)) =
            [.restrictToNull column] := by simp [listeners, hschema]
        have added : restriction? schema .softDeletes = some (.nullCheck column false) := by
          simp [restriction?, hschema]
        rw [first, List.filterMap_cons_some added]
        exact congrArg _ ih
      | none =>
        have first : (softDeletes.listeners schema .preSelect : List (Listener ℓ)) = [] := by
          simp [listeners, hschema]
        have added : restriction? schema .softDeletes = none := by simp [restriction?, hschema]
        rw [first, List.filterMap_cons_none added]
        exact ih

/-- The clauses of the restrictions need no normalizing. -/
theorem BuiltIn.restrictions_eq {ℓ : Type} (schema : Schema) (named : List BuiltIn) :
    (Listener.conditions ((BuiltIn.all schema named).flatMap fun b =>
        (b.listeners schema .preSelect : List (Listener ℓ)))).map
          (fun p => (⟨.and, p.normalize⟩ : Clause Query)) =
      restrictions schema named := by
  rw [restrictions, ← conditions_listeners (ℓ := ℓ)]
  exact List.map_congr_left fun p hp => by rw [Listener.normalize_conditions _ p hp]

/-! ## Loading -/

/-- A store that keeps a log of what its executor does. -/
def Store.watched {σ ℓ : Type} (store : Store (StateM σ) ℓ) :
    Store (StateM (List (Deed (Listener ℓ)) × σ)) ℓ where
  dialect := store.dialect
  source := store.executor.watched.source
  now := logging [] store.now
  hear := fun listener event =>
    logging [.heard (.custom listener) event] (store.hear listener event)
  notice := store.executor.watched.notice

/-- The records of the rows that the database has told of. -/
def Record.ofTold {m : Type → Type} {ℓ α : Type} (model : Model m ℓ α)
    (told : Except MappingFault (Job.Told .select)) : Except MappingFault (List (Record α)) :=
  told.bind fun rows : List (List (String × Value)) => hydrateAll model (rows.map Row.ofResult)

section Loading

variable {σ ℓ α : Type} {store : Store (StateM σ) ℓ}
  {model : Model (StateM (List (Deed (Listener ℓ)) × σ)) ℓ α} {named : List BuiltIn}

/-- The select of a query that chooses rows is sent with the restrictions of the model behind its
clauses, and the rows are made into records. -/
theorem Selection.yields_get (hmodel : model.IsBuiltOf store.watched.now named)
    (htable : model.schema.table ≠ "") {selection : Selection ℓ} {clauses : List (Clause Query)}
    {limit : Option Nat} (unskipped : selection.skipped = [])
    (silent : ∀ kind, selection.operation.heard kind = [])
    (chooses : selection.operation.query = Query.choosing model.schema.table clauses limit)
    {s s' : σ} {told : Except MappingFault (Job.Told .select)}
    {deeds : List (Deed (Listener ℓ))}
    (delivery : Job.Delivery store.executor .select
      (store.dialect.choosing model.schema.table
        (clauses ++ BuiltIn.restrictions model.schema named) limit) s told deeds s') :
    Yields Prod.mk (selection.get model store.watched).run s (Record.ofTold model told) deeds
      s' := by
  have hears : store.watched.executor.hear = Listener.hear store.watched.now store.watched.hear :=
    store.watched.hear_executor
  -- all enhancers act, and those of the library restrict the select and do nothing after it
  have acts : selection.builtIns model.schema named = BuiltIn.all model.schema named := by
    rw [Selection.builtIns, unskipped]
    simp
  have heard : (selection.toOperation model store.watched).heard .preSelect =
      (BuiltIn.all model.schema named).flatMap fun b => b.listeners model.schema .preSelect := by
    rw [heard_toOperation hmodel, silent, List.nil_append, Selection.listeners, acts]
  have restricts := restricts_of_heard hmodel (silent .preSelect) fun h => absurd h (by decide)
  have post := heard_eq_nil hmodel (silent .postSelect) (by decide)
  let op := selection.toOperation model store.watched
  let restricted := op.mapQuery fun q => q.restrict (Listener.conditions (op.heard .preSelect))
  have query : restricted.query = Query.choosing model.schema.table
      (clauses ++ BuiltIn.restrictions model.schema named) limit := by
    show op.query.restrict (Listener.conditions (op.heard .preSelect)) = _
    rw [query_toOperation hmodel, chooses, Query.restrict_choosing, heard, BuiltIn.restrictions_eq]
  generalize hstatement : store.dialect.choosing model.schema.table
    (clauses ++ BuiltIn.restrictions model.schema named) limit = statement at delivery
  have compiled : store.dialect.prepare .select restricted.query = .ok statement := by
    rw [query, Dialect.prepare_choosing htable, hstatement]
  have prepared : store.watched.executor.prepare .select restricted = pure statement :=
    Executor.prepare_of_ok compiled
  have read : store.watched.executor.runSelect op = store.watched.executor.fetch statement := by
    rw [Executor.runSelect, Executor.runRead_of_restricts hears op restricts post, prepared,
      pure_bind]
  have sent : Yields Prod.mk (store.watched.executor.sendOne store.watched.source.fetch
      statement).run s told deeds s' := delivery.yields store.executor.shows_watched
  rw [Selection.get, read, Executor.fetch_eq]
  cases told with
  | error fault => exact sent.bindError.bindError
  | ok rows =>
    have made := sent.bindOk (f := fun told => pure (told.map Row.ofResult))
      (Yields.pure (Except.ok (rows.map Row.ofResult)) s')
    have hydrated := made.bindOk
      (f := fun rows => ExceptT.mk (pure (Record.hydrateAll model rows)))
      (Yields.pure (Record.hydrateAll model (rows.map Row.ofResult)) s')
    exact hydrated.of_append_nil.of_append_nil

section Keys

variable {m : Type → Type} [Monad m] {β : Type} {keys : RelationKeys} {model : Model m ℓ α}
  {parent : ColumnValues} {noRows : β} {load : Selection ℓ → ExceptT MappingFault m β}

/-- Nothing is loaded for a parent without the attribute. -/
theorem RelationKeys.load_of_missing (absent : parent.get? keys.parentKey = none) :
    keys.load model parent noRows load = throw (.missingColumn keys.parentKey) := by
  rw [RelationKeys.load, selection, absent]

/-- No rows are related to a parent whose attribute is null. -/
theorem RelationKeys.load_of_null {value : Value}
    (present : parent.get? keys.parentKey = some value) (null : value.isNull = true) :
    keys.load model parent noRows load = pure noRows := by
  rw [RelationKeys.load, selection, present]
  simp only [null, if_true]

/-- The rows whose column holds the attribute are related to a parent. -/
theorem RelationKeys.load_of_related {value : Value}
    (present : parent.get? keys.parentKey = some value) (related : value.isNull = false) :
    keys.load model parent noRows load =
      load ((Selection.ofModel model).whereEq keys.localKey value) := by
  rw [RelationKeys.load, selection, present]
  simp only [related, Bool.false_eq_true, if_false]

end Keys

/-- The query of the related rows chooses them by one clause. -/
theorem Selection.query_whereEq {m : Type → Type} [Monad m] (model : Model m ℓ α)
    (column : String) {value : Value} (related : value.isNull = false) :
    ((Selection.ofModel model).whereEq column value).operation.query =
      Query.choosing model.schema.table [⟨.and, .compare column .eq value⟩] none := by
  show (Query.choosing model.schema.table [] none).addWhere .and (.comparison column .eq value) = _
  rw [Query.addWhere_choosing, Predicate.normalize_comparison, Predicate.comparison]
  simp [related]

/-- Nothing listens to the query of the related rows before the enhancers of the model act. -/
theorem Selection.heard_whereEq {m : Type → Type} [Monad m] (model : Model m ℓ α)
    (column : String) (value : Value) (kind : EventKind) :
    ((Selection.ofModel model).whereEq column value).operation.heard kind = [] := by
  cases kind <;> rfl

/-- The select of the first related row is sent with the restrictions of the model behind the
clause, and its row is made into a record. -/
theorem Selection.yields_first (hmodel : model.IsBuiltOf store.watched.now named)
    (htable : model.schema.table ≠ "") {column : String} {value : Value}
    (related : value.isNull = false) {s s' : σ}
    {told : Except MappingFault (Job.Told .select)}
    {deeds : List (Deed (Listener ℓ))}
    (delivery : Job.Delivery store.executor .select
      (store.dialect.choosing model.schema.table
        (⟨.and, .compare column .eq value⟩ :: BuiltIn.restrictions model.schema named) (some 1)) s
      told deeds s') :
    Yields Prod.mk (((Selection.ofModel model).whereEq column value).first model store.watched).run
      s ((Record.ofTold model told).map List.head?) deeds s' := by
  let limited := ((Selection.ofModel model).whereEq column value).filter
    fun op => op.mapQuery fun q => { q with limit := some 1 }
  have unskipped : limited.skipped = [] := rfl
  have silent (kind : EventKind) : limited.operation.heard kind = [] :=
    heard_whereEq model column value kind
  have chooses : limited.operation.query =
      Query.choosing model.schema.table [⟨.and, .compare column .eq value⟩] (some 1) :=
    congrArg (fun q => { q with limit := some 1 }) (query_whereEq model column related)
  have sent := yields_get hmodel htable unskipped silent chooses delivery
  rw [first]
  cases made : Record.ofTold model told with
  | error fault =>
    rw [made] at sent
    exact sent.bindError
  | ok records =>
    rw [made] at sent
    exact (sent.bindOk (Yields.pure (Except.ok records.head?) s')).of_append_nil

end Loading

end SqlMapper
