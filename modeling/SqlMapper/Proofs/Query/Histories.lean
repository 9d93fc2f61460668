import SqlMapper.Proofs.Query.Alike
import SqlMapper.Proofs.Rendering.Statement

/-!
# Inserts over whole histories

A query is built by groups of steps. The steps of a group are taken together, so a group with a step
that fails is left out as a whole; a step of its own is a group of one. The rows that were staged by
the groups that were taken (`Query.stagings`) are what the query holds for an insert: the columns
and the number of the rows staged last, and the cells of all of them (`Query.Supplied.attemptEach`).
Rows that can be staged have a cell at least, so an insert counts as many placeholders as values
exactly if rows were staged once (`Query.Supplied.insert_eq`). Whether it compiles, and the fault if
it does not, depends on nothing else but the table (`Query.compile_insert_attemptEach`).
-/

namespace SqlMapper

/-- The rows that a step is to stage for an insert. -/
def Refinement.rows? : Refinement → Option (List ColumnValues)
  | .stageInsert rows => some rows
  | _ => none

namespace Query

/-- The query after groups of steps, those of each group taken together. -/
def attemptEach (q : Query) (groups : List (List Refinement)) : Query :=
  groups.foldl attempt q

/-- The rows of each time that groups of steps stage rows, one group after another. A group that
fails stages none. -/
def stagings (q : Query) : List (List Refinement) → List (List ColumnValues)
  | [] => []
  | group :: rest =>
    match q.refineAll group with
    | .ok next => group.filterMap Refinement.rows? ++ next.stagings rest
    | .error _ => q.stagings rest

variable {q next : Query} {assigned : List (String × Value)} {staged : List (List ColumnValues)}

/-- A step that succeeds stages the rows that it is to stage. -/
theorem inserted_of_refine {step : Refinement} (h : q.refine step = .ok next) :
    step.inserted = step.rows? := by
  cases step with
  | stageInsert rows => exact inserted_of_stageInsert h
  | _ => rfl

/-- Steps that all succeed supply the rows that they are to stage. -/
theorem Supplied.refineAll (h : q.Supplied assigned staged) {steps : List Refinement}
    (run : q.refineAll steps = .ok next) :
    ∃ assigned', next.Supplied assigned' (staged ++ steps.filterMap Refinement.rows?) := by
  induction steps generalizing q assigned staged with
  | nil =>
    cases run
    exact ⟨assigned, by rwa [List.filterMap_nil, List.append_nil]⟩
  | cons step rest ih =>
    rw [Query.refineAll, List.foldlM_cons] at run
    cases first : q.refine step with
    | error fault => simp [first, bind, Except.bind] at run
    | ok middle =>
      have one := h.change (change_of_refine first)
      have others : middle.refineAll rest = .ok next := by
        simpa [Query.refineAll, first, bind, Except.bind] using run
      obtain ⟨assigned', all⟩ := ih one others
      refine ⟨assigned', ?_⟩
      rw [inserted_of_refine first, List.append_assoc] at all
      rw [List.filterMap_cons]
      cases hrows : step.rows? <;> simpa [hrows] using all

/-- Groups of steps supply the rows that they stage. -/
theorem Supplied.attemptEach (h : q.Supplied assigned staged) (groups : List (List Refinement)) :
    ∃ assigned', (q.attemptEach groups).Supplied assigned' (staged ++ q.stagings groups) := by
  induction groups generalizing q assigned staged with
  | nil => exact ⟨assigned, by rwa [stagings, List.append_nil]⟩
  | cons group rest ih =>
    rw [stagings, Query.attemptEach, List.foldl_cons, attempt]
    cases run : q.refineAll group with
    | error fault => exact ih h
    | ok next =>
      obtain ⟨assigned', taken⟩ := h.refineAll run
      have all := ih taken
      rwa [List.append_assoc] at all

/-- A query for which no rows were staged has nothing to insert. -/
theorem Supplied.insert_eq_emptyInsert (h : q.Supplied assigned []) (d : Dialect) :
    d.insert q = .error .emptyInsert := by
  have columns : q.insertColumns = [] := h.columns
  rw [Dialect.insert]
  simp [columns]

/-- An insert compiles if all values that were staged are those of the rows staged last. -/
theorem Supplied.insert_eq (h : q.Supplied assigned staged) {last : List ColumnValues}
    (hlast : staged.getLast? = some last) (d : Dialect) :
    d.insert q =
      if (staged.flatMap cells).length ≠ last.length * (columnsOfFirst last).length then
        .error (.bindingMismatch (last.length * (columnsOfFirst last).length)
          (staged.flatMap cells).length)
      else .ok ("INSERT INTO " ++ d.wrap q.table ++ " (" ++ d.wrapAll q.insertColumns ++
        ") VALUES " ++ ", ".intercalate (List.replicate q.insertRows (d.rowTuple q))) := by
  have hstageable : Stageable last := h.stageable last (List.mem_of_getLast? hlast)
  have columns : q.insertColumns = columnsOfFirst last := by rw [h.columns, hlast, Option.getD_some]
  have rows : q.insertRows = last.length := by rw [h.rows, hlast, Option.getD_some]
  have bound : q.bindingsFor .insert = staged.flatMap cells := by
    rw [← h.inserts]
    exact List.append_nil _
  have filled : (q.insertColumns.isEmpty || q.insertRows == 0) = false := by
    simp [columns, rows, hstageable.columns, hstageable.nonempty]
  have count : q.insertColumns.length * q.insertRows =
      last.length * (columnsOfFirst last).length := by
    rw [columns, rows, Nat.mul_comm]
  rw [Dialect.insert]
  simp only [filled, bound, count, Bool.false_eq_true, if_false]

/-- A query for which rows were staged once has an insert. -/
theorem Supplied.insert_eq_ok {rows : List ColumnValues} (h : q.Supplied assigned [rows])
    (d : Dialect) : ∃ sql, d.insert q = .ok sql := by
  have hstageable : Stageable rows := h.stageable rows List.mem_cons_self
  have count : ([rows].flatMap cells).length = rows.length * (columnsOfFirst rows).length := by
    rw [List.flatMap_singleton, hstageable.length_cells]
  refine ⟨_, (h.insert_eq List.getLast?_singleton d).trans (if_neg ?_)⟩
  exact not_not.2 count

/-- A query for which rows were staged more than once has more values than placeholders. -/
theorem Supplied.insert_eq_bindingMismatch {before : List (List ColumnValues)}
    {last : List ColumnValues} (h : q.Supplied assigned (before ++ [last])) (more : before ≠ [])
    (d : Dialect) :
    d.insert q = .error (.bindingMismatch (last.length * (columnsOfFirst last).length)
      ((before ++ [last]).flatMap cells).length) := by
  have hlast : (before ++ [last]).getLast? = some last := List.getLast?_concat
  have hstageable : Stageable last := h.stageable last (List.mem_of_getLast? hlast)
  refine (h.insert_eq hlast d).trans (if_pos fun count => more ?_)
  rw [← hstageable.length_cells] at count
  have once := eq_singleton_of_length_flatMap_cells hlast h.stageable count
  exact (List.append_eq_singleton_iff.1 once).elim And.left fun ⟨_, absent⟩ => by cases absent

/-- **An insert compiles exactly if rows were staged once.** Whatever groups of steps a query is
built by, those that fail included, both kinds of insert compile to the same. With a table they
compile if and only if rows were staged exactly once. If none were there is nothing to insert, and
if rows were staged more often, then the placeholders are those of the rows staged last, while the
values are those of all rows. Without a table this is the fault. -/
theorem compile_insert_attemptEach (table : String) (groups : List (List Refinement))
    (d : Dialect) :
    let q := (ofTable table).attemptEach groups
    let staged := (ofTable table).stagings groups
    d.compile .insertMany q = d.compile .insert q ∧
      (q.table = "" → d.compile .insert q = .error .missingTable) ∧
      (q.table ≠ "" →
        ((∃ sql, d.compile .insert q = .ok sql) ↔ staged.length = 1) ∧
        (staged.length = 0 → d.compile .insert q = .error .emptyInsert) ∧
        ∀ before last, staged = before ++ [last] → before ≠ [] →
          d.compile .insert q = .error (.bindingMismatch
            (last.length * (columnsOfFirst last).length) (staged.flatMap cells).length)) := by
  intro q staged
  obtain ⟨assigned, supplied⟩ : ∃ assigned, q.Supplied assigned staged :=
    (supplied_ofTable table).attemptEach groups
  refine ⟨rfl, fun missing => by simp [Dialect.compile, missing], fun present => ?_⟩
  have compiled : d.compile .insert q = d.insert q := by
    simp [Dialect.compile, present, Dialect.text]
  rw [compiled]
  generalize staged = staged at supplied
  refine ⟨⟨?_, ?_⟩, ?_, ?_⟩
  · rintro ⟨sql, hsql⟩
    rcases List.eq_nil_or_concat' staged with rfl | ⟨before, last, rfl⟩
    · rw [supplied.insert_eq_emptyInsert d] at hsql
      cases hsql
    · by_cases more : before = []
      · rw [more, List.nil_append, List.length_singleton]
      · rw [supplied.insert_eq_bindingMismatch more d] at hsql
        cases hsql
  · intro once
    obtain ⟨rows, rfl⟩ := List.length_eq_one_iff.1 once
    exact supplied.insert_eq_ok d
  · intro never
    obtain rfl := List.length_eq_zero_iff.1 never
    exact supplied.insert_eq_emptyInsert d
  · rintro before last rfl more
    exact supplied.insert_eq_bindingMismatch more d

/-- Rows that were staged by a group that fails do not count. -/
example :
    let rows := [ColumnValues.ofList [("a", .int 1)]]
    let q := (ofTable "t").attemptEach
      [[.stageInsert rows, .whereText .and "a" "no operator" .null], [.stageInsert rows]]
    Dialect.mysql.compile .insert q = .ok "INSERT INTO `t` (`a`) VALUES (?)" := by rfl

end Query

end SqlMapper
