import SqlMapper.Proofs.Rendering.Statement
import SqlMapper.Proofs.Unambiguous.Shape

/-!
# Tables of sub-selects

The text of a statement encloses the selects of all sub-selects in the clauses it shows, at any
depth (`Query.encloses_of_renders`). Steps of building bring these sub-selects in one by one
(`Query.selectsOf_refineEach`), whether or not they have a table. Compiling asks for the table of
the query itself only (`Query.compile_eq_missingTable_iff`), so a statement may select from nothing:
`Query.reads_nothing` is a delete that does. `Query.Reached.compile_reads_tables_iff` says for which
steps no statement does.
-/

namespace SqlMapper

/-- One text stands somewhere in another one. -/
def Text.Encloses (text part : String) : Prop :=
  ∃ before after, text = before ++ part ++ after

namespace Text.Encloses

variable {text part : String}

/-- A text stands in itself. -/
theorem refl (text : String) : Encloses text text :=
  ⟨"", "", by simp⟩

/-- What stands in a text that stands in another one stands in that one. -/
theorem trans {whole : String} (h : Encloses whole text) (inner : Encloses text part) :
    Encloses whole part := by
  obtain ⟨before, after, rfl⟩ := h
  obtain ⟨before', after', rfl⟩ := inner
  exact ⟨before ++ before', after' ++ after, by simp only [String.append_assoc]⟩

/-- The empty text stands in every text. -/
theorem empty (text : String) : Encloses text "" :=
  ⟨"", text, by simp⟩

/-- What stands in a text stands in a longer one. -/
theorem append_right (h : Encloses text part) (after : String) : Encloses (text ++ after) part :=
  trans ⟨"", after, by rw [String.empty_append]⟩ h

/-- What stands in a text stands in one with something before it. -/
theorem append_left (h : Encloses text part) (before : String) : Encloses (before ++ text) part :=
  trans ⟨before, "", by rw [String.append_empty]⟩ h

/-- A text among others stands in what they are put together to. -/
theorem intercalate {texts : List String} (h : text ∈ texts) (separator : String) :
    Encloses (separator.intercalate texts) text := by
  induction texts with
  | nil => cases h
  | cons first rest ih =>
    cases rest with
    | nil =>
      obtain rfl := List.mem_singleton.1 h
      rw [String.intercalate_singleton]
      exact refl text
    | cons second others =>
      rw [String.intercalate_cons_cons]
      rcases List.mem_cons.1 h with rfl | later
      · exact ((refl text).append_right separator).append_right _
      · exact (ih later).append_left _

end Text.Encloses

open Text (Encloses)

/-- The sub-select that a step brings in, if it stands in a condition whose values are bound in the
section. -/
def Refinement.selectFor (s : Section) : Refinement → Option Query
  | .where_ _ p => if s = .rows then p.child? else none
  | .having _ p => if s = .groups then p.child? else none
  | _ => none

namespace Query

/-- The conditions whose values are bound in a section. -/
def clausesOf (q : Query) : Section → List (Clause Query)
  | .rows => q.wheres
  | .groups => q.havings
  | .insert | .update => []

/-- The sub-selects of the conditions whose values are bound in a section. -/
def selectsOf (q : Query) (s : Section) : List Query :=
  (q.clausesOf s).filterMap fun c => c.predicate.child?

/-- The sub-selects that a statement of a query shows, at any depth. -/
def Renders (q : Query) (kind : StatementKind) (inner : Query) : Prop :=
  ∃ s ∈ kind.sections, ∃ child ∈ q.selectsOf s, inner.Within child

/-- A query has a table, and so have the sub-selects that its statement shows, at any depth. -/
structure ReadsTables (q : Query) (kind : StatementKind) : Prop where
  table : q.table ≠ ""
  inner : ∀ inner, q.Renders kind inner → inner.table ≠ ""

/-- A select has a table, and so have its sub-selects, at any depth. -/
def HasTables (q : Query) : Prop :=
  ∀ inner : Query, inner.Within q → inner.table ≠ ""

end Query

namespace Dialect

variable (d : Dialect) {q child : Query}

/-- A predicate shows its sub-select. -/
theorem predicate_encloses {p : Predicate Query} (h : p.child? = some child) :
    Encloses (d.predicate p) (d.select child) := by
  cases p with
  | amongSelect column select negated =>
    cases h
    rw [predicate]
    exact ((Encloses.refl _).append_left _).append_right ")"
  | _ => cases h

/-- Clauses that follow another one show their predicates. -/
theorem connected_encloses {cs : List (Clause Query)} {c : Clause Query} (h : c ∈ cs) :
    Encloses (d.connected cs) (d.predicate c.predicate) := by
  induction cs with
  | nil => cases h
  | cons first rest ih =>
    rw [connected]
    rcases List.mem_cons.1 h with rfl | later
    · exact ((Encloses.refl _).append_left _).append_right _
    · exact (ih later).append_left _

/-- Clauses show their predicates. -/
theorem clauses_encloses {cs : List (Clause Query)} {c : Clause Query} (h : c ∈ cs) :
    Encloses (d.clauses cs) (d.predicate c.predicate) := by
  cases cs with
  | nil => cases h
  | cons first rest =>
    rw [clauses]
    rcases List.mem_cons.1 h with rfl | later
    · exact (Encloses.refl _).append_right _
    · exact (d.connected_encloses later).append_left _

/-- Conditions after a keyword show their sub-selects. -/
theorem headed_encloses {s : Section} (h : child ∈ q.selectsOf s) (keyword : String) :
    Encloses (headed keyword (q.clausesOf s).isEmpty (d.clauses (q.clausesOf s)))
      (d.select child) := by
  obtain ⟨c, hc, hchild⟩ := List.mem_filterMap.1 h
  have shown : Encloses (d.clauses (q.clausesOf s)) (d.select child) :=
    (d.clauses_encloses hc).trans (d.predicate_encloses hchild)
  have filled : (q.clausesOf s).isEmpty = false := List.isEmpty_eq_false_iff_exists_mem.2 ⟨c, hc⟩
  rw [headed, filled]
  exact shown.append_left keyword

/-- A select shows its parts. -/
theorem select_encloses_part (q : Query) (p : SelectPart) :
    Encloses (d.select q) (d.part q p) := by
  rw [select_eq]
  by_cases empty : d.part q p = ""
  · rw [empty]
    exact .empty _
  · have shown : d.part q p ∈ (SelectPart.all.map (d.part q)).filter (fun part => part != "") :=
      List.mem_filter.2 ⟨List.mem_map_of_mem (by cases p <;> decide), by simpa using empty⟩
    exact .intercalate shown " "

/-- A select shows the sub-selects in its conditions. -/
theorem select_encloses {s : Section} (h : child ∈ q.selectsOf s) :
    Encloses (d.select q) (d.select child) := by
  cases s with
  | rows => exact (d.select_encloses_part q .wheres).trans (d.headed_encloses h "WHERE ")
  | groups => exact (d.select_encloses_part q .havings).trans (d.headed_encloses h "HAVING ")
  | insert | update => exact absurd h List.not_mem_nil

/-- A select shows the selects inside it, at any depth. -/
theorem select_encloses_within {inner : Query} (h : inner.Within q) :
    Encloses (d.select q) (d.select inner) := by
  induction h with
  | refl => exact .refl _
  | @child q inner child c _ clause select ih =>
    refine ih.trans ?_
    rcases List.mem_append.1 clause with hc | hc
    · exact d.select_encloses (s := .rows) (List.mem_filterMap.2 ⟨c, hc, select⟩)
    · exact d.select_encloses (s := .groups) (List.mem_filterMap.2 ⟨c, hc, select⟩)

/-- The conditions at the end of a statement show their sub-selects. -/
theorem whereTail_encloses (h : child ∈ q.selectsOf .rows) :
    Encloses (d.whereTail q) (d.select child) := by
  have shown : Encloses (d.part q .wheres) (d.select child) := d.headed_encloses h "WHERE "
  rw [whereTail]
  split
  · next empty =>
    rw [beq_iff_eq] at empty
    rwa [empty] at shown
  · exact shown.append_left " "

/-- A statement shows the sub-selects in the conditions of the sections it uses. -/
theorem text_encloses {kind : StatementKind} {sql : String} (hsql : d.text q kind = .ok sql)
    {s : Section} (hs : s ∈ kind.sections) (h : child ∈ q.selectsOf s) :
    Encloses sql (d.select child) := by
  cases kind with
  | select =>
    cases hsql
    exact d.select_encloses h
  | existence =>
    cases hsql
    unfold existence
    exact (((d.select_encloses h).append_left _).append_right _).append_right _
  | delete =>
    cases hsql
    obtain rfl := List.mem_singleton.1 hs
    exact (d.whereTail_encloses h).append_left _
  | update =>
    rw [text, update] at hsql
    split at hsql
    · cases hsql
    · cases hsql
      rcases List.mem_cons.1 hs with rfl | hs
      · exact absurd h List.not_mem_nil
      · obtain rfl := List.mem_singleton.1 hs
        exact (d.whereTail_encloses h).append_left _
  | insert | insertMany =>
    obtain rfl := List.mem_singleton.1 hs
    exact absurd h List.not_mem_nil

end Dialect

namespace Query

variable {q next : Query}

/-- One more clause has its own sub-select last. -/
theorem filterMap_child?_concat (cs : List (Clause Query)) (connector : Connector)
    (p : Predicate Query) :
    (cs ++ [Clause.mk connector p.normalize]).filterMap (fun c => c.predicate.child?) =
      cs.filterMap (fun c => c.predicate.child?) ++ p.child?.toList := by
  rw [List.filterMap_append, ← Predicate.child?_normalize p]
  cases h : p.normalize.child? <;> simp [h]

/-- A condition on rows brings in its sub-select. -/
theorem selectsOf_addWhere (q : Query) (connector : Connector) (p : Predicate Query) (s : Section) :
    (q.addWhere connector p).selectsOf s =
      q.selectsOf s ++ (if s = .rows then p.child? else none).toList := by
  cases s with
  | rows => exact filterMap_child?_concat q.wheres connector p
  | insert | update | groups => exact (List.append_nil _).symm

/-- A condition on groups brings in its sub-select. -/
theorem selectsOf_addHaving (q : Query) (connector : Connector) (p : Predicate Query)
    (s : Section) :
    (q.addHaving connector p).selectsOf s =
      q.selectsOf s ++ (if s = .groups then p.child? else none).toList := by
  cases s with
  | groups => exact filterMap_child?_concat q.havings connector p
  | insert | update | rows => exact (List.append_nil _).symm

/-- A step that succeeds brings its sub-select into its section. -/
theorem selectsOf_refine {step : Refinement} (h : q.refine step = .ok next) (s : Section) :
    next.selectsOf s = q.selectsOf s ++ (step.selectFor s).toList := by
  cases step with
  | where_ connector p =>
    cases h
    exact selectsOf_addWhere q connector p s
  | having connector p =>
    cases h
    exact selectsOf_addHaving q connector p s
  | whereText connector column operator value =>
    obtain ⟨op, hop⟩ := ok_of_bind h
    cases hop
    have same := selectsOf_addWhere q connector (.comparison column op value) s
    rwa [Predicate.child?_comparison, ite_self] at same
  | havingText connector column operator value =>
    obtain ⟨op, hop⟩ := ok_of_bind h
    cases hop
    have same := selectsOf_addHaving q connector (.comparison column op value) s
    rwa [Predicate.child?_comparison, ite_self] at same
  | join kind table left operator right =>
    obtain ⟨op, hop⟩ := ok_of_bind h
    cases hop
    exact (List.append_nil _).symm
  | orderByText column direction =>
    obtain ⟨dir, hdir⟩ := ok_of_bind h
    cases hdir
    exact (List.append_nil _).symm
  | stageInsert rows =>
    obtain ⟨-, rfl⟩ := stageInsert_eq_ok h
    exact (List.append_nil _).symm
  | _ =>
    cases h
    exact (List.append_nil _).symm

/-- A step that fails has no sub-select. -/
theorem selectFor_of_refine_error {step : Refinement} {fault : QueryFault}
    (h : q.refine step = .error fault) (s : Section) : step.selectFor s = none := by
  cases step with
  | where_ connector p | having connector p => cases h
  | _ => rfl

/-- The sub-selects in a section are those that the steps bring in, in order. -/
theorem selectsOf_refineEach (q : Query) (steps : List Refinement) (s : Section) :
    (q.refineEach steps).selectsOf s =
      q.selectsOf s ++ steps.filterMap (Refinement.selectFor s) := by
  induction steps generalizing q with
  | nil => exact (List.append_nil _).symm
  | cons step rest ih =>
    have first : ((q.refine step).toOption.getD q).selectsOf s =
        q.selectsOf s ++ (step.selectFor s).toList := by
      cases hr : q.refine step with
      | ok next => exact selectsOf_refine hr s
      | error fault =>
        rw [selectFor_of_refine_error hr s]
        exact (List.append_nil _).symm
    have later := ih ((q.refine step).toOption.getD q)
    rw [first, List.append_assoc] at later
    rw [List.filterMap_cons]
    cases hs : step.selectFor s <;> simpa [hs, refineEach] using later

/-- The sub-selects in a section of a query that steps lead to are those that the steps bring in. -/
theorem Reached.selectsOf_eq {steps : List Refinement} (h : q.Reached steps) (s : Section) :
    q.selectsOf s = steps.filterMap (Refinement.selectFor s) := by
  obtain ⟨table, rfl⟩ := h.eq
  have none : (ofTable table).selectsOf s = [] := by cases s <;> rfl
  rw [selectsOf_refineEach, none, List.nil_append]

/-- The text of a statement encloses the selects of the sub-selects it shows. -/
theorem encloses_of_renders {d : Dialect} {kind : StatementKind} {sql : String}
    (hsql : d.text q kind = .ok sql) {inner : Query} (h : q.Renders kind inner) :
    Text.Encloses sql (d.select inner) := by
  obtain ⟨s, hs, child, hchild, hinner⟩ := h
  exact (d.text_encloses hsql hs hchild).trans (d.select_encloses_within hinner)

/-- Rendering a statement never asks for a table. -/
theorem text_ne_missingTable (d : Dialect) (kind : StatementKind) (q : Query) :
    d.text q kind ≠ .error .missingTable := by
  have insert : d.insert q ≠ .error .missingTable := by
    unfold Dialect.insert
    intro refused
    dsimp only at refused
    split at refused
    · cases refused
    · split at refused <;> cases refused
  have update : d.update q ≠ .error .missingTable := by
    unfold Dialect.update
    intro refused
    split at refused <;> cases refused
  cases kind with
  | insert | insertMany => exact insert
  | update => exact update
  | select | existence | delete =>
    intro refused
    cases refused

/-- A query is refused for its table exactly if it has none. -/
theorem compile_eq_missingTable_iff (d : Dialect) (kind : StatementKind) (q : Query) :
    d.compile kind q = .error .missingTable ↔ q.table = "" := by
  rw [Dialect.compile]
  by_cases missing : q.table = ""
  · simp [missing]
  · simp [missing, text_ne_missingTable]

/-- A statement compiles if its text can be rendered and the query has a table. -/
theorem compile_eq_ok_iff {d : Dialect} {kind : StatementKind} {sql : String} :
    d.compile kind q = .ok sql ↔ q.table ≠ "" ∧ d.text q kind = .ok sql := by
  rw [Dialect.compile]
  by_cases missing : q.table = "" <;> simp [missing]

/-- All tables of a statement of a query that steps lead to are there if the query has one and so
have the sub-selects that the steps bring in. -/
theorem Reached.readsTables_iff_hasTables {steps : List Refinement} (h : q.Reached steps)
    (kind : StatementKind) :
    q.ReadsTables kind ↔ q.table ≠ "" ∧ ∀ s ∈ kind.sections, ∀ step ∈ steps, ∀ child,
      step.selectFor s = some child → child.HasTables := by
  constructor
  · intro reads
    refine ⟨reads.table, fun s hs step hstep child hchild inner hinner => ?_⟩
    have shown : child ∈ q.selectsOf s := by
      rw [h.selectsOf_eq s]
      exact List.mem_filterMap.2 ⟨step, hstep, hchild⟩
    exact reads.inner inner ⟨s, hs, child, shown, hinner⟩
  · rintro ⟨table, brought⟩
    refine ⟨table, ?_⟩
    rintro inner ⟨s, hs, child, shown, hinner⟩
    rw [h.selectsOf_eq s] at shown
    obtain ⟨step, hstep, hchild⟩ := List.mem_filterMap.1 shown
    exact brought s hs step hstep child hchild inner hinner

/-- **A statement reads from tables alone if its sub-selects were given tables.** A query is refused
for lack of a table exactly if it has none itself, and the text of a statement encloses the select
of every sub-select in the conditions it shows, with or without a table. So if a query that steps
lead to compiles, it and all these sub-selects have tables, and if one lacks a table it is refused
for that, exactly on one condition: in case the query compiles, each sub-select that a step brought
into a section of the statement has a table at every depth. -/
theorem Reached.compile_reads_tables_iff {steps : List Refinement} (h : q.Reached steps)
    (d : Dialect) (kind : StatementKind) :
    (d.compile kind q = .error .missingTable ↔ q.table = "") ∧
      (∀ sql, d.compile kind q = .ok sql →
        ∀ inner, q.Renders kind inner → Text.Encloses sql (d.select inner)) ∧
      (((∀ sql, d.compile kind q = .ok sql → q.ReadsTables kind) ∧
          ∀ sql, d.text q kind = .ok sql → ¬ q.ReadsTables kind →
            d.compile kind q = .error .missingTable) ↔
        ∀ sql, d.compile kind q = .ok sql → ∀ s ∈ kind.sections, ∀ step ∈ steps, ∀ child,
          step.selectFor s = some child → child.HasTables) := by
  have missing := compile_eq_missingTable_iff d kind q
  refine ⟨missing, fun sql hsql inner => encloses_of_renders (compile_eq_ok_iff.1 hsql).2, ?_⟩
  constructor
  · rintro ⟨reads, -⟩ sql hsql
    exact ((h.readsTables_iff_hasTables kind).1 (reads sql hsql)).2
  · intro brought
    have reads (sql : String) (hsql : d.compile kind q = .ok sql) : q.ReadsTables kind :=
      (h.readsTables_iff_hasTables kind).2 ⟨(compile_eq_ok_iff.1 hsql).1, brought sql hsql⟩
    refine ⟨reads, fun sql hsql lacking => missing.2 (Decidable.byContradiction fun present => ?_)⟩
    exact lacking (reads sql (compile_eq_ok_iff.2 ⟨present, hsql⟩))

/-- Inside a fresh query there is nothing but the query itself. -/
theorem eq_ofTable_of_within {table : String} {inner : Query} (h : inner.Within (ofTable table)) :
    inner = ofTable table := by
  generalize hq : ofTable table = q at h
  induction h with
  | refl => rfl
  | child _ clause _ ih =>
    obtain rfl := ih hq
    rw [← hq] at clause
    exact absurd clause List.not_mem_nil

/-- A condition whose sub-select reads all tags. -/
def untaggedSteps : List Refinement :=
  [.where_ .and (.amongSelect "id" (ofTable "tags") true)]

/-- The delete with this condition reads from tables alone. -/
theorem reads_tables_untagged :
    let q := (ofTable "users").refineEach untaggedSteps
    Dialect.mysql.compile .delete q =
        .ok "DELETE FROM `users` WHERE `id` NOT IN (SELECT * FROM `tags`)" ∧
      q.ReadsTables .delete := by
  have compiled : Dialect.mysql.compile .delete ((ofTable "users").refineEach untaggedSteps) =
      .ok "DELETE FROM `users` WHERE `id` NOT IN (SELECT * FROM `tags`)" := by rfl
  have reached : ((ofTable "users").refineEach untaggedSteps).Reached untaggedSteps := by
    refine ⟨⟨"users", rfl⟩, fun step hstep child hchild => ?_⟩
    obtain rfl := List.mem_singleton.1 hstep
    cases hchild
    exact .fresh "tags"
  have tags : (ofTable "tags").HasTables := by
    intro inner hinner
    obtain rfl := eq_ofTable_of_within hinner
    decide
  refine ⟨compiled, ((reached.compile_reads_tables_iff .mysql .delete).2.2.2 ?_).1 _ compiled⟩
  intro sql _ s hs step hstep child hchild
  obtain rfl := List.mem_singleton.1 hs
  obtain rfl := List.mem_singleton.1 hstep
  cases hchild
  exact tags

/-- A delete whose sub-select was given no table compiles all the same, and selects from nothing. -/
theorem reads_nothing :
    let q := (ofTable "t").addWhere .and (.amongSelect "id" {} false)
    Built q ∧ Dialect.mysql.compile .delete q = .ok "DELETE FROM `t` WHERE `id` IN (SELECT *)" ∧
      ¬ q.ReadsTables .delete := by
  have compiled :
      Dialect.mysql.compile .delete ((ofTable "t").addWhere .and (.amongSelect "id" {} false)) =
        .ok "DELETE FROM `t` WHERE `id` IN (SELECT *)" := by rfl
  intro q
  have built : Built q := by
    refine .step (.where_ .and (.amongSelect "id" {} false)) (.fresh "t") ?_ rfl
    rintro child ⟨⟩
    exact .fresh ""
  have shown : q.Renders .delete {} :=
    ⟨.rows, List.mem_singleton_self _, {}, List.mem_singleton_self _, .refl _⟩
  exact ⟨built, compiled, fun reads => reads.inner {} shown rfl⟩

end Query

end SqlMapper
