import Mathlib.Data.List.Forall2
import SqlMapper.Dialect.Statement

/-!
# Queries that read the same

The text of a clause shows no bound value, and nothing else of a query that a statement shows holds
one. `Query.SameText` relates two queries that differ at most in their clauses and bindings, with
clauses that read the same in every dialect and sections of the same length; the lengths matter
because an insert is refused when its values do not fill its placeholders. Two such queries compile
to the same result, for every kind of statement (`Query.SameText.compile`).
-/

namespace SqlMapper

/-- Clauses with the same connector whose predicates read the same in every dialect. -/
structure Clause.SameText (c c' : Clause Query) : Prop where
  connector : c.connector = c'.connector
  text : ∀ d : Dialect, d.predicate c.predicate = d.predicate c'.predicate

/-- Bindings with as many values in every section. -/
def Bindings.SameCounts (b b' : Bindings) : Prop :=
  ∀ s, (b.valuesOf s).length = (b'.valuesOf s).length

/-- Queries that differ at most in clauses that read the same and in the values they bind. -/
inductive Query.SameText (q : Query) : Query → Prop where
  /-- The clauses one by one, and the number of values in each section. -/
  | intro {wheres havings : List (Clause Query)} {bindings : Bindings}
      (rows : List.Forall₂ Clause.SameText q.wheres wheres)
      (groups : List.Forall₂ Clause.SameText q.havings havings)
      (counts : q.bindings.SameCounts bindings) :
      SameText q { q with wheres, havings, bindings }

namespace Bindings.SameCounts

variable {b b' : Bindings}

/-- Adding as many values to the same section. -/
theorem append (h : b.SameCounts b') (s : Section) {values values' : List Value}
    (hvalues : values.length = values'.length) :
    (b.append s values).SameCounts (b'.append s values') := by
  intro t
  rw [valuesOf_append, valuesOf_append]
  split
  · rw [List.length_append, List.length_append, h t, hvalues]
  · exact h t

/-- As many values fill the placeholders of a statement. -/
theorem forStatement (h : b.SameCounts b') (kind : StatementKind) :
    (b.forStatement kind).length = (b'.forStatement kind).length := by
  rw [Bindings.forStatement, Bindings.forStatement, List.length_flatMap, List.length_flatMap]
  exact congrArg List.sum (List.map_congr_left fun s _ => h s)

end Bindings.SameCounts

namespace Dialect

variable (d : Dialect) {cs cs' : List (Clause Query)}

/-- Clauses that follow another one read the same. -/
theorem connected_congr (h : List.Forall₂ Clause.SameText cs cs') :
    d.connected cs = d.connected cs' := by
  induction h with
  | nil => rfl
  | cons first _ ih => rw [connected, connected, first.connector, first.text, ih]

/-- Clauses read the same. -/
theorem clauses_congr (h : List.Forall₂ Clause.SameText cs cs') : d.clauses cs = d.clauses cs' := by
  cases h with
  | nil => rfl
  | cons first rest => rw [clauses, clauses, first.text, d.connected_congr rest]

/-- There are clauses on one side if there are on the other. -/
theorem isEmpty_congr (h : List.Forall₂ Clause.SameText cs cs') : cs.isEmpty = cs'.isEmpty := by
  cases h <;> rfl

end Dialect

namespace Query.SameText

variable {q q' : Query}

/-- A query reads like itself. -/
theorem refl (q : Query) : q.SameText q := by
  have same (cs : List (Clause Query)) : List.Forall₂ Clause.SameText cs cs :=
    List.forall₂_same.2 fun _ _ => ⟨rfl, fun _ => rfl⟩
  cases q with
  | mk => exact .intro (same _) (same _) fun _ => rfl

/-- As many values fill the placeholders of a statement. -/
theorem length_bindingsFor (h : q.SameText q') (kind : StatementKind) :
    (q.bindingsFor kind).length = (q'.bindingsFor kind).length := by
  cases h with
  | intro _ _ counts => exact counts.forStatement kind

variable (d : Dialect)

/-- Every part of a select reads the same. -/
theorem part (h : q.SameText q') (p : SelectPart) : d.part q p = d.part q' p := by
  cases h with
  | intro rows groups _ =>
    cases p with
    | wheres =>
      simp only [Dialect.part, Dialect.partText, Dialect.isEmpty_congr rows, d.clauses_congr rows]
    | havings =>
      simp only [Dialect.part, Dialect.partText, Dialect.isEmpty_congr groups,
        d.clauses_congr groups]
    | _ => rfl

/-- A select reads the same. -/
theorem select (h : q.SameText q') : d.select q = d.select q' := by
  rw [Dialect.select_eq, Dialect.select_eq]
  have parts : d.part q = d.part q' := funext (h.part d)
  rw [parts]

/-- The question whether there are rows reads the same. -/
theorem existence (h : q.SameText q') : d.existence q = d.existence q' := by
  unfold Dialect.existence
  rw [h.select d]

/-- The conditions at the end of a statement read the same. -/
theorem whereTail (h : q.SameText q') : d.whereTail q = d.whereTail q' := by
  rw [Dialect.whereTail, Dialect.whereTail, h.part d .wheres]

/-- An insert reads the same, or is refused alike. -/
theorem insert (h : q.SameText q') : d.insert q = d.insert q' := by
  have count := h.length_bindingsFor .insert
  cases h with
  | intro _ _ _ =>
    unfold Dialect.insert
    dsimp only
    rw [count]
    rfl

/-- An update reads the same, or is refused alike. -/
theorem update (h : q.SameText q') : d.update q = d.update q' := by
  have tail := h.whereTail d
  cases h with
  | intro _ _ _ =>
    unfold Dialect.update
    dsimp only
    rw [tail]

/-- A delete reads the same. -/
theorem delete (h : q.SameText q') : d.delete q = d.delete q' := by
  have tail := h.whereTail d
  cases h with
  | intro _ _ _ =>
    unfold Dialect.delete
    rw [tail]

/-- Every statement reads the same, or is refused alike. -/
theorem compile (h : q.SameText q') (kind : StatementKind) :
    d.compile kind q = d.compile kind q' := by
  have table : q.table = q'.table := by cases h; rfl
  rw [Dialect.compile, Dialect.compile, table]
  split
  · rfl
  · cases kind with
    | select => exact congrArg Except.ok (h.select d)
    | existence => exact congrArg Except.ok (h.existence d)
    | insert => exact h.insert d
    | insertMany => exact h.insert d
    | update => exact h.update d
    | delete => exact congrArg Except.ok (h.delete d)

end Query.SameText

end SqlMapper
