import SqlMapper.Dialect.Select
import SqlMapper.Proofs.Rendering.Piece

/-!
# The rendering of a select

A predicate is rendered with its own value at the place of its placeholder: a comparison with the
value it compares with, a list with its elements in order, a sub-select with the rendering of the
child. Filled with placeholders this is the text of the dialect (`Rendering.text_ofSelect`, by
recursion over queries, clauses and predicates together), and its values are those of the conditions
on rows followed by those of the conditions on groups (`Rendering.values_ofSelect`), because no
other part of a select has a value and none of the two is ever left out.
-/

namespace SqlMapper

namespace Rendering

/-- A part of a select, given the renderings of the conditions on rows and on groups. -/
def ofPart (d : Dialect) (q : Query) (wheres havings : Rendering) : SelectPart → Rendering
  | .wheres => if q.wheres.isEmpty then [] else .literal "WHERE " :: wheres
  | .havings => if q.havings.isEmpty then [] else .literal "HAVING " :: havings
  | part => [.literal (d.partText q "" "" part)]

/-- The parts of a select put together, without those whose text is empty. -/
def assemble (d : Dialect) (q : Query) (wheres havings : Rendering) : Rendering :=
  join " " ((SelectPart.all.map (ofPart d q wheres havings)).filter
    (fun part => part.text d.placeholder != ""))

mutual

/-- A select. -/
def ofSelect (d : Dialect) : Query → Rendering
  | { table, columns, distinct, wheres, joins, groups, havings, orders, limit, offset, assignments,
      insertColumns, insertRows, bindings } =>
    assemble d
      { table, columns, distinct, wheres, joins, groups, havings, orders, limit, offset, assignments,
        insertColumns, insertRows, bindings }
      (ofClauses d wheres) (ofClauses d havings)

/-- A list of clauses. The first connector is left out. -/
def ofClauses (d : Dialect) : List (Clause Query) → Rendering
  | [] => []
  | ⟨_, first⟩ :: rest => ofPredicate d first ++ ofConnected d rest

/-- Clauses that follow another one. -/
def ofConnected (d : Dialect) : List (Clause Query) → Rendering
  | [] => []
  | ⟨connector, next⟩ :: rest =>
    .literal (" " ++ connector.sql ++ " ") :: (ofPredicate d next ++ ofConnected d rest)

/-- A predicate, its values where they stand. -/
def ofPredicate (d : Dialect) : Predicate Query → Rendering
  | .compare column operator value =>
    [.literal (d.wrap column ++ " " ++ operator.sql ++ " "), .bound value]
  | .nullCheck column negated =>
    [.literal (d.wrap column ++ " IS" ++ Dialect.negation negated ++ " NULL")]
  | .among column values negated =>
    if values.isEmpty then [.literal (if negated then "1 = 1" else "0 = 1")]
    else .literal (d.wrap column ++ Dialect.negation negated ++ " IN (") ::
      (join ", " (values.map (fun value => [.bound value])) ++ [.literal ")"])
  | .amongSelect column child negated =>
    .literal (d.wrap column ++ Dialect.negation negated ++ " IN (") ::
      (ofSelect d child ++ [.literal ")"])

end

/-- A select is its parts, those with a text, separated by spaces. -/
theorem ofSelect_eq (d : Dialect) (q : Query) :
    ofSelect d q = assemble d q (ofClauses d q.wheres) (ofClauses d q.havings) := by
  cases q
  rw [ofSelect]

variable (d : Dialect)

/-- A part filled with placeholders is the part of the dialect. -/
theorem text_ofPart (q : Query) (wheres havings : Rendering) (part : SelectPart) :
    (ofPart d q wheres havings part).text d.placeholder =
      d.partText q (wheres.text d.placeholder) (havings.text d.placeholder) part := by
  cases part with
  | wheres => cases h : q.wheres.isEmpty <;> simp [ofPart, Dialect.partText, Dialect.headed, h]
  | havings => cases h : q.havings.isEmpty <;> simp [ofPart, Dialect.partText, Dialect.headed, h]
  | _ => simp [ofPart, Dialect.partText]

/-- A select put together from renderings has the text put together from their texts. -/
theorem text_assemble (q : Query) (wheres havings : Rendering) :
    (assemble d q wheres havings).text d.placeholder =
      d.assemble q (wheres.text d.placeholder) (havings.text d.placeholder) := by
  have parts : SelectPart.all.map
        (d.partText q (wheres.text d.placeholder) (havings.text d.placeholder)) =
      (SelectPart.all.map (ofPart d q wheres havings)).map (text d.placeholder) := by
    rw [List.map_map]
    exact List.map_congr_left fun part _ => (text_ofPart d q wheres havings part).symm
  rw [assemble, text_join, Dialect.assemble, parts, List.filter_map (f := text d.placeholder)]
  rfl

/-- The placeholders of a list of values, one for each. -/
theorem text_join_bound (values : List Value) :
    (join ", " (values.map (fun value => [Piece.bound value]))).text d.placeholder =
      d.placeholders values.length := by
  have single : ((fun r => text d.placeholder r) ∘ fun value => [Piece.bound value]) =
      Function.const Value d.placeholder := by
    funext value
    simp
  rw [text_join, List.map_map, single, List.map_const, Dialect.placeholders]

mutual

/-- A select filled with placeholders is the select of the dialect. -/
theorem text_ofSelect (q : Query) : (ofSelect d q).text d.placeholder = d.select q := by
  obtain ⟨table, columns, distinct, wheres, joins, groups, havings, orders, limit, offset, assignments,
    insertColumns, insertRows, bindings⟩ := q
  rw [ofSelect, Dialect.select, text_assemble, text_ofClauses wheres, text_ofClauses havings]

/-- Clauses filled with placeholders are the clauses of the dialect. -/
theorem text_ofClauses (cs : List (Clause Query)) :
    (ofClauses d cs).text d.placeholder = d.clauses cs := by
  match cs with
  | [] => rfl
  | ⟨_, first⟩ :: rest =>
    rw [ofClauses, Dialect.clauses, text_append, text_ofPredicate first, text_ofConnected rest]

/-- Following clauses filled with placeholders are those of the dialect. -/
theorem text_ofConnected (cs : List (Clause Query)) :
    (ofConnected d cs).text d.placeholder = d.connected cs := by
  match cs with
  | [] => rfl
  | ⟨connector, next⟩ :: rest =>
    rw [ofConnected, Dialect.connected, text_literal, text_append, text_ofPredicate next,
      text_ofConnected rest]
    simp only [String.append_assoc]

/-- A predicate filled with placeholders is the predicate of the dialect. -/
theorem text_ofPredicate (p : Predicate Query) :
    (ofPredicate d p).text d.placeholder = d.predicate p := by
  match p with
  | .compare column operator value => simp [ofPredicate, Dialect.predicate]
  | .nullCheck column negated => simp [ofPredicate, Dialect.predicate]
  | .among column values negated =>
    cases h : values.isEmpty with
    | true => simp [ofPredicate, Dialect.predicate, h]
    | false =>
      simp only [ofPredicate, Dialect.predicate, h, Bool.false_eq_true, if_false, text_literal,
        text_append, text_join_bound, text_nil, String.append_empty, String.append_assoc]
  | .amongSelect column child negated =>
    simp only [ofPredicate, Dialect.predicate, text_literal, text_append, text_ofSelect child, text_nil,
      String.append_empty, String.append_assoc]

end

/-- A part without a text has no values either. -/
theorem values_ofPart_of_text_eq_empty {q : Query} {wheres havings : Rendering} {part : SelectPart}
    (h : (ofPart d q wheres havings part).text d.placeholder = "") :
    (ofPart d q wheres havings part).values = [] := by
  cases part with
  | wheres => cases hq : q.wheres.isEmpty <;> simp_all [ofPart, String.append_eq_empty_iff]
  | havings => cases hq : q.havings.isEmpty <;> simp_all [ofPart, String.append_eq_empty_iff]
  | _ => rfl

/-- The values of a select are those of its two conditions, the one on rows first. -/
theorem values_assemble (q : Query) (wheres havings : Rendering) :
    (assemble d q wheres havings).values =
      (ofPart d q wheres havings .wheres).values ++ (ofPart d q wheres havings .havings).values := by
  rw [assemble, values_join_filter]
  · simp [SelectPart.all, ofPart]
  · intro r hr hkeep
    obtain ⟨part, _, rfl⟩ := List.mem_map.1 hr
    exact values_ofPart_of_text_eq_empty d (by simpa using hkeep)

/-- The values of a select are those of the conditions on rows, then those of the conditions on
groups. -/
theorem values_ofSelect (q : Query) :
    (ofSelect d q).values = (ofClauses d q.wheres).values ++ (ofClauses d q.havings).values := by
  rw [ofSelect_eq, values_assemble]
  cases hw : q.wheres <;> cases hh : q.havings <;> simp [ofPart, hw, hh, ofClauses]

/-- Clauses that follow another one have the values of their predicates in order. -/
theorem values_ofConnected (cs : List (Clause Query)) :
    (ofConnected d cs).values = cs.flatMap (fun c => (ofPredicate d c.predicate).values) := by
  induction cs with
  | nil => rfl
  | cons c rest ih => rw [ofConnected, values_literal, values_append, ih, List.flatMap_cons]

/-- Clauses have the values of their predicates in order. -/
theorem values_ofClauses (cs : List (Clause Query)) :
    (ofClauses d cs).values = cs.flatMap (fun c => (ofPredicate d c.predicate).values) := by
  cases cs with
  | nil => rfl
  | cons c rest => rw [ofClauses, values_append, values_ofConnected, List.flatMap_cons]

end Rendering

end SqlMapper
