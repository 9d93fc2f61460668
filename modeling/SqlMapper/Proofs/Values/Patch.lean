import SqlMapper.Proofs.Values.Columns

/-!
# The changes are the least patch

A patch is laid over columns by setting what it lists. It leads to other columns
(`ColumnValues.Leads`) if each of those then has a value that is equal to theirs, or their very NaN.
The changes since a snapshot lead from the columns of the snapshot to the present ones, and every
patch that leads there sets what they set (`Snapshot.isLeastPatch_changes`); only a NaN that stays
what it was is set for nothing.
-/

namespace SqlMapper

namespace ColumnValues

/-- A column holds a value if its own value is equal to it. -/
theorem holds_iff {cv : ColumnValues} {column : String} {value : Value} :
    cv.holds column value = true ↔ ∃ old, cv.get? column = some old ∧ old.equals value = true := by
  rw [holds]
  cases cv.get? column with
  | none => simp
  | some old => simp

/-- A value stands for another one if it is equal to it or is that very NaN. -/
def StandsFor (got value : Value) : Prop :=
  got.equals value = true ∨ (got = value ∧ value.isNaN = true)

/-- Laid over some columns, a patch gives every one of the target's columns a value that stands for
the target's. -/
def Leads (patch base target : ColumnValues) : Prop :=
  ∀ column value, target.get? column = some value →
    ∃ got, (base.setAll patch.entries).get? column = some got ∧ StandsFor got value

/-- A patch is the least one that leads from some columns to others: it takes from the target, in
order, what the base lacks or has otherwise, it leads there, and each of its columns is needed
there, but for a NaN that is in the base already. -/
structure IsLeastPatch (patch base target : ColumnValues) : Prop where
  sublist : patch.entries.Sublist target.entries
  mem_iff : ∀ column value, (column, value) ∈ patch.entries ↔ (column, value) ∈ target.entries ∧
    ∀ old, base.get? column = some old → old.equals value = false
  leads : patch.Leads base target
  needed : ∀ other : ColumnValues, other.Leads base target → ∀ column ∈ patch.columns,
    column ∈ other.columns ∨ ∃ value, target.get? column = some value ∧ value.isNaN = true ∧
      base.get? column = some value
  dropped : ∀ column ∈ patch.columns, ((patch.erase column).Leads base target ↔
    ∃ value, target.get? column = some value ∧ value.isNaN = true ∧ base.get? column = some value)

/-- A value stands for itself. -/
theorem StandsFor.refl (value : Value) : StandsFor value value := by
  cases hvalue : value.isNaN with
  | true => exact .inr ⟨rfl, hvalue⟩
  | false => exact .inl (by rw [Value.equals_self, hvalue]; rfl)

/-- A column that the target has and the base does not hold is set by every patch, if what the base
has there does not stand for the target's value. -/
theorem Leads.mem_columns {patch base target : ColumnValues} (leads : patch.Leads base target)
    {column : String} {value : Value} (hvalue : target.get? column = some value)
    (differs : ∀ old, base.get? column = some old → ¬ StandsFor old value) :
    column ∈ patch.columns := by
  by_contra hcolumn
  obtain ⟨got, hgot, stands⟩ := leads column value hvalue
  rw [get?_setAll_of_notMem hcolumn] at hgot
  exact differs got hgot stands

end ColumnValues

namespace Snapshot

open ColumnValues

variable {a b : ColumnValues}

/-- A snapshot of distinct attributes holds a value if they do. -/
theorem holds_of (ha : a.columns.Nodup) (column : String) (value : Value) :
    (Snapshot.of a).persisted.holds column value = a.holds column value := by
  rw [holds, holds, Snapshot.get?_of ha]

/-- The changes are what the snapshot's attributes lack or have otherwise. -/
theorem mem_changes_of (ha : a.columns.Nodup) {column : String} {value : Value} :
    (column, value) ∈ ((Snapshot.of a).changes b).entries ↔ (column, value) ∈ b.entries ∧
      ∀ old, a.get? column = some old → old.equals value = false := by
  rw [changes, ColumnValues.filter, List.mem_filter, holds_of ha, Bool.not_eq_true',
    ← Bool.not_eq_true, holds_iff, not_exists]
  simp only [not_and, Bool.not_eq_true]

/-- The changes lead from the snapshot's attributes to the present ones. -/
theorem leads_changes (ha : a.columns.Nodup) (hb : b.columns.Nodup) :
    ((Snapshot.of a).changes b).Leads a b := by
  intro column value hvalue
  have distinct : ((Snapshot.of a).changes b).columns.Nodup := nodup_columns_filter hb _
  rw [get?_setAll_entries distinct]
  by_cases held : a.holds column value = true
  · obtain ⟨old, hold, heq⟩ := holds_iff.1 held
    have unchanged : ((Snapshot.of a).changes b).get? column = none := by
      rw [changes, get?_filter hb, hvalue, Option.filter_some_neg]
      rw [holds_of ha, held]
      rfl
    exact ⟨old, by rw [unchanged, hold]; rfl, .inl heq⟩
  · have changed : ((Snapshot.of a).changes b).get? column = some value := by
      rw [changes, get?_filter hb, hvalue, Option.filter_some_pos]
      rw [holds_of ha, Bool.not_eq_true', ← Bool.not_eq_true]
      exact held
    exact ⟨value, by rw [changed]; rfl, .refl value⟩

/-- The changes are the least patch from the snapshot's attributes to the present ones. -/
theorem isLeastPatch_changes (ha : a.columns.Nodup) (hb : b.columns.Nodup) :
    ((Snapshot.of a).changes b).IsLeastPatch a b := by
  have distinct : ((Snapshot.of a).changes b).columns.Nodup := nodup_columns_filter hb _
  have needed (other : ColumnValues) (leads : other.Leads a b) :
      ∀ column ∈ ((Snapshot.of a).changes b).columns, column ∈ other.columns ∨
        ∃ value, b.get? column = some value ∧ value.isNaN = true ∧ a.get? column = some value := by
    intro column hcolumn
    obtain ⟨value, hvalue⟩ := exists_get? hcolumn
    obtain ⟨hmem, differs⟩ := (mem_changes_of ha).1 (mem_of_get? hvalue)
    have target := get?_of_mem hb hmem
    by_cases stays : value.isNaN = true ∧ a.get? column = some value
    · exact .inr ⟨value, target, stays⟩
    · refine .inl (leads.mem_columns target fun old hold stands => ?_)
      rcases stands with heq | ⟨rfl, hnan⟩
      · exact absurd (differs old hold) (by simp [heq])
      · exact stays ⟨hnan, hold⟩
  refine ⟨List.filter_sublist, fun _ _ => mem_changes_of ha, leads_changes ha hb, needed, ?_⟩
  intro column hcolumn
  constructor
  · intro leads
    refine (needed _ leads column hcolumn).resolve_left ?_
    exact notMem_columns_of_get? (get?_erase_self distinct column)
  · rintro ⟨value, hvalue, hnan, hstays⟩ other v hv
    have less : (((Snapshot.of a).changes b).erase column).columns.Nodup :=
      distinct.sublist (List.eraseP_sublist.map Prod.fst)
    rw [get?_setAll_entries less]
    by_cases same : other = column
    · subst same
      obtain rfl : value = v := Option.some.inj (hvalue.symm.trans hv)
      exact ⟨value, by rw [get?_erase_self distinct, hstays]; rfl, .inr ⟨rfl, hnan⟩⟩
    · rw [get?_erase_of_ne distinct same, ← get?_setAll_entries distinct]
      exact leads_changes ha hb other v hv

/-- Attributes are not dirty if the snapshot holds each of them. -/
theorem isDirty_eq_false_iff (hb : b.columns.Nodup) (s : Snapshot) :
    s.isDirty b = false ↔
      ∀ column value, b.get? column = some value → s.persisted.holds column value = true := by
  rw [isDirty, Bool.not_eq_false', List.isEmpty_iff, dirtyColumns, columns, List.map_eq_nil_iff,
    changes, ColumnValues.filter, List.filter_eq_nil_iff]
  constructor
  · intro clean column value hvalue
    simpa using clean (column, value) (mem_of_get? hvalue)
  · intro held entry hentry
    simpa using held entry.1 entry.2 (get?_of_mem hb hentry)

/-- A column that is null on one side only is dirty. -/
theorem mem_dirtyColumns_of_isNull_ne (ha : a.columns.Nodup) {column : String} {old value : Value}
    (hold : a.get? column = some old) (hvalue : b.get? column = some value)
    (differ : old.isNull ≠ value.isNull) : column ∈ (Snapshot.of a).dirtyColumns b := by
  refine List.mem_map.2 ⟨(column, value), (mem_changes_of ha).2 ⟨mem_of_get? hvalue, ?_⟩, rfl⟩
  intro old' hold'
  obtain rfl := Option.some.inj (hold.symm.trans hold')
  rw [← Bool.not_eq_true]
  exact fun heq => differ (Value.Agrees.isNull (.inl heq))

/-- Without a snapshot every column is dirty. -/
theorem dirtyColumns_empty (b : ColumnValues) : Snapshot.empty.dirtyColumns b = b.columns :=
  congrArg (List.map Prod.fst) (List.filter_eq_self.2 fun _ _ => rfl)

/-- The changes since a snapshot are the least patch that leads from its attributes to the present
ones, and the present ones are clean exactly if the snapshot holds each of them. So unchanged
attributes are clean if none is NaN, one that is null on one side only is dirty, and without a
snapshot all are. -/
theorem changes_are_least (ha : a.columns.Nodup) (hb : b.columns.Nodup) :
    ((Snapshot.of a).changes b).IsLeastPatch a b ∧
      ((Snapshot.of a).isDirty b = false ↔ ∀ column value, b.get? column = some value →
        ∃ old, a.get? column = some old ∧ old.equals value = true) ∧
      ((Snapshot.of a).isDirty a = false ↔
        ∀ column value, a.get? column = some value → value.isNaN = false) ∧
      (∀ column old value, a.get? column = some old → b.get? column = some value →
        old.isNull ≠ value.isNull → column ∈ (Snapshot.of a).dirtyColumns b) ∧
      Snapshot.empty.dirtyColumns b = b.columns := by
  refine ⟨isLeastPatch_changes ha hb, ?_, ?_, fun _ _ _ => mem_dirtyColumns_of_isNull_ne ha,
    dirtyColumns_empty b⟩
  · simp only [isDirty_eq_false_iff hb, holds_of ha, holds_iff]
  · rw [isDirty_eq_false_iff ha]
    refine forall_congr' fun column => forall_congr' fun value => imp_congr_right fun hvalue => ?_
    have self : a.holds column value = value.equals value := by rw [holds, hvalue]
    rw [holds_of ha, self, Value.equals_self, Bool.not_eq_true']

/-- Attributes with a score that is not a number. -/
def scored (name : String) : ColumnValues :=
  ⟨[("name", .text name), ("score", .float ⟨0x7FF8000000000000⟩)]⟩

/-- A score that stays the same NaN is set again beside a name that changed. -/
theorem changes_are_least_of_nan :
    (scored "a").columns.Nodup ∧ (scored "b").columns.Nodup ∧
      (Snapshot.of (scored "a")).changes (scored "b") = scored "b" ∧
      (scored "b").IsLeastPatch (scored "a") (scored "b") := by
  have least := (changes_are_least (a := scored "a") (b := scored "b") (by decide) (by decide)).1
  have patch : (Snapshot.of (scored "a")).changes (scored "b") = scored "b" := by decide
  exact ⟨by decide, by decide, patch, patch ▸ least⟩

end Snapshot

end SqlMapper
