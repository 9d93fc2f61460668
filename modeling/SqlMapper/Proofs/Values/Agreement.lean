import SqlMapper.Entity.Snapshot

/-!
# Values that agree

The library compares floats as numbers, so a NaN is not equal to itself. Two values agree
(`Value.Agrees`) if they are equal or both are NaN; this is an equivalence, and the library cannot
tell agreeing values apart: they are equal to the same values (`Value.Agrees.equals_left`). So
attributes that agree column by column differ from a snapshot in the same columns
(`ColumnValues.Agree.dirtyColumns`).
-/

namespace SqlMapper

namespace Binary64

/-- Numbers that equal the same number are equal. -/
theorem equals_trans {x y z : Binary64} (hxy : x.equals y = true) (hyz : y.equals z = true) :
    x.equals z = true := by
  simp only [equals, Bool.and_eq_true, Bool.or_eq_true, Bool.not_eq_true', beq_iff_eq] at hxy hyz ⊢
  obtain ⟨⟨hx, _⟩, hxy⟩ := hxy
  obtain ⟨⟨_, hz⟩, hyz⟩ := hyz
  refine ⟨⟨hx, hz⟩, ?_⟩
  have isZero_of_bits {a b : Binary64} (h : a.bits = b.bits) : a.isZero = b.isZero := by
    simp [isZero, magnitude, h]
  rcases hxy with hxy | ⟨hx0, hy0⟩ <;> rcases hyz with hyz | ⟨hy0', hz0⟩
  · exact .inl (hxy.trans hyz)
  · exact .inr ⟨(isZero_of_bits hxy).trans hy0', hz0⟩
  · exact .inr ⟨hx0, (isZero_of_bits hyz).symm.trans hy0⟩
  · exact .inr ⟨hx0, hz0⟩

end Binary64

namespace Value

/-- Holds of the floats that are not numbers. -/
def isNaN : Value → Bool
  | .float x => x.isNaN
  | _ => false

/-- A value equals itself unless it is NaN. -/
theorem equals_self (v : Value) : v.equals v = !v.isNaN := by
  cases v <;> simp [equals, isNaN, Binary64.equals]

/-- NaN equals nothing. -/
theorem equals_eq_false_of_isNaN (p : Value) {v : Value} (h : v.isNaN = true) :
    p.equals v = false := by
  cases v with
  | float x => cases p <;> simp_all [equals, isNaN, Binary64.equals]
  | _ => cases h

/-- Values that equal the same value are equal. -/
theorem equals_trans {a b c : Value} (hab : a.equals b = true) (hbc : b.equals c = true) :
    a.equals c = true := by
  cases b with
  | float y =>
    cases a with
    | float x =>
      cases c with
      | float z => exact Binary64.equals_trans hab hbc
      | _ => simp [equals] at hbc
    | _ => simp [equals] at hab
  | _ =>
    have hcb : c = _ := (eq_of_equals hbc fun _ hfloat => by cases hfloat).symm
    exact hcb ▸ hab

/-- Two values are equal or both are NaN. -/
def Agrees (a b : Value) : Prop :=
  a.equals b = true ∨ (a.isNaN = true ∧ b.isNaN = true)

namespace Agrees

/-- A value agrees with itself. -/
theorem refl (v : Value) : v.Agrees v := by
  cases h : v.isNaN with
  | true => exact .inr ⟨h, h⟩
  | false => exact .inl (by rw [equals_self, h]; rfl)

/-- Agreement is symmetric. -/
theorem symm {a b : Value} (h : a.Agrees b) : b.Agrees a := by
  rcases h with h | ⟨ha, hb⟩
  · exact .inl (by rw [equals_comm, h])
  · exact .inr ⟨hb, ha⟩

/-- Agreement is transitive. -/
theorem trans {a b c : Value} (hab : a.Agrees b) (hbc : b.Agrees c) : a.Agrees c := by
  rcases hab with hab | ⟨ha, hb⟩
  · rcases hbc with hbc | ⟨hb, _⟩
    · exact .inl (equals_trans hab hbc)
    · rw [equals_eq_false_of_isNaN a hb] at hab
      cases hab
  · rcases hbc with hbc | ⟨_, hc⟩
    · rw [equals_comm, equals_eq_false_of_isNaN c hb] at hbc
      cases hbc
    · exact .inr ⟨ha, hc⟩

/-- Agreeing values equal the same values. -/
theorem equals_left {a b : Value} (h : a.Agrees b) (p : Value) : p.equals a = p.equals b := by
  rcases h with h | ⟨ha, hb⟩
  · rw [Bool.eq_iff_iff]
    constructor
    · intro hp
      exact equals_trans hp h
    · intro hp
      exact equals_trans hp (by rw [equals_comm, h])
  · rw [equals_eq_false_of_isNaN p ha, equals_eq_false_of_isNaN p hb]

/-- Agreeing values are both null or neither is. -/
theorem isNull {a b : Value} (h : a.Agrees b) : a.isNull = b.isNull := by
  rcases h with h | ⟨ha, hb⟩
  · cases a <;> cases b <;> simp_all [equals, Value.isNull]
  · cases a <;> cases b <;> simp_all [isNaN, Value.isNull]

end Agrees

end Value

namespace ColumnValues

/-- The value of a column that is listed once. -/
theorem get?_of_mem {cv : ColumnValues} (h : cv.columns.Nodup) {column : String} {value : Value}
    (hmem : (column, value) ∈ cv.entries) : cv.get? column = some value := by
  obtain ⟨entries⟩ := cv
  induction entries with
  | nil => cases hmem
  | cons entry rest ih =>
    rw [columns, List.map_cons, List.nodup_cons] at h
    rcases List.mem_cons.1 hmem with rfl | hrest
    · simp [get?]
    · have hne : entry.1 ≠ column := fun heq => h.1 (heq ▸ List.mem_map_of_mem hrest)
      have later := ih h.2 hrest
      rw [get?] at later ⊢
      rw [List.find?_cons_of_neg (by simpa using hne)]
      exact later

/-- A column has a value only if it is listed with it. -/
theorem mem_of_get? {cv : ColumnValues} {column : String} {value : Value}
    (h : cv.get? column = some value) : (column, value) ∈ cv.entries := by
  obtain ⟨⟨name, old⟩, hfind, rfl⟩ := Option.map_eq_some_iff.1 h
  have hname : name = column := by simpa using List.find?_some hfind
  exact hname ▸ List.mem_of_find?_eq_some hfind

/-- A column is listed if it has a value. -/
theorem mem_columns_of_get? {cv : ColumnValues} {column : String} {value : Value}
    (h : cv.get? column = some value) : column ∈ cv.columns :=
  List.mem_map_of_mem (f := Prod.fst) (mem_of_get? h)

/-- A column that is listed has a value. -/
theorem exists_get? {cv : ColumnValues} {column : String} (h : column ∈ cv.columns) :
    ∃ value, cv.get? column = some value := by
  obtain ⟨⟨name, value⟩, hmem, rfl⟩ := List.mem_map.1 h
  have hsome : (cv.entries.find? (fun entry => entry.1 == name)).isSome :=
    List.find?_isSome.2 ⟨_, hmem, by simp⟩
  obtain ⟨entry, hentry⟩ := Option.isSome_iff_exists.1 hsome
  exact ⟨entry.2, by rw [get?, hentry]; rfl⟩

/-- The same columns with values that agree. -/
structure Agree (a b : ColumnValues) : Prop where
  columns : a.columns = b.columns
  values : ∀ column v, a.get? column = some v → ∃ w, b.get? column = some w ∧ v.Agrees w

namespace Agree

/-- Columns agree with themselves. -/
theorem refl (a : ColumnValues) : a.Agree a where
  columns := rfl
  values _ v h := ⟨v, h, .refl v⟩

variable {a b : ColumnValues}

/-- What agrees is unset in the same columns. -/
theorem isUnset (h : a.Agree b) (column : String) : a.isUnset column = b.isUnset column := by
  unfold ColumnValues.isUnset
  cases ha : a.get? column with
  | some v =>
    obtain ⟨w, hb, hvw⟩ := h.values column v ha
    rw [hb]
    exact hvw.isNull
  | none =>
    cases hb : b.get? column with
    | none => rfl
    | some w =>
      obtain ⟨v, hv⟩ := exists_get? (h.columns ▸ mem_columns_of_get? hb)
      rw [ha] at hv
      cases hv

end Agree

end ColumnValues

namespace Snapshot

/-- The columns that differ from a snapshot, found column by column. -/
theorem dirtyColumns_eq_filter (s : Snapshot) {attributes : ColumnValues}
    (h : attributes.columns.Nodup) :
    s.dirtyColumns attributes = attributes.columns.filter (fun column =>
      (attributes.get? column).any (fun value => !s.persisted.holds column value)) := by
  rw [dirtyColumns, changes, ColumnValues.filter, ColumnValues.columns, ColumnValues.columns,
    List.filter_map]
  congr 1
  refine List.filter_congr fun entry hentry => ?_
  rw [Function.comp_apply, ColumnValues.get?_of_mem h hentry, Option.any_some]

end Snapshot

/-- Attributes that agree differ from a snapshot in the same columns. -/
theorem ColumnValues.Agree.dirtyColumns {a b : ColumnValues} (h : a.Agree b) (hn : a.columns.Nodup)
    (s : Snapshot) : s.dirtyColumns a = s.dirtyColumns b := by
  rw [s.dirtyColumns_eq_filter hn, s.dirtyColumns_eq_filter (h.columns ▸ hn), ← h.columns]
  refine List.filter_congr fun column hcolumn => ?_
  obtain ⟨v, hv⟩ := exists_get? hcolumn
  obtain ⟨w, hw, hvw⟩ := h.values column v hv
  rw [hv, hw, Option.any_some, Option.any_some, holds, holds]
  cases s.persisted.get? column with
  | none => rfl
  | some present => simp only [hvw.equals_left present]

end SqlMapper
