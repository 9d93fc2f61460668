import SqlMapper.Proofs.Records.Undo
import SqlMapper.Proofs.Run.Replay

/-!
# What a record holds of its row

A record decides what to write by comparing with its snapshot, so the snapshot has to be what the
row holds; the row is known from the statements that took effect. A write keeps the two together for
two reasons. An update assigns every column that differs from what was held (`mirrors_setAll`), and
an insert leaves out a column only if the database counts it up or has a default for it
(`mirrors_insertedRow`).
-/

namespace SqlMapper

/-- Whether the database has a default for a column. -/
def Schema.hasDefault (schema : Schema) (column : String) : Bool :=
  (schema.column? column).any (fun c => c.hasDefault)

/-- What is held of a column mirrors the row: it agrees with the value that was written last, or it
is null where none was written because the database has a default. -/
def Mirrors (schema : Schema) (held row : ColumnValues) (column : String) : Prop :=
  ∃ value, held.get? column = some value ∧
    match row.get? column with
    | some written => value.Agrees written
    | none => value = .null ∧ schema.hasDefault column = true

section Mirroring

variable {schema : Schema} {held row before after values : ColumnValues} {column : String}

/-- A column that was written and is held with a value that agrees. -/
theorem mirrors_of_agrees {value written : Value} (hheld : held.get? column = some value)
    (hrow : row.get? column = some written) (h : value.Agrees written) :
    Mirrors schema held row column := by
  refine ⟨value, hheld, ?_⟩
  rw [hrow]
  exact h

/-- Whether a column mirrors the row depends on that column alone. -/
theorem Mirrors.congr {other last : ColumnValues} (h : Mirrors schema held row column)
    (hheld : other.get? column = held.get? column) (hrow : last.get? column = row.get? column) :
    Mirrors schema other last column := by
  rw [Mirrors, hheld, hrow]
  exact h

/-- A value that agrees with one that is held is as good a mirror. -/
theorem Mirrors.of_agrees {value w : Value} (h : Mirrors schema held row column)
    (hheld : held.get? column = some w) (hafter : after.get? column = some value)
    (hagrees : value.Agrees w) : Mirrors schema after row column := by
  obtain ⟨other, hother, hrow⟩ := h
  obtain rfl : other = w := Option.some.inj (hother.symm.trans hheld)
  refine ⟨value, hafter, ?_⟩
  cases hwritten : row.get? column with
  | some written =>
    rw [hwritten] at hrow
    exact hagrees.trans hrow
  | none =>
    rw [hwritten] at hrow
    obtain ⟨rfl, hdefault⟩ := hrow
    have null : value.isNull = true := by rw [hagrees.isNull]; rfl
    exact ⟨Value.isNull_iff.1 null, hdefault⟩

/-- Attributes that report some values, and are for the rest what they were before. -/
structure Reported (values before after : ColumnValues) : Prop where
  reports : ∀ column value, values.get? column = some value →
    ∃ w, after.get? column = some w ∧ w.Agrees value
  keeps : ∀ column, values.get? column = none → after.get? column = before.get? column

/-- An update assigns every column that differs from what was held, so afterwards the attributes
mirror the row. -/
theorem mirrors_setAll (hreported : Reported values before after)
    (hcovers : values.Covers (before.filter (fun column value => !held.holds column value)).columns)
    (hcolumn : ∃ value, before.get? column = some value) (h : Mirrors schema held row column) :
    Mirrors schema after (row.setAll values.entries) column := by
  have assigned := ColumnValues.get?_setAll_entries hcovers.nodup row column
  cases hvalue : values.get? column with
  | some value =>
    rw [hvalue, Option.some_or] at assigned
    obtain ⟨w, hw, hagrees⟩ := hreported.reports column value hvalue
    exact mirrors_of_agrees hw assigned hagrees
  | none =>
    rw [hvalue, Option.none_or] at assigned
    obtain ⟨value, hbefore⟩ := hcolumn
    obtain ⟨w, hw⟩ : ∃ w, held.get? column = some w := h.imp fun _ hw => hw.1
    -- a column that is not assigned did not differ
    have clean := hcovers.eq_false hbefore (ColumnValues.notMem_columns_of_get? hvalue)
    rw [Bool.not_eq_false', ColumnValues.holds, hw] at clean
    have kept : after.get? column = some value := (hreported.keeps column hvalue).trans hbefore
    exact (h.of_agrees hw kept (.symm (.inl clean))).congr rfl assigned

/-- An attribute that a new row goes without belongs to the column that the database counts up, or
is null in a column with a default. -/
theorem counted_or_default (hkey : schema.HasSingleKey) {value : Value}
    (h : Record.isInserted schema column value = false) :
    schema.generatedColumn? = some column ∨ (value = .null ∧ schema.hasDefault column = true) := by
  rw [Record.isInserted] at h
  cases hc : schema.column? column with
  | none =>
    rw [hc] at h
    cases h
  | some c =>
    rw [hc] at h
    dsimp only at h
    split at h
    · next counted => exact .inl (hkey.generatedColumn?_eq_some hc counted)
    · split at h
      · next hdefault =>
        rw [Bool.not_eq_false', Value.isNull_iff] at h
        refine .inr ⟨h, ?_⟩
        rw [Schema.hasDefault, hc]
        exact hdefault
      · cases h

/-- After an insert the attributes mirror the new row in the columns that are not counted up. -/
theorem mirrors_ofList (hkey : schema.HasSingleKey) (hreported : Reported values before after)
    (hcovers : values.Covers (before.filter (Record.isInserted schema)).columns)
    (hcolumn : ∃ value, before.get? column = some value)
    (hcounted : schema.generatedColumn? ≠ some column) :
    Mirrors schema after (.ofList values.entries) column := by
  have assigned := ColumnValues.get?_ofList_entries hcovers.nodup column
  cases hvalue : values.get? column with
  | some value =>
    obtain ⟨w, hw, hagrees⟩ := hreported.reports column value hvalue
    exact mirrors_of_agrees hw (assigned.trans hvalue) hagrees
  | none =>
    obtain ⟨value, hbefore⟩ := hcolumn
    have left_out := hcovers.eq_false hbefore (ColumnValues.notMem_columns_of_get? hvalue)
    refine ⟨value, (hreported.keeps column hvalue).trans hbefore, ?_⟩
    rw [assigned, hvalue]
    exact (counted_or_default hkey left_out).resolve_left hcounted

/-- Attributes that have the key that the database gave, and are for the rest what they were
before. -/
structure Keyed (schema : Schema) (key : Int64) (before after : ColumnValues) : Prop where
  counted : ∀ column, schema.generatedColumn? = some column → after.get? column = some (.int key)
  keeps : ∀ column, schema.generatedColumn? ≠ some column → after.get? column = before.get? column

/-- After an insert whose key was taken, the attributes mirror the new row. -/
theorem mirrors_insertedRow {synced : ColumnValues} {key : Int64} (hkey : schema.HasSingleKey)
    (hreported : Reported values before synced) (hkeyed : Keyed schema key synced after)
    (hcovers : values.Covers (before.filter (Record.isInserted schema)).columns)
    (hcolumn : ∃ value, before.get? column = some value) :
    Mirrors schema after (schema.insertedRow values.entries key) column := by
  by_cases hcounted : schema.generatedColumn? = some column
  · refine mirrors_of_agrees (hkeyed.counted column hcounted) ?_ (.refl (.int key))
    rw [Schema.insertedRow, hcounted]
    exact ColumnValues.get?_set_self _ column _
  · have others := mirrors_ofList hkey hreported hcovers hcolumn hcounted
    refine others.congr (hkeyed.keeps column hcounted) ?_
    unfold Schema.insertedRow
    cases hgenerated : schema.generatedColumn? with
    | none => rfl
    | some generated =>
      refine ColumnValues.get?_set_of_ne _ _ ?_
      rintro rfl
      exact hcounted hgenerated

end Mirroring

/-- A model where setting an attribute gives it just that value, and which takes the keys that the
database counts up. -/
structure Model.Exact {m : Type → Type} {ℓ α : Type} (model : Model m ℓ α)
    (columns : List String) : Prop extends model.Framed columns where
  reports : ∀ {a next column value}, model.setAttribute a column value = .ok next →
    (model.attributes next).get? column = some value
  takesKey : model.schema.isAutoIncrement = true → ∀ a key, ∃ next,
    model.setAttribute a model.schema.primaryKey (.int key) = .ok next

/-- Such a model is faithful. -/
theorem Model.Exact.toFaithful {m : Type → Type} {ℓ α : Type} {model : Model m ℓ α}
    {columns : List String} (h : model.Exact columns) : model.Faithful columns :=
  ⟨h.toFramed, h.reports⟩

namespace Record

section Attributes

variable {m : Type → Type} {ℓ α : Type} {model : Model m ℓ α} {columns : List String}

/-- Every column of the model has a value. -/
theorem exists_attribute (h : model.Framed columns) (r : Record α) {column : String}
    (hcolumn : column ∈ columns) : ∃ value, (r.attributes model).get? column = some value := by
  rw [← h.columns_eq r.model] at hcolumn
  exact ColumnValues.exists_get? hcolumn

/-- A record that was synchronized reports the values. -/
theorem reported_sync (h : model.Faithful columns) {r next : Record α} {values : ColumnValues}
    (hdistinct : values.columns.Nodup) (hsync : r.sync model values = (.ok (), next)) :
    Reported values (r.attributes model) (next.attributes model) := by
  have settable : ∀ entry ∈ values.entries, ∀ a after,
      model.setAttribute a entry.1 entry.2 = .ok after → model.Reports after entry.1 entry.2 :=
    fun entry _ _ _ hset => ⟨entry.2, h.reports hset, .refl entry.2⟩
  obtain ⟨reports, keeps⟩ := sync_agrees h.toFramed settable hdistinct hsync
  constructor
  · intro column value hvalue
    exact reports _ (ColumnValues.mem_of_get? hvalue)
  · intro column hvalue
    exact keeps column (ColumnValues.notMem_columns_of_get? hvalue)

/-- A key that the database counted up is taken. -/
theorem keyed_takeKey (h : model.Exact columns) (hkey : model.schema.HasSingleKey) (r : Record α)
    {result : InsertResult} {key : Int64}
    (hgenerated : result.generated = if model.schema.isAutoIncrement then [key] else []) :
    ∃ next, r.takeKey model result = (.ok (), next) ∧
      Keyed model.schema key (r.attributes model) (next.attributes model) := by
  have hsome := model.schema.isSome_generatedColumn?
  cases hauto : model.schema.isAutoIncrement with
  | false =>
    rw [hauto] at hgenerated hsome
    have uncounted : model.schema.generatedColumn? = none :=
      Option.not_isSome_iff_eq_none.1 (by simp [hsome])
    refine ⟨r, ?_, ?_, fun _ _ => rfl⟩
    · rw [takeKey, InsertResult.generatedKey?, hgenerated]
      rfl
    · intro column hcolumn
      rw [uncounted] at hcolumn
      cases hcolumn
  | true =>
    rw [hauto] at hgenerated hsome
    obtain ⟨next, hnext⟩ := h.takesKey hauto r.model key
    obtain ⟨counted, hcounted⟩ := Option.isSome_iff_exists.1 hsome
    obtain rfl := hkey.eq_primaryKey hcounted
    refine ⟨{ r with model := next }, ?_, ?_, ?_⟩
    · rw [takeKey, InsertResult.generatedKey?, hgenerated]
      simp only [if_true, List.head?_cons, hnext]
    · intro column hcolumn
      rw [hcounted] at hcolumn
      cases hcolumn
      exact h.reports hnext
    · intro column hcolumn
      refine h.frame hnext column ?_
      rintro rfl
      exact hcolumn hcounted

end Attributes

end Record

end SqlMapper
