import SqlMapper.Entity.Writing
import SqlMapper.Proofs.Values.Agreement

/-!
# Setting attributes one after another

A write sets the attributes of a datum that differ from some values, one after another, and compares
with the attributes at the start. If the columns are distinct, and if setting an attribute gives it
a value that agrees with the one it was given, then afterwards all of these columns agree with the
values, and the others are as they were (`Record.syncFrom_agrees`). If it fails, then at a value
that differs and that the attribute refuses (`Record.exists_refused_of_syncFrom`); either way an
attribute that is only given the value it has keeps it (`Record.syncFrom_keeps`).

The data of `Schema.freeModel` hold any values and take any others.
-/

namespace SqlMapper

variable {m : Type → Type} {ℓ α : Type}

/-- A model whose data always have the same distinct columns, and where setting an attribute changes
no other one. -/
structure Model.Framed (model : Model m ℓ α) (columns : List String) : Prop where
  distinct : columns.Nodup
  columns_eq : ∀ a, (model.attributes a).columns = columns
  frame : ∀ {a next column value}, model.setAttribute a column value = .ok next →
    ∀ other, other ≠ column → (model.attributes next).get? other = (model.attributes a).get? other

/-- The columns of a datum are distinct. -/
theorem Model.Framed.nodup {model : Model m ℓ α} {columns : List String}
    (h : model.Framed columns) (a : α) : (model.attributes a).columns.Nodup := by
  rw [h.columns_eq a]
  exact h.distinct

/-- A model where setting an attribute, if it succeeds, gives it just that value. -/
structure Model.Faithful (model : Model m ℓ α) (columns : List String) : Prop
    extends model.Framed columns where
  reports : ∀ {a next column value}, model.setAttribute a column value = .ok next →
    (model.attributes next).get? column = some value

/-- A model whose data have distinct columns each, which need not be the same, and where setting an
attribute changes no other one. -/
structure Model.Separate (model : Model m ℓ α) : Prop where
  nodup : ∀ a, (model.attributes a).columns.Nodup
  frame : ∀ {a next column value}, model.setAttribute a column value = .ok next →
    ∀ other, other ≠ column → (model.attributes next).get? other = (model.attributes a).get? other

/-- A model with separate attributes where setting one, if it succeeds, gives it just that value. -/
structure Model.Plain (model : Model m ℓ α) : Prop extends model.Separate where
  reports : ∀ {a next column value}, model.setAttribute a column value = .ok next →
    (model.attributes next).get? column = some value

/-- Data that always have the same distinct columns have distinct columns each. -/
theorem Model.Framed.separate {model : Model m ℓ α} {columns : List String}
    (h : model.Framed columns) : model.Separate :=
  ⟨h.nodup, h.frame⟩

/-- Faithful attributes are plain. -/
theorem Model.Faithful.plain {model : Model m ℓ α} {columns : List String}
    (h : model.Faithful columns) : model.Plain :=
  ⟨h.toFramed.separate, h.reports⟩

/-- An attribute has a value that agrees with the given one. -/
def Model.Reports (model : Model m ℓ α) (a : α) (column : String) (value : Value) : Prop :=
  ∃ w, (model.attributes a).get? column = some w ∧ w.Agrees value

namespace Record

variable {model : Model m ℓ α} {columns : List String}

/-- One column of a synchronization: it is left alone if it had the value at the start, and it is
set if not. Either way it reports the value, and the others are as they were. -/
theorem syncFrom_cons (h : model.Framed columns) {start a last : α} {column : String}
    {value : Value} {rest : List (String × Value)}
    (hset : ∀ a next, model.setAttribute a column value = .ok next →
      model.Reports next column value)
    (hstart : (model.attributes a).get? column = (model.attributes start).get? column)
    (hsync : syncFrom model (model.attributes start) ((column, value) :: rest) a = (.ok (), last)) :
    ∃ next, syncFrom model (model.attributes start) rest next = (.ok (), last) ∧
      model.Reports next column value ∧ ∀ other, other ≠ column →
        (model.attributes next).get? other = (model.attributes a).get? other := by
  rw [syncFrom] at hsync
  cases hholds : (model.attributes start).holds column value with
  | true =>
    rw [hholds, if_pos rfl] at hsync
    refine ⟨a, hsync, ?_, fun _ _ => rfl⟩
    rw [ColumnValues.holds] at hholds
    cases hpresent : (model.attributes start).get? column with
    | none =>
      rw [hpresent] at hholds
      cases hholds
    | some present =>
      rw [hpresent] at hholds
      exact ⟨present, hstart.trans hpresent, .inl hholds⟩
  | false =>
    rw [hholds, if_neg Bool.false_ne_true] at hsync
    cases hnext : model.setAttribute a column value with
    | error fault =>
      rw [hnext] at hsync
      cases hsync
    | ok next =>
      rw [hnext] at hsync
      exact ⟨next, hsync, hset a next hnext, h.frame hnext⟩

/-- After a synchronization that succeeded, every column reports its value, and the columns that
were not given are as they were. The induction is on the values that are still to come; their
columns are as they were at the start. -/
theorem syncFrom_agrees (h : model.Framed columns) {start last : α} {rest : List (String × Value)}
    {a : α} (hset : ∀ entry ∈ rest, ∀ a next, model.setAttribute a entry.1 entry.2 = .ok next →
      model.Reports next entry.1 entry.2)
    (hdistinct : (rest.map Prod.fst).Nodup)
    (hstart : ∀ entry ∈ rest,
      (model.attributes a).get? entry.1 = (model.attributes start).get? entry.1)
    (hsync : syncFrom model (model.attributes start) rest a = (.ok (), last)) :
    (∀ entry ∈ rest, model.Reports last entry.1 entry.2) ∧
      ∀ other, other ∉ rest.map Prod.fst →
        (model.attributes last).get? other = (model.attributes a).get? other := by
  induction rest generalizing a with
  | nil =>
    cases hsync
    exact ⟨nofun, fun _ _ => rfl⟩
  | cons entry rest ih =>
    obtain ⟨column, value⟩ := entry
    rw [List.map_cons, List.nodup_cons] at hdistinct
    rw [List.forall_mem_cons] at hset hstart
    have hcolumn : column ∉ rest.map Prod.fst := hdistinct.1
    obtain ⟨next, hnext, hreports, hothers⟩ := syncFrom_cons h hset.1 hstart.1 hsync
    have later : ∀ entry ∈ rest,
        (model.attributes next).get? entry.1 = (model.attributes start).get? entry.1 := by
      intro entry hentry
      have hne : entry.1 ≠ column := by
        rintro rfl
        exact hcolumn (List.mem_map_of_mem (f := Prod.fst) hentry)
      rw [hothers _ hne, hstart.2 entry hentry]
    obtain ⟨hrest, hkept⟩ := ih hset.2 hdistinct.2 later hnext
    refine ⟨List.forall_mem_cons.2 ⟨?_, hrest⟩, fun other hother => ?_⟩
    · rw [Model.Reports, hkept column hcolumn]
      exact hreports
    · rw [List.map_cons, List.mem_cons, not_or] at hother
      rw [hkept other hother.2, hothers other hother.1]

/-- A synchronization succeeds if every value can be set. -/
theorem syncFrom_succeeds (present : ColumnValues) {rest : List (String × Value)} (a : α)
    (hset : ∀ entry ∈ rest, ∀ a, ∃ next, model.setAttribute a entry.1 entry.2 = .ok next) :
    ∃ last, syncFrom model present rest a = (.ok (), last) := by
  induction rest generalizing a with
  | nil => exact ⟨a, rfl⟩
  | cons entry rest ih =>
    obtain ⟨column, value⟩ := entry
    rw [List.forall_mem_cons] at hset
    rw [syncFrom]
    split
    · exact ih a hset.2
    · obtain ⟨next, hnext⟩ := hset.1 a
      obtain ⟨last, hlast⟩ := ih next hset.2
      refine ⟨last, ?_⟩
      rw [hnext]
      exact hlast

/-- A record that is synchronized with distinct columns reports their values; its other attributes,
its snapshot and whether there is a row are as they were. -/
theorem sync_agrees (h : model.Framed columns) {r next : Record α} {values : ColumnValues}
    (hset : ∀ entry ∈ values.entries, ∀ a next, model.setAttribute a entry.1 entry.2 = .ok next →
      model.Reports next entry.1 entry.2)
    (hdistinct : values.columns.Nodup) (hsync : r.sync model values = (.ok (), next)) :
    (∀ entry ∈ values.entries, model.Reports next.model entry.1 entry.2) ∧
      ∀ other, other ∉ values.columns →
        (next.attributes model).get? other = (r.attributes model).get? other := by
  have hresult : (syncFrom model (r.attributes model) values.entries r.model).1 = .ok () :=
    congrArg Prod.fst hsync
  have hmodel : next.model = (syncFrom model (r.attributes model) values.entries r.model).2 :=
    (congrArg (fun result => result.2.model) hsync).symm
  refine syncFrom_agrees h hset hdistinct (fun _ _ => rfl) (Prod.ext hresult hmodel.symm)

/-- A synchronization that fails stops at a value that the attribute did not have at the start, and
that it refuses. The attribute is as it was then. -/
theorem exists_refused_of_syncFrom (h : model.Separate) {present : ColumnValues}
    {rest : List (String × Value)} {a last : α} (hdistinct : (rest.map Prod.fst).Nodup)
    {fault : MappingFault} (hsync : syncFrom model present rest a = (.error fault, last)) :
    ∃ entry ∈ rest, present.holds entry.1 entry.2 = false ∧
      ∃ b, model.setAttribute b entry.1 entry.2 = .error fault ∧
        (model.attributes b).get? entry.1 = (model.attributes a).get? entry.1 := by
  induction rest generalizing a with
  | nil => cases hsync
  | cons entry rest ih =>
    obtain ⟨column, value⟩ := entry
    rw [List.map_cons, List.nodup_cons] at hdistinct
    rw [syncFrom] at hsync
    split at hsync
    · obtain ⟨later, hlater, refused⟩ := ih hdistinct.2 hsync
      exact ⟨later, List.mem_cons_of_mem _ hlater, refused⟩
    · next differs =>
      cases hnext : model.setAttribute a column value with
      | error stop =>
        rw [hnext] at hsync
        obtain rfl : stop = fault := Except.error.inj (congrArg Prod.fst hsync)
        exact ⟨(column, value), List.mem_cons_self, by simpa using differs, a, hnext, rfl⟩
      | ok next =>
        rw [hnext] at hsync
        obtain ⟨later, hlater, differs, b, refused, same⟩ := ih hdistinct.2 hsync
        have listed : later.1 ∈ rest.map Prod.fst := List.mem_map_of_mem hlater
        have other : later.1 ≠ column := fun heq => hdistinct.1 (heq ▸ listed)
        exact ⟨later, List.mem_cons_of_mem _ hlater, differs, b, refused,
          same.trans (h.frame hnext _ other)⟩

/-- A synchronization, whether or not it fails, keeps an attribute that is only given the value it
has. -/
theorem syncFrom_keeps (h : model.Plain) (present : ColumnValues)
    {rest : List (String × Value)} {a : α} {column : String}
    (same : ∀ entry ∈ rest, entry.1 = column →
      (model.attributes a).get? column = some entry.2) :
    (model.attributes (syncFrom model present rest a).2).get? column =
      (model.attributes a).get? column := by
  induction rest generalizing a with
  | nil => rfl
  | cons entry rest ih =>
    obtain ⟨name, value⟩ := entry
    rw [List.forall_mem_cons] at same
    rw [syncFrom]
    split
    · exact ih same.2
    · cases hnext : model.setAttribute a name value with
      | error fault => rfl
      | ok next =>
        have kept : (model.attributes next).get? column = (model.attributes a).get? column := by
          by_cases hname : name = column
          · subst hname
            rw [h.reports hnext, same.1 rfl]
          · exact h.frame hnext column (Ne.symm hname)
        exact (ih fun other hother hcolumn => kept.trans (same.2 other hother hcolumn)).trans kept

end Record

namespace Schema

variable (schema : Schema) (enhancers : List (Enhancer m ℓ))

/-- The model whose data give every column of a schema a value, and take every other one. -/
def freeModel : Model m ℓ (String → Value) where
  schema := schema
  attributes a := ⟨schema.columns.map fun c => (c.name, a c.name)⟩
  fromRow row := .ok fun column => (row.value? column).getD .null
  setAttribute a column value :=
    if column ∈ schema.columns.map fun c => c.name then
      .ok fun other => if other = column then value else a other
    else .error (.unknownAttribute schema.table column)
  enhancers := enhancers

/-- The columns of the data are those of the schema. -/
theorem columns_freeModel (a : String → Value) :
    ((schema.freeModel enhancers).attributes a).columns = schema.columns.map fun c => c.name := by
  rw [freeModel, ColumnValues.columns, List.map_map]
  rfl

/-- The columns of the schema have values, and no others. -/
theorem get?_freeModel (a : String → Value) (column : String) :
    ((schema.freeModel enhancers).attributes a).get? column =
      if column ∈ schema.columns.map fun c => c.name then some (a column) else none := by
  have listed := schema.columns_freeModel enhancers a
  cases hvalue : ((schema.freeModel enhancers).attributes a).get? column with
  | none =>
    refine (if_neg fun hcolumn => ?_).symm
    obtain ⟨value, hsome⟩ := ColumnValues.exists_get? (listed ▸ hcolumn)
    rw [hvalue] at hsome
    cases hsome
  | some value =>
    obtain ⟨c, hc, heq⟩ := List.mem_map.1 (ColumnValues.mem_of_get? hvalue)
    cases heq
    rw [if_pos (List.mem_map_of_mem hc)]

/-- A column of the schema can be given every value. -/
theorem exists_setAttribute_freeModel {column : String}
    (h : column ∈ schema.columns.map fun c => c.name) (a : String → Value) (value : Value) :
    ∃ next, (schema.freeModel enhancers).setAttribute a column value = .ok next :=
  ⟨_, if_pos h⟩

/-- If the columns of the schema are distinct, then the model is faithful. -/
theorem faithful_freeModel (distinct : (schema.columns.map fun c => c.name).Nodup) :
    (schema.freeModel enhancers).Faithful (schema.columns.map fun c => c.name) := by
  have only {a next : String → Value} {column : String} {value : Value}
      (h : (schema.freeModel enhancers).setAttribute a column value = .ok next) :
      column ∈ (schema.columns.map fun c => c.name) ∧
        next = fun other => if other = column then value else a other := by
    by_cases hcolumn : column ∈ schema.columns.map fun c => c.name
    · exact ⟨hcolumn, (Except.ok.inj ((if_pos hcolumn).symm.trans h)).symm⟩
    · cases (if_neg hcolumn).symm.trans h
  refine ⟨⟨distinct, schema.columns_freeModel enhancers, fun h other hother => ?_⟩, fun h => ?_⟩
  · obtain ⟨-, rfl⟩ := only h
    rw [get?_freeModel, get?_freeModel, if_neg hother]
  · obtain ⟨hcolumn, rfl⟩ := only h
    rw [get?_freeModel, if_pos hcolumn, if_pos rfl]

end Schema

end SqlMapper
