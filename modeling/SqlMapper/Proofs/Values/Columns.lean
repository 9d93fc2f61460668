import Mathlib.Data.List.Basic
import SqlMapper.Proofs.Values.Agreement

/-!
# Distinct columns

Setting a column keeps distinct columns distinct and loses none of them (`ColumnValues.Covers.set`).
Columns that are set one after another hide those that were there before
(`ColumnValues.get?_setAll_entries`), so a snapshot holds the attributes it was made of, and a row
holds what was assigned to it last. Columns that were made by their own operations are distinct
(`ColumnValues.Made.nodup`).
-/

namespace SqlMapper

namespace ColumnValues

/-- Distinct columns, with the needed ones among them. -/
structure Covers (cv : ColumnValues) (needed : List String) : Prop where
  nodup : cv.columns.Nodup
  mem : ∀ column ∈ needed, column ∈ cv.columns

/-- Setting a column keeps the columns distinct and loses none. -/
theorem Covers.set {cv : ColumnValues} {needed : List String} (h : cv.Covers needed)
    (column : String) (value : Value) : (cv.set column value).Covers needed := by
  by_cases hcolumn : column ∈ cv.columns
  · have same : (cv.set column value).columns = cv.columns := by rw [columns_set, if_pos hcolumn]
    exact ⟨same ▸ h.nodup, fun other hother => same ▸ h.mem other hother⟩
  · have longer : (cv.set column value).columns = cv.columns ++ [column] := by
      rw [columns_set, if_neg hcolumn]
    constructor
    · rw [longer, List.nodup_append]
      refine ⟨h.nodup, List.pairwise_singleton _ column, fun other hother last hlast => ?_⟩
      rintro rfl
      exact hcolumn (List.mem_singleton.1 hlast ▸ hother)
    · intro other hother
      rw [longer]
      exact List.mem_append_left _ (h.mem other hother)

/-- Distinct columns stay distinct when some are left out. -/
theorem nodup_columns_filter {cv : ColumnValues} (h : cv.columns.Nodup)
    (keep : String → Value → Bool) :
    (cv.filter keep).columns.Nodup :=
  h.sublist (List.filter_sublist.map Prod.fst)

/-- Columns that are kept cover themselves. -/
theorem covers_filter {cv : ColumnValues} (h : cv.columns.Nodup) (keep : String → Value → Bool) :
    (cv.filter keep).Covers (cv.filter keep).columns :=
  ⟨nodup_columns_filter h keep, fun _ hcolumn => hcolumn⟩

/-- A column that is not covered was not kept. -/
theorem Covers.eq_false {cv values : ColumnValues} {keep : String → Value → Bool}
    (h : values.Covers (cv.filter keep).columns) {column : String} {value : Value}
    (hget : cv.get? column = some value) (hcolumn : column ∉ values.columns) :
    keep column value = false := by
  cases hkeep : keep column value with
  | false => rfl
  | true =>
    have kept : (column, value) ∈ (cv.filter keep).entries :=
      List.mem_filter.2 ⟨mem_of_get? hget, hkeep⟩
    exact absurd (h.mem column (List.mem_map_of_mem (f := Prod.fst) kept)) hcolumn

/-- A column without a value is not listed. -/
theorem notMem_columns_of_get? {cv : ColumnValues} {column : String} (h : cv.get? column = none) :
    column ∉ cv.columns := by
  intro hcolumn
  obtain ⟨value, hvalue⟩ := exists_get? hcolumn
  rw [h] at hvalue
  cases hvalue

/-- A column has a value if it is listed. -/
theorem contains_iff {cv : ColumnValues} {column : String} :
    cv.contains column = true ↔ column ∈ cv.columns := by
  rw [contains, Option.isSome_iff_exists]
  exact ⟨fun ⟨_, h⟩ => mem_columns_of_get? h, exists_get?⟩

/-- Setting a column that is not listed lists it at the end. -/
theorem entries_set_of_notMem {cv : ColumnValues} {column : String} (h : column ∉ cv.columns)
    (value : Value) : (cv.set column value).entries = cv.entries ++ [(column, value)] := by
  obtain ⟨entries⟩ := cv
  induction entries with
  | nil => rfl
  | cons entry rest ih =>
    rw [columns, List.map_cons, List.mem_cons, not_or] at h
    have later : setEntry column value rest = rest ++ [(column, value)] := ih h.2
    show setEntry column value (entry :: rest) = entry :: (rest ++ [(column, value)])
    rw [setEntry, if_neg (Ne.symm h.1), later]

/-- The columns with their values, taken apart and put together. -/
theorem zip_columns_values (cv : ColumnValues) (more : List Value) :
    cv.columns.zip (cv.values ++ more) = cv.entries := by
  obtain ⟨entries⟩ := cv
  induction entries with
  | nil => rfl
  | cons entry rest ih => exact congrArg (entry :: ·) ih

/-- A column that is listed has a value among the values. -/
theorem filterMap_get?_columns {cv : ColumnValues} (h : cv.columns.Nodup) :
    cv.columns.filterMap cv.get? = cv.values := by
  have present : ∀ entry ∈ cv.entries, cv.get? entry.1 = some entry.2 :=
    fun entry hentry => get?_of_mem h hentry
  rw [columns, List.filterMap_map, values, ← List.filterMap_eq_map]
  exact List.filterMap_congr present

/-- Columns that are not set keep their values. -/
theorem get?_setAll_of_notMem {pairs : List (String × Value)} {column : String}
    (h : column ∉ pairs.map Prod.fst) (cv : ColumnValues) :
    (cv.setAll pairs).get? column = cv.get? column := by
  induction pairs generalizing cv with
  | nil => rfl
  | cons pair rest ih =>
    rw [List.map_cons, List.mem_cons, not_or] at h
    have later := ih h.2 (cv.set pair.1 pair.2)
    exact later.trans (get?_set_of_ne cv pair.2 h.1)

/-- A column that is set once has that value. -/
theorem get?_setAll_of_mem {pairs : List (String × Value)} (hn : (pairs.map Prod.fst).Nodup)
    {column : String} {value : Value} (h : (column, value) ∈ pairs) (cv : ColumnValues) :
    (cv.setAll pairs).get? column = some value := by
  induction pairs generalizing cv with
  | nil => cases h
  | cons pair rest ih =>
    rw [List.map_cons, List.nodup_cons] at hn
    show ((cv.set pair.1 pair.2).setAll rest).get? column = some value
    rcases List.mem_cons.1 h with rfl | hrest
    · rw [get?_setAll_of_notMem hn.1, get?_set_self]
    · exact ih hn.2 hrest _

/-- Columns that are set hide those that were there before. -/
theorem get?_setAll_entries {cv : ColumnValues} (h : cv.columns.Nodup) (base : ColumnValues)
    (column : String) :
    (base.setAll cv.entries).get? column = (cv.get? column).or (base.get? column) := by
  cases hget : cv.get? column with
  | some value => exact get?_setAll_of_mem h (mem_of_get? hget) base
  | none => exact get?_setAll_of_notMem (notMem_columns_of_get? hget) base

/-- Columns that are listed again are the same. -/
theorem get?_ofList_entries {cv : ColumnValues} (h : cv.columns.Nodup) (column : String) :
    (ofList cv.entries).get? column = cv.get? column := by
  rw [ofList, get?_setAll_entries h, get?_empty, Option.or_none]

/-- Of distinct columns, those are kept whose value passes the test. -/
theorem get?_filter {cv : ColumnValues} (h : cv.columns.Nodup) (keep : String → Value → Bool)
    (column : String) : (cv.filter keep).get? column = (cv.get? column).filter (keep column) := by
  refine Option.ext fun value => ?_
  have kept := nodup_columns_filter h keep
  rw [Option.filter_eq_some_iff]
  constructor
  · intro hvalue
    obtain ⟨hmem, htest⟩ := List.mem_filter.1 (mem_of_get? hvalue)
    exact ⟨get?_of_mem h hmem, htest⟩
  · rintro ⟨hvalue, htest⟩
    exact get?_of_mem kept (List.mem_filter.2 ⟨mem_of_get? hvalue, htest⟩)

/-- Erasing one of distinct columns keeps the others. -/
theorem erase_eq_filter {cv : ColumnValues} (h : cv.columns.Nodup) (column : String) :
    cv.erase column = cv.filter fun name _ => name != column := by
  obtain ⟨entries⟩ := cv
  rw [columns, List.Nodup, List.pairwise_map] at h
  rw [erase, filter]
  congr 1
  induction entries with
  | nil => rfl
  | cons entry rest ih =>
    obtain ⟨first, others⟩ := List.pairwise_cons.1 h
    by_cases same : entry.1 = column
    · have kept : rest.filter (fun e => e.1 != column) = rest :=
        List.filter_eq_self.2 fun e he => by simpa [← same] using (first e he).symm
      rw [List.eraseP_cons_of_pos (by simpa using same),
        List.filter_cons_of_neg (by simpa using same), kept]
    · rw [List.eraseP_cons_of_neg (by simpa using same),
        List.filter_cons_of_pos (by simpa using same), ih others]

/-- One of distinct columns that is erased has no value. -/
theorem get?_erase_self {cv : ColumnValues} (h : cv.columns.Nodup) (column : String) :
    (cv.erase column).get? column = none := by
  rw [erase_eq_filter h, get?_filter h]
  cases cv.get? column with
  | none => rfl
  | some value => exact Option.filter_some_neg (by simp)

/-- Erasing one of distinct columns leaves the values of the others. -/
theorem get?_erase_of_ne {cv : ColumnValues} (h : cv.columns.Nodup) {column other : String}
    (hne : other ≠ column) : (cv.erase column).get? other = cv.get? other := by
  rw [erase_eq_filter h, get?_filter h]
  cases cv.get? other with
  | none => rfl
  | some value => exact Option.filter_some_pos (bne_iff_ne.2 hne)

/-- Columns that were made by setting, taking away and sorting out columns, starting from none. -/
inductive Made : ColumnValues → Prop where
  /-- There are no columns at first. -/
  | empty : Made empty
  /-- A column is given a value. -/
  | set {cv : ColumnValues} (h : Made cv) (column : String) (value : Value) :
      Made (cv.set column value)
  /-- A column is taken away. -/
  | erase {cv : ColumnValues} (h : Made cv) (column : String) : Made (cv.erase column)
  /-- The columns for which a test holds are kept. -/
  | filter {cv : ColumnValues} (h : Made cv) (keep : String → Value → Bool) : Made (cv.filter keep)

/-- Columns that are set pair after pair are made. -/
theorem Made.setAll {cv : ColumnValues} (h : cv.Made) (pairs : List (String × Value)) :
    (cv.setAll pairs).Made := by
  induction pairs generalizing cv with
  | nil => exact h
  | cons pair rest ih => exact ih (h.set pair.1 pair.2)

/-- Columns that are collected from pairs are made. -/
theorem made_ofList (pairs : List (String × Value)) : (ofList pairs).Made :=
  Made.empty.setAll pairs

/-- Columns that were made are distinct. -/
theorem Made.nodup {cv : ColumnValues} (h : cv.Made) : cv.columns.Nodup := by
  induction h with
  | empty => exact List.nodup_nil
  | @set cv _ column value ih =>
    have covers : cv.Covers [] := ⟨ih, nofun⟩
    exact (covers.set column value).nodup
  | erase _ column ih => exact ih.sublist (List.eraseP_sublist.map Prod.fst)
  | filter _ keep ih => exact nodup_columns_filter ih keep

end ColumnValues

/-- A snapshot of distinct attributes holds them. -/
theorem Snapshot.get?_of {attributes : ColumnValues} (h : attributes.columns.Nodup)
    (column : String) :
    (Snapshot.of attributes).persisted.get? column = attributes.get? column :=
  ColumnValues.get?_ofList_entries h column

end SqlMapper
