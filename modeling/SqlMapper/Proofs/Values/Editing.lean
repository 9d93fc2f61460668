import Mathlib.Data.Set.Card
import SqlMapper.Proofs.Values.Columns
import SqlMapper.Proofs.Values.Marks

/-!
# The columns that edits leave

Columns are edited in four ways: one is set, one is removed, those that fail a test are dropped, or
all are collected anew from pairs. An edit comes to marks of single columns (`Edit.marks`), and what
the columns are after any edits is said by the marks alone (`ColumnValues.Reflects`): each column is
there once, stands where it began and has its latest value. One mark keeps this
(`ColumnValues.Reflects.mark`), and every edit comes to marks (`ColumnValues.Reflects.edit_eq`).
-/

namespace SqlMapper

/-! ## Edits -/

/-- A way to edit columns. -/
inductive Edit where
  /-- A column is given a value. -/
  | set (column : String) (value : Value)
  /-- A column is removed. -/
  | remove (column : String)
  /-- The columns that fail a test are dropped. -/
  | retain (keep : String → Value → Bool)
  /-- All columns are collected anew from pairs. -/
  | collect (pairs : List (String × Value))

/-- What an edit does to single columns after a history. A test is asked of the latest values, and
collecting columns drops those that are there and sets the pairs one by one. -/
def Edit.marks (h : List Mark) : Edit → List Mark
  | .set column value => [.set column value]
  | .remove column => [.gone column]
  | .retain keep =>
    (h.filter fun m => (Mark.latest? h m.column).any fun value => !keep m.column value).map
      fun m => .gone m.column
  | .collect pairs =>
    (h.map fun m => .gone m.column) ++ pairs.map fun pair => .set pair.1 pair.2

/-- The history of edits, from no columns. -/
def history (edits : List Edit) : List Mark :=
  edits.foldl (fun h edit => h ++ edit.marks h) []

namespace ColumnValues

/-- Removes the first column of a name, and gives the value that it had. -/
def remove (cv : ColumnValues) (column : String) : Option Value × ColumnValues :=
  match cv.entries.findIdx? (fun entry => entry.1 == column) with
  | some index => (cv.entries[index]?.map Prod.snd, ⟨cv.entries.eraseIdx index⟩)
  | none => (none, cv)

/-- The columns after an edit. -/
def edit (cv : ColumnValues) : Edit → ColumnValues
  | .set column value => cv.set column value
  | .remove column => (cv.remove column).2
  | .retain keep => cv.filter keep
  | .collect pairs => ofList pairs

/-- The columns after edits, one after another. -/
def editAll (cv : ColumnValues) (edits : List Edit) : ColumnValues :=
  edits.foldl edit cv

/-- The columns after something happened to one of them. -/
def mark (cv : ColumnValues) : Mark → ColumnValues
  | .set column value => cv.set column value
  | .gone column => cv.erase column

variable {cv : ColumnValues}

/-- Removing a column erases it, and gives the value that it had. -/
theorem remove_eq (cv : ColumnValues) (column : String) :
    cv.remove column = (cv.get? column, cv.erase column) := by
  rw [remove, get?, erase, List.eraseP_eq_eraseIdx]
  cases hindex : cv.entries.findIdx? (fun entry => entry.1 == column) with
  | none =>
    have absent := List.find?_eq_none.2 fun entry hentry =>
      Bool.eq_false_iff.1 (List.findIdx?_eq_none_iff.1 hindex entry hentry)
    rw [absent]
    rfl
  | some index =>
    obtain ⟨hlt, named, first⟩ := List.findIdx?_eq_some_iff_getElem.1 hindex
    have found : cv.entries.find? (fun entry => entry.1 == column) = some cv.entries[index] :=
      List.find?_eq_some_iff_getElem.2
        ⟨named, index, hlt, rfl, fun j hj => by simpa using first j hj⟩
    simp only [found, List.getElem?_eq_getElem hlt]

/-- When one of distinct columns is removed, the others stand as they stood. -/
theorem entries_remove (h : cv.columns.Nodup) (column : String) :
    (cv.remove column).2.entries = cv.entries.filter fun entry => entry.1 != column := by
  rw [remove_eq, erase_eq_filter h, filter]

/-- When one of distinct columns is removed, it is not there. -/
theorem contains_remove (h : cv.columns.Nodup) (column : String) :
    (cv.remove column).2.contains column = false := by
  rw [remove_eq, contains, get?_erase_self h]
  rfl

/-- Setting a column that is there changes its value and nothing else. -/
theorem entries_set_of_mem (h : cv.columns.Nodup) {column : String} (hcolumn : column ∈ cv.columns)
    (value : Value) :
    (cv.set column value).entries =
      cv.entries.map fun entry => if entry.1 = column then (column, value) else entry := by
  obtain ⟨entries⟩ := cv
  rw [columns] at h hcolumn
  show setEntry column value entries = _
  induction entries with
  | nil => cases hcolumn
  | cons entry rest ih =>
    rw [List.map_cons, List.nodup_cons] at h
    by_cases same : entry.1 = column
    · have others : rest.map (fun e => if e.1 = column then (column, value) else e) = rest := by
        refine (List.map_congr_left fun e he => if_neg fun heq => ?_).trans (List.map_id rest)
        exact h.1 (same ▸ heq ▸ List.mem_map_of_mem he)
      rw [setEntry, if_pos same, List.map_cons, if_pos same, others, same]
    · have later := ih h.2 ((List.mem_cons.1 hcolumn).resolve_left (Ne.symm same))
      rw [setEntry, if_neg same, List.map_cons, if_neg same, later]

/-! ## What is left -/

/-- The columns are those that a history leaves: each is there once, with its latest value, and they
stand in the order in which they began. -/
structure Reflects (cv : ColumnValues) (h : List Mark) : Prop where
  nodup : cv.columns.Nodup
  latest : ∀ column value, cv.get? column = some value ↔ Mark.Latest h column value
  begins : ∀ column ∈ cv.columns, ∃ before, Mark.Begins h column before
  order : cv.columns.Pairwise fun first second => ∀ before between,
    Mark.Begins h first before → Mark.Begins h second between → before.length < between.length

namespace Reflects

variable {h : List Mark}

/-- No columns are left when nothing happened. -/
theorem empty : empty.Reflects [] where
  nodup := List.nodup_nil
  latest column value := by rw [get?_empty, ← Mark.latest?_eq_some_iff]; exact Iff.rfl
  begins := nofun
  order := List.Pairwise.nil

/-- The value of a column is found by following it. -/
theorem get?_eq (r : cv.Reflects h) (column : String) :
    cv.get? column = Mark.latest? h column :=
  Option.ext fun value => (r.latest column value).trans Mark.latest?_eq_some_iff.symm

/-- The fields of `Reflects` from what the columns hold and in which order they stand. -/
theorem of_get?_eq (nodup : cv.columns.Nodup)
    (hget : ∀ column, cv.get? column = Mark.latest? h column)
    (order : cv.columns.Pairwise fun first second => ∀ before between,
      Mark.Begins h first before → Mark.Begins h second between →
        before.length < between.length) : cv.Reflects h where
  nodup := nodup
  latest column value := by rw [hget, Mark.latest?_eq_some_iff]
  begins column hcolumn := by
    obtain ⟨value, hvalue⟩ := exists_get? hcolumn
    exact Mark.exists_begins_iff.2 ⟨value, (hget column).symm.trans hvalue⟩
  order := order

/-- A column that is there has begun already when something more happens to it. -/
theorem begins_of_concat (r : cv.Reflects h) {column : String} (hcolumn : column ∈ cv.columns)
    {m : Mark} {before : List Mark} (begins : Mark.Begins (h ++ [m]) column before) :
    Mark.Begins h column before := by
  rcases Mark.begins_concat_iff.1 begins with ⟨earlier, -⟩ | ⟨-, hnone, -⟩
  · exact earlier
  · obtain ⟨value, hvalue⟩ := exists_get? hcolumn
    rw [r.get?_eq, hnone] at hvalue
    cases hvalue

/-- What a history leaves stays in order when it goes on. -/
theorem order_concat (r : cv.Reflects h) {columns : List String}
    (hsub : columns.Sublist cv.columns) (m : Mark) :
    columns.Pairwise fun first second => ∀ before between,
      Mark.Begins (h ++ [m]) first before → Mark.Begins (h ++ [m]) second between →
        before.length < between.length := by
  refine (r.order.sublist hsub).imp_of_mem fun hfirst hsecond earlier before between hb hb' => ?_
  exact earlier before between (r.begins_of_concat (hsub.subset hfirst) hb)
    (r.begins_of_concat (hsub.subset hsecond) hb')

/-- When one more thing happens to a column, the columns are still those that the history leaves. -/
theorem mark (r : cv.Reflects h) (m : Mark) : (cv.mark m).Reflects (h ++ [m]) := by
  have hget (column : String) : (cv.mark m).get? column = Mark.latest? (h ++ [m]) column := by
    rw [Mark.latest?_concat]
    by_cases same : m.column = column
    · subst same
      rw [if_pos rfl]
      cases m with
      | set column value => exact get?_set_self cv column value
      | gone column => exact get?_erase_self r.nodup column
    · rw [if_neg same, ← r.get?_eq]
      cases m with
      | set other value => exact get?_set_of_ne cv value (Ne.symm same)
      | gone other => exact get?_erase_of_ne r.nodup (Ne.symm same)
  cases m with
  | set column value =>
    have covers : cv.Covers [] := ⟨r.nodup, nofun⟩
    refine of_get?_eq (covers.set column value).nodup hget ?_
    show (cv.set column value).columns.Pairwise _
    rw [columns_set]
    split
    · exact r.order_concat (List.Sublist.refl _) _
    · next fresh =>
      refine List.pairwise_append.2 ⟨r.order_concat (List.Sublist.refl _) _,
        List.pairwise_singleton _ column, ?_⟩
      intro first hfirst second hsecond before between hb hb'
      obtain rfl := List.mem_singleton.1 hsecond
      -- the new column begins at the end of the history, where all others have begun before
      rcases Mark.begins_concat_iff.1 hb' with ⟨earlier, -⟩ | ⟨rfl, -⟩
      · obtain ⟨old, hold⟩ := Mark.exists_begins_iff.1 ⟨between, earlier⟩
        exact absurd (mem_columns_of_get? ((r.get?_eq second).trans hold)) fresh
      · exact (r.begins_of_concat hfirst hb).length_lt
  | gone column =>
    have hsub : (cv.erase column).columns.Sublist cv.columns := List.eraseP_sublist.map Prod.fst
    exact of_get?_eq (r.nodup.sublist hsub) hget (r.order_concat hsub _)

/-- However many things happen, the columns are those that the history leaves. -/
theorem marks (r : cv.Reflects h) (more : List Mark) :
    (more.foldl ColumnValues.mark cv).Reflects (h ++ more) := by
  induction more generalizing cv h with
  | nil => rwa [List.append_nil]
  | cons m rest ih =>
    rw [List.append_cons]
    exact ih (r.mark m)

end Reflects

/-- Distinct columns that go one after another are left out. -/
theorem foldl_gone (hn : cv.columns.Nodup) (names : List String) :
    (names.map Mark.gone).foldl mark cv = cv.filter fun column _ => !names.contains column := by
  induction names generalizing cv with
  | nil => exact congrArg ColumnValues.mk (List.filter_eq_self.2 fun _ _ => rfl).symm
  | cons name rest ih =>
    show (rest.map Mark.gone).foldl mark (cv.erase name) = _
    rw [erase_eq_filter hn, ih (nodup_columns_filter hn _), filter, filter, filter,
      List.filter_filter]
    congr 1
    refine List.filter_congr fun entry _ => ?_
    rw [List.contains_cons, Bool.not_or, Bool.and_comm, bne]

/-- An edit of the columns that a history leaves comes to its marks, one after another. -/
theorem Reflects.edit_eq {h : List Mark} (r : cv.Reflects h) (change : Edit) :
    cv.edit change = (change.marks h).foldl ColumnValues.mark cv := by
  have there {column : String} {value : Value} (hvalue : cv.get? column = some value) :
      ∃ m ∈ h, m.column = column := by
    obtain ⟨before, after, rfl, -⟩ := (r.latest column value).1 hvalue
    exact ⟨_, List.mem_append_right _ List.mem_cons_self, rfl⟩
  cases change with
  | set column value => rfl
  | remove column => exact congrArg Prod.snd (remove_eq cv column)
  | retain keep =>
    rw [edit, Edit.marks, ← Function.comp_def, ← List.map_map, foldl_gone r.nodup, filter, filter]
    congr 1
    refine List.filter_congr fun entry hentry => ?_
    have hvalue : cv.get? entry.1 = some entry.2 := get?_of_mem r.nodup hentry
    have hlatest : Mark.latest? h entry.1 = some entry.2 := (r.get?_eq _).symm.trans hvalue
    have dropped : ((h.filter fun m =>
        (Mark.latest? h m.column).any fun value => !keep m.column value).map Mark.column).contains
          entry.1 = true ↔ keep entry.1 entry.2 = false := by
      rw [List.contains_iff_mem, List.mem_map]
      constructor
      · rintro ⟨m, hm, hcolumn⟩
        have test := (List.mem_filter.1 hm).2
        rw [hcolumn, hlatest] at test
        rwa [Option.any_some, Bool.not_eq_true'] at test
      · intro hkeep
        obtain ⟨m, hm, hcolumn⟩ := there hvalue
        refine ⟨m, List.mem_filter.2 ⟨hm, ?_⟩, hcolumn⟩
        rw [hcolumn, hlatest, Option.any_some, hkeep]
        rfl
    rw [Bool.eq_iff_iff, Bool.not_eq_true', ← Bool.not_eq_true, dropped, Bool.not_eq_false]
  | collect pairs =>
    have none_left : ((h.map fun m => Mark.gone m.column)).foldl ColumnValues.mark cv = .empty := by
      rw [← Function.comp_def, ← List.map_map, foldl_gone r.nodup, filter, ColumnValues.empty]
      congr 1
      refine List.filter_eq_nil_iff.2 fun entry hentry => ?_
      obtain ⟨m, hm, hcolumn⟩ := there (get?_of_mem r.nodup hentry)
      have listed : (h.map Mark.column).contains entry.1 = true :=
        List.contains_iff_mem.2 (List.mem_map.2 ⟨m, hm, hcolumn⟩)
      rw [listed]
      exact Bool.false_ne_true
    rw [edit, Edit.marks, List.foldl_append, none_left, List.foldl_map]
    rfl

/-- After any edits the columns are those that the history leaves. -/
theorem reflects_editAll (edits : List Edit) : (empty.editAll edits).Reflects (history edits) := by
  induction edits using List.reverseRecOn with
  | nil => exact .empty
  | append_singleton edits change ih =>
    have last : empty.editAll (edits ++ [change]) = (empty.editAll edits).edit change := by
      simp only [editAll, List.foldl_append, List.foldl_cons, List.foldl_nil]
    have marked : history (edits ++ [change]) =
        history edits ++ change.marks (history edits) := by
      simp only [history, List.foldl_append, List.foldl_cons, List.foldl_nil]
    rw [last, marked, ih.edit_eq change]
    exact ih.marks _

/-- There are as many columns as have a value. -/
theorem Reflects.size_eq {h : List Mark} (r : cv.Reflects h) :
    cv.size = {column | ∃ value, Mark.Latest h column value}.ncard := by
  have same : {column | ∃ value, Mark.Latest h column value} =
      (cv.columns.toFinset : Set String) := by
    ext column
    rw [Set.mem_ofPred_eq, List.coe_toFinset, Set.mem_ofPred_eq]
    constructor
    · rintro ⟨value, hvalue⟩
      exact mem_columns_of_get? ((r.latest column value).2 hvalue)
    · intro hcolumn
      obtain ⟨value, hvalue⟩ := exists_get? hcolumn
      exact ⟨value, (r.latest column value).1 hvalue⟩
  rw [same, Set.ncard_coe_finset, List.toFinset_card_of_nodup r.nodup, columns, List.length_map,
    size]

/-! ## Columns from pairs, and tests that remember -/

/-- One more pair is set after the others. -/
theorem ofList_concat (pairs : List (String × Value)) (pair : String × Value) :
    ofList (pairs ++ [pair]) = (ofList pairs).set pair.1 pair.2 := by
  simp only [ofList, setAll, List.foldl_append, List.foldl_cons, List.foldl_nil]

/-- Columns that are collected stand where their names occur first. -/
theorem columns_ofList (pairs : List (String × Value)) :
    (ofList pairs).columns = (pairs.map Prod.fst).eraseDups := by
  induction pairs using List.reverseRecOn with
  | nil => rfl
  | append_singleton pairs pair ih =>
    rw [ofList_concat, columns_set, ih, List.map_append, List.eraseDups_append, List.map_singleton]
    split
    · next seen => simp [List.removeAll, List.mem_eraseDups.1 seen]
    · next fresh => simp [List.removeAll, mt List.mem_eraseDups.2 fresh, List.eraseDups_cons]

/-- Columns that are collected have the value that is listed last. -/
theorem get?_ofList (pairs : List (String × Value)) (column : String) :
    (ofList pairs).get? column =
      (pairs.reverse.find? fun pair => pair.1 == column).map Prod.snd := by
  induction pairs using List.reverseRecOn with
  | nil => rfl
  | append_singleton pairs pair ih =>
    rw [ofList_concat, List.reverse_concat, List.find?_cons]
    by_cases same : pair.1 = column
    · subst same
      rw [get?_set_self, beq_self_eq_true]
      rfl
    · rw [get?_set_of_ne _ _ (Ne.symm same), ih, beq_false_of_ne same]

/-- Collecting pairs comes to setting them one by one. -/
theorem edit_collect (cv : ColumnValues) (pairs : List (String × Value)) :
    cv.edit (.collect pairs) = empty.editAll (pairs.map fun pair => .set pair.1 pair.2) := by
  rw [editAll, List.foldl_map]
  rfl

/-- The columns that pass a test which may remember what it was asked, in order. -/
def sift {σ : Type} (test : String → Value → StateM σ Bool) :
    List (String × Value) → StateM σ (List (String × Value))
  | [] => pure []
  | (column, value) :: rest => do
    let keep ← test column value
    let kept ← sift test rest
    return if keep then (column, value) :: kept else kept

/-- On distinct columns a test that remembers comes to one that does not: the one that gives, for
each column, the answer that the first one gave. -/
theorem exists_filter_eq_sift (h : cv.columns.Nodup) {σ : Type}
    (test : String → Value → StateM σ Bool) (s : σ) :
    ∃ keep : String → Value → Bool,
      ((cv.entries.mapM fun entry => test entry.1 entry.2).run s).1 =
        cv.entries.map (fun entry => keep entry.1 entry.2) ∧
      ((sift test cv.entries).run s).1 = (cv.filter keep).entries := by
  obtain ⟨entries⟩ := cv
  show ∃ keep : String → Value → Bool, _ ∧ _ = entries.filter _
  induction entries generalizing s with
  | nil => exact ⟨fun _ _ => true, rfl, rfl⟩
  | cons entry rest ih =>
    obtain ⟨column, value⟩ := entry
    rw [columns, List.map_cons, List.nodup_cons] at h
    obtain ⟨keep, answers, kept⟩ := ih ((test column value).run s).2 h.2
    -- the first answer goes to the first column, which does not occur again
    let first (name : String) (v : Value) : Bool :=
      if name = column then ((test column value).run s).1 else keep name v
    have later : ∀ entry ∈ rest, first entry.1 entry.2 = keep entry.1 entry.2 := by
      intro entry hentry
      exact if_neg fun same => h.1 (List.mem_map.2 ⟨entry, hentry, same⟩)
    have now : first column value = ((test column value).run s).1 := if_pos rfl
    refine ⟨first, ?_, ?_⟩
    · rw [List.map_cons, List.map_congr_left later, ← answers, now, List.mapM_cons]
      rfl
    · rw [List.filter_cons, List.filter_congr later, ← kept, now]
      rfl

/-- What columns are as a map that keeps its order, after a history: what they hold and how many
they are, and what setting, removing, collecting and dropping do to them next. -/
structure KeepsOrder (cv : ColumnValues) (h : List Mark) : Prop extends cv.Reflects h where
  /-- A column has no value if it is gone after each time that it was set. -/
  absent : ∀ column, cv.get? column = none ↔ ∀ before value after,
    h = before ++ .set column value :: after → .gone column ∈ after
  /-- As many columns are there as have a value. -/
  size : cv.size = {column | ∃ value, Mark.Latest h column value}.ncard
  /-- Setting a column that is there changes its value, and nothing else. -/
  set : ∀ column ∈ cv.columns, ∀ value, (cv.set column value).entries =
    cv.entries.map fun entry => if entry.1 = column then (column, value) else entry
  /-- Removing a column gives its latest value. -/
  removed : ∀ column value, (cv.remove column).1 = some value ↔ Mark.Latest h column value
  /-- A column that was removed is not there, and the others stand as they stood. -/
  others : ∀ column, (cv.remove column).2.contains column = false ∧
    (cv.remove column).2.entries = cv.entries.filter fun entry => entry.1 != column
  /-- Collecting pairs comes to setting them one by one. -/
  collect : ∀ pairs, cv.edit (.collect pairs) =
    empty.editAll (pairs.map fun pair => .set pair.1 pair.2)
  /-- Columns that are collected stand where they occur first and have the value that comes last. -/
  collected : ∀ pairs, (cv.edit (.collect pairs)).columns = (pairs.map Prod.fst).eraseDups ∧
    ∀ column, (cv.edit (.collect pairs)).get? column =
      (pairs.reverse.find? fun pair => pair.1 == column).map Prod.snd
  /-- A test that remembers what it was asked keeps the columns that one keeps which gives the same
  answers and does not. -/
  retain : ∀ {σ : Type} (test : String → Value → StateM σ Bool) (s : σ),
    ∃ keep : String → Value → Bool,
      ((cv.entries.mapM fun entry => test entry.1 entry.2).run s).1 =
        cv.entries.map (fun entry => keep entry.1 entry.2) ∧
      ((sift test cv.entries).run s).1 = (cv.edit (.retain keep)).entries

/-- Columns are a map that keeps its order: after any edits, starting from none, they are what the
history of the edits says. -/
theorem keepsOrder_editAll (edits : List Edit) :
    (empty.editAll edits).KeepsOrder (history edits) := by
  have r := reflects_editAll edits
  exact
    { r with
      absent := fun column => by rw [r.get?_eq, Mark.latest?_eq_none_iff]
      size := r.size_eq
      set := fun column hcolumn => entries_set_of_mem r.nodup hcolumn
      removed := fun column => by rw [remove_eq]; exact r.latest column
      others := fun column => ⟨contains_remove r.nodup column, entries_remove r.nodup column⟩
      collect := edit_collect _
      collected := fun pairs => ⟨columns_ofList pairs, get?_ofList pairs⟩
      retain := exists_filter_eq_sift r.nodup }

example :
    (empty.editAll [.set "id" (.int 1), .set "name" .null, .remove "id", .set "id" (.int 2),
      .set "name" (.text "a")]).entries = [("name", .text "a"), ("id", .int 2)] := by
  decide

end ColumnValues

end SqlMapper
