import SqlMapper.Proofs.Run.Journal
import SqlMapper.Proofs.Values.Columns

/-!
# What enhancers add to an insert

Before a row is inserted, each enhancer offers values for some columns, and a value is taken where
there is none yet or null. So a column gets the first value that is not null, be it its own or
offered (`ColumnValues.get?_fillAll`), and new columns come after the others in the order in which
they are offered first (`ColumnValues.columns_fillAll`). What the enhancers of the library offer is
computed from the data that they are (`BuiltIn.offers`): however many of them keep times, the times
are those of the first one (`ensures_adjustInsert_offers`).
-/

namespace SqlMapper

/-- The first of some values that is not null; if all are null, null. -/
def Value.firstGiven (candidates : List Value) : Option Value :=
  (candidates.find? fun value => !value.isNull).or candidates.head?

namespace Value

/-- A value that is not null is the first one. -/
theorem firstGiven_cons {value : Value} (h : value.isNull = false) (rest : List Value) :
    firstGiven (value :: rest) = some value := by
  rw [firstGiven, List.find?_cons_of_pos (by rw [h]; rfl), Option.some_or]

/-- Null is passed over if there are others. -/
theorem firstGiven_null_cons (value : Value) (rest : List Value) :
    firstGiven (.null :: value :: rest) = firstGiven (value :: rest) := by
  cases hnull : value.isNull with
  | true =>
    obtain rfl := isNull_iff.1 hnull
    rfl
  | false =>
    rw [firstGiven_cons hnull, firstGiven, List.find?_cons_of_neg (by decide),
      List.find?_cons_of_pos (by rw [hnull]; rfl), Option.some_or]

end Value

namespace ColumnValues

/-- Gives columns values one after another, each unless it has one that is not null. -/
def fillAll (values : ColumnValues) (offers : List (String × Value)) : ColumnValues :=
  offers.foldl (fun filled offer => Enhancer.fill filled offer.1 offer.2) values

/-- The values that there are for a column: its own, and those that are offered, in order. -/
def candidates (values : ColumnValues) (offers : List (String × Value)) (column : String) :
    List Value :=
  (values.get? column).toList ++ (offers.filter fun offer => offer.1 == column).map Prod.snd

/-- The candidates for a column that has a value. -/
theorem candidates_of_get? {values : ColumnValues} {column : String} {value : Value}
    (h : values.get? column = some value) (offers : List (String × Value)) :
    values.candidates offers column =
      value :: (offers.filter fun offer => offer.1 == column).map Prod.snd := by
  rw [candidates, h]
  rfl

/-- Filling a column leaves the others as they are. -/
theorem get?_fill_of_ne (values : ColumnValues) {column other : String} (h : other ≠ column)
    (value : Value) : (Enhancer.fill values column value).get? other = values.get? other := by
  rw [Enhancer.fill]
  split
  · exact values.get?_set_of_ne value h
  · rfl

/-- Filling a column that has a value other than null does nothing. -/
theorem fill_of_isUnset_eq_false {values : ColumnValues} {column : String}
    (h : values.isUnset column = false) (value : Value) :
    Enhancer.fill values column value = values := by
  rw [Enhancer.fill, h, if_neg Bool.false_ne_true]

/-- Filling a column that is absent or null sets it. -/
theorem fill_of_isUnset {values : ColumnValues} {column : String}
    (h : values.isUnset column = true) (value : Value) :
    Enhancer.fill values column value = values.set column value := by
  rw [Enhancer.fill, h, if_pos rfl]

/-- **Columns are filled with the first value given.** After filling, a column has the first of its
candidates that is not null, or null if all of them are; it has no value if there is no candidate.
The induction is on the offers, and an offer that is taken becomes the column's own value. -/
theorem get?_fillAll (values : ColumnValues) (offers : List (String × Value)) (column : String) :
    (values.fillAll offers).get? column =
      Value.firstGiven (values.candidates offers column) := by
  induction offers generalizing values with
  | nil =>
    rw [fillAll, List.foldl_nil, candidates]
    cases values.get? column with
    | none => rfl
    | some value => cases value <;> rfl
  | cons offer rest ih =>
    obtain ⟨name, value⟩ := offer
    rw [fillAll, List.foldl_cons]
    refine (ih (Enhancer.fill values name value)).trans ?_
    by_cases hname : name = column
    · subst hname
      have offered : ((((name, value) :: rest).filter fun offer => offer.1 == name).map Prod.snd) =
          value :: (rest.filter fun offer => offer.1 == name).map Prod.snd := by
        rw [List.filter_cons_of_pos (by simp), List.map_cons]
      cases hown : values.get? name with
      | none =>
        have unset : values.isUnset name = true := by rw [isUnset, hown]
        rw [fill_of_isUnset unset, candidates_of_get? (values.get?_set_self name value), candidates,
          hown, offered]
        rfl
      | some own =>
        rw [candidates_of_get? hown, offered]
        cases hnull : own.isNull with
        | true =>
          have unset : values.isUnset name = true := by
            rw [isUnset, hown]
            exact hnull
          obtain rfl := Value.isNull_iff.1 hnull
          rw [fill_of_isUnset unset, candidates_of_get? (values.get?_set_self name value),
            Value.firstGiven_null_cons]
        | false =>
          have kept : values.isUnset name = false := by
            rw [isUnset, hown]
            exact hnull
          rw [fill_of_isUnset_eq_false kept, candidates_of_get? hown, Value.firstGiven_cons hnull,
            Value.firstGiven_cons hnull]
    · have others : (Enhancer.fill values name value).candidates rest column =
          values.candidates ((name, value) :: rest) column := by
        rw [candidates, candidates, get?_fill_of_ne values (Ne.symm hname),
          List.filter_cons_of_neg (by simpa using hname)]
      rw [others]

/-- Filling a column lists it, at the end if it was not listed. -/
theorem columns_fill (values : ColumnValues) (column : String) (value : Value) :
    (Enhancer.fill values column value).columns =
      if column ∈ values.columns then values.columns else values.columns ++ [column] := by
  rw [Enhancer.fill]
  split
  · exact values.columns_set column value
  · next present =>
    have listed : column ∈ values.columns := by
      rw [← contains_iff, contains]
      rw [isUnset] at present
      cases hget : values.get? column with
      | none => simp [hget] at present
      | some _ => rfl
    rw [if_pos listed]

/-- **New columns come last, in the order in which they are offered first.** -/
theorem columns_fillAll (values : ColumnValues) (offers : List (String × Value)) :
    (values.fillAll offers).columns = values.columns ++
      ((offers.map Prod.fst).filter fun column => decide (column ∉ values.columns)).eraseDups := by
  induction offers generalizing values with
  | nil => exact (List.append_nil _).symm
  | cons offer rest ih =>
    obtain ⟨name, value⟩ := offer
    rw [fillAll, List.foldl_cons]
    refine (ih (Enhancer.fill values name value)).trans ?_
    rw [columns_fill, List.map_cons]
    by_cases listed : name ∈ values.columns
    · rw [if_pos listed, List.filter_cons_of_neg (by simpa using listed)]
    · rw [if_neg listed, List.filter_cons_of_pos (by simpa using listed), List.eraseDups_cons,
        List.filter_filter, List.append_assoc, List.singleton_append]
      congr 3
      refine List.filter_congr fun column _ => ?_
      rw [Bool.beq_eq_decide_eq]
      simp [and_comm]

/-- Columns that are filled stay distinct. -/
theorem nodup_columns_fillAll {values : ColumnValues} (h : values.columns.Nodup)
    (offers : List (String × Value)) : (values.fillAll offers).columns.Nodup := by
  induction offers generalizing values with
  | nil => exact h
  | cons offer rest ih =>
    have covers : values.Covers [] := ⟨h, nofun⟩
    exact ih (fill_of_set (V := fun values => values.Covers []) (fun _ c v hv => hv.set c v) covers
      offer.1 offer.2).nodup

/-- A value that is not null stays as it is. -/
theorem get?_fillAll_of_ne {values : ColumnValues} {column : String} {value : Value}
    (h : values.get? column = some value) (hnull : value.isNull = false)
    (offers : List (String × Value)) : (values.fillAll offers).get? column = some value := by
  rw [get?_fillAll, candidates_of_get? h, Value.firstGiven_cons hnull]

end ColumnValues

/-! ## The enhancers of the library -/

/-- What an enhancer offers to an insert at a time. -/
def BuiltIn.offers (schema : Schema) (time : Instant) : BuiltIn → List (String × Value)
  | .scope _ column value => [(column, value)]
  | .timestamps =>
    match schema.timestamps with
    | some kept => [(kept.created, .timestamp time), (kept.updated, .timestamp time)]
    | none => []
  | .softDeletes => []

section Inserting

variable {σ ℓ : Type} (now : StateM σ Instant) {schema : Schema}

/-- A row has the times of its creation and of its change, where times are kept. -/
def HasTimes (schema : Schema) (values : ColumnValues) : Prop :=
  ∀ kept, schema.timestamps = some kept →
    values.isUnset kept.created = false ∧ values.isUnset kept.updated = false

/-- A column that is not unset stays so when columns are filled. -/
theorem ColumnValues.isUnset_fill {values : ColumnValues} {column : String}
    (h : values.isUnset column = false) (other : String) (value : Value) :
    (Enhancer.fill values other value).isUnset column = false := by
  by_cases hother : column = other
  · subst hother
    rwa [fill_of_isUnset_eq_false h]
  · rwa [isUnset, get?_fill_of_ne values hother]

/-- A row with its times keeps them when columns are filled. -/
theorem HasTimes.fill {values : ColumnValues} (h : HasTimes schema values) (column : String)
    (value : Value) : HasTimes schema (Enhancer.fill values column value) := by
  intro kept hkept
  obtain ⟨created, updated⟩ := h kept hkept
  exact ⟨ColumnValues.isUnset_fill created column value,
    ColumnValues.isUnset_fill updated column value⟩

/-- A row that is given times has them. -/
theorem hasTimes_fill {kept : TimestampColumns} (h : schema.timestamps = some kept)
    (values : ColumnValues) (time : Instant) :
    HasTimes schema (Enhancer.fill (Enhancer.fill values kept.created (.timestamp time))
      kept.updated (.timestamp time)) := by
  have given (values : ColumnValues) (column : String) :
      (Enhancer.fill values column (.timestamp time)).isUnset column = false := by
    cases unset : values.isUnset column with
    | true =>
      rw [ColumnValues.fill_of_isUnset unset, ColumnValues.isUnset, ColumnValues.get?_set_self]
      rfl
    | false => rwa [ColumnValues.fill_of_isUnset_eq_false unset]
  intro other hother
  obtain rfl : other = kept := Option.some.inj (hother.symm.trans h)
  exact ⟨ColumnValues.isUnset_fill (given values _) _ _, given _ _⟩

/-- Once a row has its times, the enhancers of the library add what they offer at any time. -/
theorem ensures_adjustInsert_of_hasTimes (time : Instant) (bs : List BuiltIn)
    {values : ColumnValues} (h : HasTimes schema values) :
    Ensures (fun t => t.1 = [])
      (adjustInsert schema (bs.map fun b => (b.enhancer (aside now) : Enhancer (Journaled σ) ℓ))
        values)
      (fun next t => next = values.fillAll (bs.flatMap (BuiltIn.offers schema time)) ∧
        t.1 = []) := by
  induction bs generalizing values with
  | nil => exact Ensures.pure fun _ quiet => ⟨rfl, quiet⟩
  | cons b rest ih =>
    cases b with
    | scope name column value => exact ih (h.fill column value)
    | softDeletes => exact ih h
    | timestamps =>
      rw [List.map_cons, adjustInsert, List.flatMap_cons, BuiltIn.offers]
      simp only [BuiltIn.enhancer, Enhancer.timestamps]
      cases ht : schema.timestamps with
      | none => exact ih h
      | some kept =>
        obtain ⟨created, updated⟩ := h kept ht
        -- neither this enhancer's time nor any other one is taken
        have same (other : Instant) : Enhancer.fill (Enhancer.fill values kept.created
            (.timestamp other)) kept.updated (.timestamp other) = values := by
          rw [ColumnValues.fill_of_isUnset_eq_false created,
            ColumnValues.fill_of_isUnset_eq_false updated]
        have filled : values.fillAll ([(kept.created, .timestamp time),
            (kept.updated, .timestamp time)] ++ rest.flatMap (BuiltIn.offers schema time)) =
              values.fillAll (rest.flatMap (BuiltIn.offers schema time)) :=
          congrArg (ColumnValues.fillAll · _) (same time)
        simp only [same, filled, bind_assoc, pure_bind]
        exact (ensures_aside (J := fun journal => journal = []) now).bind fun _ => ih h

/-- **What the enhancers of the library add to an insert** is what they offer at the time that the
clock tells first. They leave no trace on the journal. -/
theorem ensures_adjustInsert_offers (bs : List BuiltIn) (values : ColumnValues) (w : σ) :
    Ensures (fun t => t = ([], w))
      (adjustInsert schema (bs.map fun b => (b.enhancer (aside now) : Enhancer (Journaled σ) ℓ))
        values)
      (fun next t => next = values.fillAll (bs.flatMap (BuiltIn.offers schema (now.run w).1)) ∧
        t.1 = []) := by
  induction bs generalizing values with
  | nil =>
    rintro _ rfl
    exact ⟨rfl, rfl⟩
  | cons b rest ih =>
    cases b with
    | scope name column value => exact ih (Enhancer.fill values column value)
    | softDeletes => exact ih values
    | timestamps =>
      rw [List.map_cons, adjustInsert, List.flatMap_cons, BuiltIn.offers]
      simp only [BuiltIn.enhancer, Enhancer.timestamps]
      cases ht : schema.timestamps with
      | none => exact ih values
      | some kept =>
        have told : Ensures (fun t => t = ([], w)) (aside now)
            (fun time t => time = (now.run w).1 ∧ t.1 = []) := by
          rintro _ rfl
          exact ⟨rfl, rfl⟩
        simp only [bind_assoc, pure_bind]
        refine told.bind fun time => Ensures.of_and fun htime => ?_
        subst htime
        exact ensures_adjustInsert_of_hasTimes now _ rest (hasTimes_fill ht values _)

end Inserting

end SqlMapper
