import Mathlib.Logic.Basic
import SqlMapper.Proofs.Protocol.Job
import SqlMapper.Proofs.Protocol.Watching

/-!
# Generated keys

The rows that one statement inserts have consecutive keys, of which the database tells the last one.
The first one is found in two steps, by taking the number of rows from the last key and adding one.
The second step goes up again, to the last key at most, so only the first one can leave the signed
64-bit integers (`generatedKeys_of_countable`). Where all keys are such integers, it does so if the
first key is the least of them, and then there is no answer though there are keys
(`generatedKeys_consecutive`).
-/

namespace SqlMapper

section Arithmetic

variable {n : Int} {last : Int64} {rows : UInt64}

/-- A number in the range of the signed 64-bit integers is one of them. -/
theorem toInt_ofInt_of_mem (least : Int64.minValue.toInt ≤ n)
    (greatest : n ≤ Int64.maxValue.toInt) : (Int64.ofInt n).toInt = n := by
  rw [Int64.toInt_minValue] at least
  rw [Int64.toInt_maxValue] at greatest
  exact Int64.toInt_ofInt_of_le least (by omega)

/-- A number is the signed 64-bit integer that has its value. -/
theorem signed64?_eq_some_iff {key : Int64} : signed64? n = some key ↔ key.toInt = n := by
  rw [signed64?]
  split
  · next within =>
    rw [Option.some_inj, ← Int64.toInt_inj, toInt_ofInt_of_mem within.1 within.2, eq_comm]
  · next outside =>
    refine ⟨nofun, fun same => absurd ?_ outside⟩
    exact same ▸ ⟨key.minValue_le_toInt, key.toInt_le⟩

/-- A number is no signed 64-bit integer exactly if it is out of their range. -/
theorem signed64?_eq_none_iff :
    signed64? n = none ↔ n < Int64.minValue.toInt ∨ Int64.maxValue.toInt < n := by
  rw [signed64?]
  split
  · next within => exact ⟨nofun, fun outside => by omega⟩
  · next outside => exact ⟨fun _ => by omega, fun _ => rfl⟩

/-- The keys from one to another are the integers from one to the other. -/
theorem map_toInt_keyRange (first last : Int64) :
    (keyRange first last).map Int64.toInt =
      (List.range (last.toInt - first.toInt + 1).toNat).map
        fun step => first.toInt + Int.ofNat step := by
  rw [keyRange, List.map_map]
  refine List.map_congr_left fun step hstep => ?_
  rw [List.mem_range] at hstep
  have least := first.minValue_le_toInt
  have greatest := last.toInt_le
  have reached : first + Int64.ofNat step = Int64.ofInt (first.toInt + Int.ofNat step) := by
    rw [Int64.ofInt_add, Int64.ofInt_toInt]
    rfl
  rw [Function.comp_apply, reached]
  refine toInt_ofInt_of_mem ?_ ?_
  · rw [Int.ofNat_eq_natCast]
    omega
  · rw [Int.ofNat_eq_natCast]
    omega

/-- There are rows, and their number is a signed 64-bit integer. -/
def Countable (rows : UInt64) : Prop :=
  1 ≤ rows.toNat ∧ rows.toNat ≤ Int64.maxValue.toInt

instance (rows : UInt64) : Decidable (Countable rows) :=
  inferInstanceAs (Decidable (_ ∧ _))

/-- The number of countable rows. -/
theorem Countable.exists_signed64? (h : Countable rows) :
    ∃ count, signed64? rows.toNat = some count ∧ count.toInt = rows.toNat ∧ count ≠ 0 := by
  have least : Int64.minValue.toInt ≤ rows.toNat := by
    rw [Int64.toInt_minValue]
    omega
  have value : (Int64.ofInt rows.toNat).toInt = rows.toNat := toInt_ofInt_of_mem least h.2
  refine ⟨_, signed64?_eq_some_iff.2 value, value, fun zero => ?_⟩
  rw [zero, Int64.toInt_zero] at value
  have one := h.1
  omega

/-- The keys of countable rows start as many before the last one, and one after that. There are none
if the key before the first one is below the range. -/
theorem generatedKeys_of_countable (h : Countable rows) :
    generatedKeys last rows =
      if last.toInt - rows.toNat < Int64.minValue.toInt then none
      else some (keyRange (Int64.ofInt (last.toInt - rows.toNat + 1)) last) := by
  obtain ⟨count, hcount, value, nonzero⟩ := h.exists_signed64?
  rw [generatedKeys, hcount]
  show (if count = 0 then some [] else
    (signed64? (last.toInt - count.toInt)).bind fun before =>
      (signed64? (before.toInt + 1)).bind fun first => some (keyRange first last)) = _
  rw [if_neg nonzero, value]
  split
  · next below =>
    rw [signed64?_eq_none_iff.2 (.inl below)]
    rfl
  · next within =>
    have greatest := last.toInt_le
    have one := h.1
    have before := toInt_ofInt_of_mem (Int.not_lt.1 within) (by omega)
    have first := toInt_ofInt_of_mem (n := last.toInt - rows.toNat + 1) (by omega) (by omega)
    rw [signed64?_eq_some_iff.2 before, Option.bind_some, before, signed64?_eq_some_iff.2 first,
      Option.bind_some]

/-- Countable rows have no keys exactly if the key before the first one is below the range. -/
theorem generatedKeys_eq_none_iff (h : Countable rows) :
    generatedKeys last rows = none ↔ last.toInt - rows.toNat < Int64.minValue.toInt := by
  rw [generatedKeys_of_countable h]
  split
  · next below => exact ⟨fun _ => below, fun _ => rfl⟩
  · next within => exact ⟨nofun, fun below => absurd below within⟩

/-- One row has one key, the one that the database tells, unless this is the least integer. -/
theorem generatedKeys_one (key : Int64) :
    generatedKeys key 1 = if key = Int64.minValue then none else some [key] := by
  have countable : Countable 1 := by decide
  have below : key.toInt - (1 : UInt64).toNat < Int64.minValue.toInt ↔ key = Int64.minValue := by
    have least := key.minValue_le_toInt
    rw [← Int64.toInt_inj]
    exact ⟨fun out => Int.le_antisymm (Int.lt_add_one_iff.1 (Int.sub_lt_iff.1 out)) least,
      fun same => same ▸ Int.sub_lt_self _ Int.one_pos⟩
  have first : Int64.ofInt (key.toInt - (1 : UInt64).toNat + 1) = key := by
    rw [UInt64.toNat_one, Int.natCast_one, Int.sub_add_cancel, Int64.ofInt_toInt]
  have one_step : (key.toInt - key.toInt + 1).toNat = 1 := by omega
  have range : keyRange key key = [key] := by
    rw [keyRange, one_step]
    show [key + 0] = [key]
    rw [Int64.add_zero]
  rw [generatedKeys_of_countable countable, first, range]
  simp only [below]

/-- The result of an insert of one row tells the one key, if it was asked for keys. -/
theorem InsertResult.generated_of_one {returnKey : Bool} {completion : Completion}
    {result : InsertResult} (h : ofCompletion? returnKey completion = some result)
    (one : completion.affected = 1) :
    result.generated = if returnKey then [completion.lastRowId] else [] := by
  rw [ofCompletion?, one, generatedKeys_one] at h
  cases returnKey with
  | false =>
    cases h
    rfl
  | true =>
    rw [if_pos rfl] at h
    split at h
    · cases h
    · cases h
      rfl

/-- The keys of countable rows are consecutive. -/
theorem map_toInt_generatedKeys (h : Countable rows) {keys : List Int64}
    (generated : generatedKeys last rows = some keys) :
    keys.map Int64.toInt = (List.range rows.toNat).map
      fun step => last.toInt - rows.toNat + 1 + Int.ofNat step := by
  rw [generatedKeys_of_countable h] at generated
  split at generated
  · cases generated
  · next within =>
    cases generated
    have one := h.1
    have greatest := last.toInt_le
    have first := toInt_ofInt_of_mem (n := last.toInt - rows.toNat + 1) (by omega) (by omega)
    have number : (last.toInt - (last.toInt - rows.toNat + 1) + 1).toNat = rows.toNat := by omega
    rw [map_toInt_keyRange, first, number]

/-- The first key is the generated one. -/
theorem generatedKey?_generatedKeys (h : Countable rows) {keys : List Int64}
    (generated : generatedKeys last rows = some keys) (affected : UInt64) :
    (InsertResult.mk affected keys).generatedKey?.map Int64.toInt =
      some (last.toInt - rows.toNat + 1) := by
  obtain ⟨others, hothers⟩ := Nat.exists_eq_add_of_le' h.1
  rw [InsertResult.generatedKey?, ← List.head?_map, map_toInt_generatedKeys h generated, hothers,
    List.range_succ_eq_map]
  exact congrArg some (Int.add_zero _)

/-- The last key is the one that the database tells. -/
theorem getLast?_generatedKeys (h : Countable rows) {keys : List Int64}
    (generated : generatedKeys last rows = some keys) : keys.getLast? = some last := by
  obtain ⟨others, hothers⟩ := Nat.exists_eq_add_of_le' h.1
  have reached : last.toInt - rows.toNat + 1 + Int.ofNat others = last.toInt := by
    rw [Int.ofNat_eq_natCast]
    omega
  have steps : List.range rows.toNat = List.range others ++ [others] := by
    rw [hothers, List.range_succ]
  have value : keys.getLast?.map Int64.toInt = some last.toInt := by
    rw [← List.getLast?_map, map_toInt_generatedKeys h generated, steps, List.map_append,
      List.map_singleton, List.getLast?_concat, reached]
  obtain ⟨key, hkey, same⟩ := Option.map_eq_some_iff.1 value
  rw [hkey, Int64.toInt_inj.1 same]

end Arithmetic

/-- **The keys of one insert are consecutive and end with the last one**, unless the first one is
the least integer. Let rows be countable and the first key a signed 64-bit integer. If that is the
least one, the arithmetic leaves the range, and a caller who asks for keys is not answered. In all
other cases the caller is answered with the keys from the first one to the one that the database
tells, in their order, and with the first one as the generated key. -/
theorem generatedKeys_consecutive (last : Int64) (rows : UInt64) (countable : Countable rows)
    (within : Int64.minValue.toInt ≤ last.toInt - rows.toNat + 1) :
    let first := last.toInt - rows.toNat + 1
    (generatedKeys last rows = none ↔ first = Int64.minValue.toInt) ∧
      InsertResult.ofCompletion? true { affected := rows, lastRowId := last } =
        (generatedKeys last rows).map (fun keys => { affected := rows, generated := keys }) ∧
      ∀ keys, generatedKeys last rows = some keys →
        keys.map Int64.toInt =
          (List.range rows.toNat).map (fun step => first + Int.ofNat step) ∧
        keys.getLast? = some last ∧
        (InsertResult.mk rows keys).generatedKey?.map Int64.toInt = some first := by
  intro first
  refine ⟨?_, ?_, fun keys generated => ⟨map_toInt_generatedKeys countable generated,
    getLast?_generatedKeys countable generated, generatedKey?_generatedKeys countable generated _⟩⟩
  · rw [generatedKeys_eq_none_iff countable]
    exact ⟨fun below => by omega, fun least => by omega⟩
  · rw [InsertResult.ofCompletion?, if_pos rfl]
    cases generatedKeys last rows <;> rfl

/-- Three rows of which the last one has the key -5. -/
theorem generatedKeys_consecutive_three :
    Countable 3 ∧ Int64.minValue.toInt ≤ (-5 : Int64).toInt - (3 : UInt64).toNat + 1 ∧
      ∃ keys, generatedKeys (-5) 3 = some keys ∧ keys.map Int64.toInt = [-7, -6, -5] ∧
        (InsertResult.mk 3 keys).generatedKey?.map Int64.toInt = some (-7) := by
  have countable : Countable 3 := by decide
  have within : Int64.minValue.toInt ≤ (-5 : Int64).toInt - (3 : UInt64).toNat + 1 := by decide
  obtain ⟨stops, -, keys⟩ := generatedKeys_consecutive (-5) 3 countable within
  have answered : generatedKeys (-5) 3 ≠ none := fun none => absurd (stops.1 none) (by decide)
  obtain ⟨keys', generated⟩ := Option.ne_none_iff_exists'.1 answered
  obtain ⟨consecutive, -, first⟩ := keys keys' generated
  exact ⟨countable, within, keys', generated, consecutive, first⟩

/-- An executor that hears nobody, and whose database tells the same of every statement that
writes. -/
def Executor.telling (completion : Completion) : Executor (StateM Unit) Empty where
  dialect := .mysql
  source := {
    acquire := pure (.ok ())
    fetch := fun _ => pure (.ok [])
    execute := fun _ => pure (.ok completion) }
  hear := fun listener _ => nomatch listener
  notice := fun _ => pure ()

/-- One row has the least integer as its key. The key before it, which the first step asks for, is
no signed 64-bit integer, so the row is inserted and the caller is not answered. -/
theorem leaves_range_below_least_key :
    Countable 1 ∧
      Int64.minValue.toInt ≤ Int64.minValue.toInt - (1 : UInt64).toNat + 1 ∧
      signed64? (Int64.minValue.toInt - (1 : UInt64).toNat) = none ∧
      generatedKeys Int64.minValue 1 = none ∧
      let x := Executor.telling { affected := 1, lastRowId := Int64.minValue }
      ((Job.insert (.ofList [("a", .int 1)]) true).perform x.watched (.ofTable "t")).run.run
          ([], ()) =
        (.error .lostTask,
          ([.asked, .sent
            { kind := some .insert, sql := "INSERT INTO `t` (`a`) VALUES (?)", bindings := [.int 1],
              written := ["a"] }], ())) :=
  ⟨by decide, by decide, by decide, by decide, rfl⟩

end SqlMapper
