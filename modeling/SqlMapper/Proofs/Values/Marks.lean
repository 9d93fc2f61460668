import Mathlib.Data.List.Induction
import SqlMapper.Data.ColumnValues

/-!
# What happens to columns

A history of columns is a list of marks, each of one column that is set to a value or gone. It does
not look at the columns themselves. The value of a column is that of its last mark
(`Mark.latest?_eq_some_iff`), and a column stands where it began: where it was set first since it
was gone (`Mark.Begins`).
-/

namespace SqlMapper

/-- What stands in a list with one more at its end is that one, or it stood there before. -/
theorem concat_eq_iff {β : Type} {h before after : List β} {m x : β} :
    h ++ [m] = before ++ x :: after ↔
      (after = [] ∧ before = h ∧ x = m) ∨
        ∃ front, after = front ++ [m] ∧ h = before ++ x :: front := by
  constructor
  · intro heq
    rcases List.eq_nil_or_concat after with rfl | ⟨front, last, rfl⟩
    · obtain ⟨hbefore, hlast⟩ := List.append_inj' heq rfl
      exact .inl ⟨rfl, hbefore.symm, (List.singleton_inj.1 hlast).symm⟩
    · have longer : h ++ [m] = (before ++ x :: front) ++ [last] := by simpa using heq
      obtain ⟨hfront, hlast⟩ := List.append_inj' longer rfl
      exact .inr ⟨front, by simp [List.singleton_inj.1 hlast], hfront⟩
  · rintro (⟨rfl, rfl, rfl⟩ | ⟨front, rfl, rfl⟩)
    · rfl
    · simp

/-- What happens to one column. -/
inductive Mark where
  /-- The column is given a value. -/
  | set (column : String) (value : Value)
  /-- The column is removed or dropped. -/
  | gone (column : String)
deriving DecidableEq, Inhabited

namespace Mark

/-- The column to which something happens. -/
def column : Mark → String
  | .set column _ => column
  | .gone column => column

/-- The value that the column has then, if it is there. -/
def value? : Mark → Option Value
  | .set _ value => some value
  | .gone _ => none

/-- The value that a column has after a history, found by following this column alone. -/
def latest? (h : List Mark) (column : String) : Option Value :=
  h.foldl (fun before m => if m.column = column then m.value? else before) none

/-- A column was set to a value, and nothing has happened to it since. -/
def Latest (h : List Mark) (column : String) (value : Value) : Prop :=
  ∃ before after, h = before ++ .set column value :: after ∧ ∀ m ∈ after, m.column ≠ column

/-- A column was set when it was not there, right after some part of a history, and it has not been
gone since. -/
def Begins (h : List Mark) (column : String) (before : List Mark) : Prop :=
  ∃ value after, h = before ++ .set column value :: after ∧
    (∀ old, ¬ Latest before column old) ∧ .gone column ∉ after

variable {h : List Mark} {column : String}

/-- The last mark of a column decides. -/
theorem latest?_concat (h : List Mark) (m : Mark) (column : String) :
    latest? (h ++ [m]) column = if m.column = column then m.value? else latest? h column := by
  rw [latest?, List.foldl_append]
  rfl

/-- What is found by following a column is its latest value. -/
theorem latest?_eq_some_iff {value : Value} :
    latest? h column = some value ↔ Latest h column value := by
  induction h using List.reverseRecOn with
  | nil => exact ⟨nofun, fun ⟨before, after, heq, _⟩ => by simp at heq⟩
  | append_singleton h m ih =>
    rw [latest?_concat]
    by_cases hm : m.column = column
    · rw [if_pos hm]
      constructor
      · intro hvalue
        cases m with
        | set other given =>
          obtain rfl : other = column := hm
          obtain rfl : given = value := Option.some.inj hvalue
          exact ⟨h, [], rfl, nofun⟩
        | gone other => cases hvalue
      · rintro ⟨before, after, heq, untouched⟩
        rcases concat_eq_iff.1 heq with ⟨-, -, rfl⟩ | ⟨front, rfl, -⟩
        · rfl
        · exact absurd hm (untouched m (by simp))
    · rw [if_neg hm, ih]
      constructor
      · rintro ⟨before, after, rfl, untouched⟩
        refine ⟨before, after ++ [m], by simp, List.forall_mem_append.2 ⟨untouched, ?_⟩⟩
        exact List.forall_mem_singleton.2 hm
      · rintro ⟨before, after, heq, untouched⟩
        rcases concat_eq_iff.1 heq with ⟨-, -, rfl⟩ | ⟨front, rfl, rfl⟩
        · exact absurd rfl hm
        · exact ⟨before, front, rfl, fun other hother => untouched other (by simp [hother])⟩

/-- A column has no value if it is gone after each time that it was set, or never was. -/
theorem latest?_eq_none_iff :
    latest? h column = none ↔
      ∀ before value after, h = before ++ .set column value :: after → .gone column ∈ after := by
  induction h using List.reverseRecOn with
  | nil => exact ⟨fun _ before value after heq => by simp at heq, fun _ => rfl⟩
  | append_singleton h m ih =>
    rw [latest?_concat]
    by_cases hm : m.column = column
    · subst hm
      rw [if_pos rfl]
      cases m with
      | set column value =>
        refine ⟨nofun, fun always => ?_⟩
        cases always h value [] rfl
      | gone column =>
        refine ⟨fun _ before value after heq => ?_, fun _ => rfl⟩
        rcases concat_eq_iff.1 heq with ⟨-, -, hset⟩ | ⟨front, rfl, -⟩
        · cases hset
        · exact List.mem_append_right _ (List.mem_singleton.2 rfl)
    · rw [if_neg hm, ih]
      constructor
      · intro always before value after heq
        rcases concat_eq_iff.1 heq with ⟨-, -, rfl⟩ | ⟨front, rfl, hfront⟩
        · exact absurd rfl hm
        · exact List.mem_append_left _ (always before value front hfront)
      · rintro always before value after rfl
        have later := always before value (after ++ [m]) (by simp)
        refine (List.mem_append.1 later).resolve_right fun hlast => hm ?_
        rw [← List.mem_singleton.1 hlast]
        rfl

/-- A beginning stays unless the column is gone, and a column that is not there begins when it is
set. -/
theorem begins_concat_iff {before : List Mark} {m : Mark} :
    Begins (h ++ [m]) column before ↔
      (Begins h column before ∧ m ≠ .gone column) ∨
        (before = h ∧ latest? h column = none ∧ ∃ value, m = .set column value) := by
  have absent (part : List Mark) :
      latest? part column = none ↔ ∀ old, ¬ Latest part column old := by
    rw [Option.eq_none_iff_forall_ne_some]
    exact forall_congr' fun old => not_congr latest?_eq_some_iff
  constructor
  · rintro ⟨value, after, heq, fresh, stays⟩
    rcases concat_eq_iff.1 heq with ⟨-, rfl, hset⟩ | ⟨front, rfl, hfront⟩
    · exact .inr ⟨rfl, (absent before).2 fresh, value, hset.symm⟩
    · rw [List.mem_append, List.mem_singleton, not_or] at stays
      exact .inl ⟨⟨value, front, hfront, fresh, stays.1⟩, Ne.symm stays.2⟩
  · rintro (⟨⟨value, after, rfl, fresh, stays⟩, hm⟩ | ⟨rfl, hnone, value, rfl⟩)
    · refine ⟨value, after ++ [m], by simp, fresh, ?_⟩
      rw [List.mem_append, List.mem_singleton, not_or]
      exact ⟨stays, Ne.symm hm⟩
    · exact ⟨value, [], rfl, (absent before).1 hnone, nofun⟩

/-- A history begins for the columns that have a value. -/
theorem exists_begins_iff :
    (∃ before, Begins h column before) ↔ ∃ value, latest? h column = some value := by
  induction h using List.reverseRecOn with
  | nil => exact ⟨fun ⟨before, _, _, heq, _⟩ => by simp at heq, nofun⟩
  | append_singleton h m ih =>
    simp only [begins_concat_iff, latest?_concat]
    constructor
    · rintro ⟨before, ⟨begins, hm⟩ | ⟨-, -, value, rfl⟩⟩
      · split
        · next same =>
          cases m with
          | set other value => exact ⟨value, rfl⟩
          | gone other => exact absurd (congrArg Mark.gone same) hm
        · exact ih.1 ⟨before, begins⟩
      · exact ⟨value, if_pos rfl⟩
    · rintro ⟨value, hvalue⟩
      cases hlatest : latest? h column with
      | some old =>
        obtain ⟨before, begins⟩ := ih.2 ⟨old, hlatest⟩
        refine ⟨before, .inl ⟨begins, ?_⟩⟩
        rintro rfl
        rw [Mark.column, if_pos rfl] at hvalue
        cases hvalue
      | none =>
        refine ⟨h, .inr ⟨rfl, rfl, ?_⟩⟩
        rw [hlatest] at hvalue
        split at hvalue
        · next same =>
          cases m with
          | set other given => exact ⟨given, congrArg (Mark.set · given) same⟩
          | gone other => cases hvalue
        · cases hvalue

/-- A beginning lies before the end. -/
theorem Begins.length_lt {before : List Mark} (begins : Begins h column before) :
    before.length < h.length := by
  obtain ⟨value, after, rfl, -⟩ := begins
  simp

end Mark

end SqlMapper
