import SqlMapper.Dialect.Select

/-!
# How conditions are read

The clauses of a statement stand one after another without parentheses, and `AND` binds tighter than
`OR`. So a list of clauses is read as alternatives, each of them a run of predicates that all have
to hold (`alternatives`, `Dialect.clauses_eq`). A row is selected when this reading is true;
unknown, the truth value of what is said about a null, does not select it.

A clause that is added with `AND` joins one alternative only. The main statement is
`Truth.yes_imp_iff`: the clause holds of every row that is selected if and only if it holds whenever
one of the other alternatives does.
-/

namespace SqlMapper

/-- The truth values of a condition. -/
inductive Truth where
  /-- The condition does not hold. -/
  | no
  /-- The condition says something about a null. -/
  | unknown
  /-- The condition holds. -/
  | yes
deriving DecidableEq, Inhabited

namespace Truth

/-- The truth of two conditions together. -/
def and : Truth → Truth → Truth
  | .no, _ => .no
  | _, .no => .no
  | .yes, b => b
  | .unknown, _ => .unknown

/-- The truth of one of two conditions. -/
def or : Truth → Truth → Truth
  | .yes, _ => .yes
  | _, .yes => .yes
  | .no, b => b
  | .unknown, _ => .unknown

/-- Two conditions together hold if each does. -/
@[simp] theorem and_eq_yes {a b : Truth} : a.and b = .yes ↔ a = .yes ∧ b = .yes := by
  cases a <;> cases b <;> simp [and]

/-- One of two conditions holds if the one or the other does. -/
@[simp] theorem or_eq_yes {a b : Truth} : a.or b = .yes ↔ a = .yes ∨ b = .yes := by
  cases a <;> cases b <;> simp [or]

end Truth

/-- Alternatives with a predicate put at the front of the first one. -/
def joinFirst (p : Predicate Query) : List (List (Predicate Query)) → List (List (Predicate Query))
  | [] => [[p]]
  | run :: later => (p :: run) :: later

/-- The runs of predicates between the words `OR`. The first run goes on with what stands before. -/
def runs : List (Clause Query) → List (List (Predicate Query))
  | [] => [[]]
  | ⟨.and, p⟩ :: rest => joinFirst p (runs rest)
  | ⟨.or, p⟩ :: rest => [] :: joinFirst p (runs rest)

/-- The alternatives of a list of clauses. The connector of the first clause has no effect. -/
def alternatives : List (Clause Query) → List (List (Predicate Query))
  | [] => [[]]
  | ⟨_, p⟩ :: rest => joinFirst p (runs rest)

/-- The truth of a list of clauses, given that of each predicate. -/
def Truth.ofClauses (row : Predicate Query → Truth) (cs : List (Clause Query)) : Truth :=
  ((alternatives cs).map (fun run => (run.map row).foldr Truth.and .yes)).foldr Truth.or .no

/-- The alternatives that a clause does not join, given the clauses before it and after it. -/
def rivals (before after : List (Clause Query)) : List (List (Predicate Query)) :=
  (alternatives before).dropLast ++ (runs after).tail

/-- Runs put after alternatives: the first run joins the last alternative. -/
def glue (groups : List (List (Predicate Query))) (more : List (List (Predicate Query))) :
    List (List (Predicate Query)) :=
  groups.dropLast ++ (groups.getLast?.getD [] ++ more.headD []) :: more.tail

/-- There is a first run. -/
theorem runs_ne_nil (cs : List (Clause Query)) : runs cs ≠ [] := by
  match cs with
  | [] => simp [runs]
  | ⟨.and, p⟩ :: rest =>
    rw [runs]
    cases runs rest <;> simp [joinFirst]
  | ⟨.or, p⟩ :: rest => simp [runs]

/-- A predicate at the front goes with the first of what is put together. -/
theorem joinFirst_glue (p : Predicate Query) {groups more : List (List (Predicate Query))}
    (h : groups ≠ []) : joinFirst p (glue groups more) = glue (joinFirst p groups) more := by
  cases groups with
  | nil => exact absurd rfl h
  | cons first rest =>
    cases rest with
    | nil => rfl
    | cons second others => simp [glue, joinFirst, List.getLast?_cons]

/-- The runs of clauses that follow each other. -/
theorem runs_append (before after : List (Clause Query)) :
    runs (before ++ after) = glue (runs before) (runs after) := by
  induction before with
  | nil =>
    obtain ⟨first, rest, h⟩ := List.exists_cons_of_ne_nil (runs_ne_nil after)
    simp [runs, glue, h]
  | cons c rest ih =>
    obtain ⟨connector, p⟩ := c
    have hne : joinFirst p (runs rest) ≠ [] := by cases runs rest <;> simp [joinFirst]
    cases connector with
    | and => rw [List.cons_append, runs, ih, joinFirst_glue p (runs_ne_nil rest), runs]
    | or =>
      rw [List.cons_append, runs, ih, joinFirst_glue p (runs_ne_nil rest), runs]
      obtain ⟨first, others, h⟩ := List.exists_cons_of_ne_nil hne
      simp [glue, h, List.getLast?_cons]

/-- The alternatives of clauses that follow other ones: the clauses go on with the last alternative
up to their first `OR`. -/
theorem alternatives_append_and (before : List (Clause Query)) (r : Predicate Query)
    (after : List (Clause Query)) :
    alternatives (before ++ ⟨.and, r⟩ :: after) =
      glue (alternatives before) (joinFirst r (runs after)) := by
  cases before with
  | nil =>
    obtain ⟨first, rest, h⟩ := List.exists_cons_of_ne_nil (runs_ne_nil after)
    simp [alternatives, glue, joinFirst, h]
  | cons c rest =>
    rw [List.cons_append, alternatives, runs_append, joinFirst_glue c.predicate (runs_ne_nil rest)]
    rfl

/-- A clause added with `AND` stands in one alternative, and the others are its rivals. -/
theorem mem_alternatives_iff (before : List (Clause Query)) (r : Predicate Query)
    (after : List (Clause Query)) : ∃ joined, r ∈ joined ∧
      ∀ run, run ∈ alternatives (before ++ ⟨.and, r⟩ :: after) ↔
        run = joined ∨ run ∈ rivals before after := by
  obtain ⟨first, rest, h⟩ := List.exists_cons_of_ne_nil (runs_ne_nil after)
  refine ⟨(alternatives before).getLast?.getD [] ++ r :: first, by simp, fun run => ?_⟩
  rw [alternatives_append_and, h, rivals, h, joinFirst, glue, List.mem_append, List.mem_cons,
    List.mem_append]
  simp only [List.headD_cons, List.tail_cons]
  constructor
  · rintro (hrun | rfl | hrun)
    · exact .inr (.inl hrun)
    · exact .inl rfl
    · exact .inr (.inr hrun)
  · rintro (rfl | hrun | hrun)
    · exact .inr (.inl rfl)
    · exact .inl hrun
    · exact .inr (.inr hrun)

namespace Truth

/-- Predicates together hold if each does. -/
theorem foldr_and_eq_yes (row : Predicate Query → Truth) (run : List (Predicate Query)) :
    (run.map row).foldr Truth.and .yes = .yes ↔ ∀ p ∈ run, row p = .yes := by
  induction run with
  | nil => simp
  | cons p rest ih => simp [ih]

/-- Clauses hold if all predicates of one of their alternatives do. -/
theorem ofClauses_eq_yes (row : Predicate Query → Truth) (cs : List (Clause Query)) :
    ofClauses row cs = .yes ↔ ∃ run ∈ alternatives cs, ∀ p ∈ run, row p = .yes := by
  unfold ofClauses
  induction alternatives cs with
  | nil => simp
  | cons run rest ih => simp [ih, foldr_and_eq_yes]

/-- **What it takes for a restriction to restrict.** Given the truth of all predicates for a row, a
clause that was added with `AND` holds if the row is selected, if and only if it holds whenever one
of the alternatives that it does not join holds. -/
theorem yes_imp_iff (row : Predicate Query → Truth) (before : List (Clause Query))
    (r : Predicate Query) (after : List (Clause Query)) :
    (ofClauses row (before ++ ⟨.and, r⟩ :: after) = .yes → row r = .yes) ↔
      ∀ run ∈ rivals before after, (∀ p ∈ run, row p = .yes) → row r = .yes := by
  obtain ⟨joined, hjoined, hmem⟩ := mem_alternatives_iff before r after
  rw [ofClauses_eq_yes]
  constructor
  · intro h run hrun hall
    exact h ⟨run, (hmem run).2 (.inr hrun), hall⟩
  · rintro h ⟨run, hrun, hall⟩
    rcases (hmem run).1 hrun with rfl | hrun
    · exact hall r hjoined
    · exact h run hrun hall

end Truth

/-- Clauses joined by `AND` throughout are one run. -/
theorem runs_of_and {cs : List (Clause Query)} (h : ∀ c ∈ cs, c.connector = .and) :
    runs cs = [cs.map (fun c => c.predicate)] := by
  induction cs with
  | nil => rfl
  | cons c rest ih =>
    obtain ⟨connector, p⟩ := c
    obtain rfl : connector = .and := h _ List.mem_cons_self
    rw [runs, ih fun other hother => h other (List.mem_cons_of_mem _ hother)]
    rfl

/-- Clauses that are added with `AND` to others have as rivals the alternatives of those, but for
the last one. -/
theorem rivals_of_and (cs : List (Clause Query)) {before after : List (Clause Query)}
    (hbefore : ∀ c ∈ before, c.connector = .and) (hafter : ∀ c ∈ after, c.connector = .and) :
    rivals (cs ++ before) after = (alternatives cs).dropLast := by
  rw [rivals, runs_of_and hafter, List.tail_cons, List.append_nil]
  cases before with
  | nil => rw [List.append_nil]
  | cons c rest =>
    obtain ⟨connector, p⟩ := c
    obtain rfl : connector = .and := hbefore _ List.mem_cons_self
    rw [alternatives_append_and,
      runs_of_and fun other hother => hbefore other (List.mem_cons_of_mem _ hother), joinFirst, glue,
      List.tail_cons, List.dropLast_concat]

/-- Clauses with no `OR` after the first of them are one alternative. -/
theorem alternatives_of_and {cs : List (Clause Query)} (h : ∀ c ∈ cs.tail, c.connector = .and) :
    alternatives cs = [cs.map (fun c => c.predicate)] := by
  cases cs with
  | nil => rfl
  | cons c rest =>
    rw [List.tail_cons] at h
    rw [alternatives, runs_of_and h]
    rfl

/-- A clause that is added with `AND` holds of every row that is selected, if the clauses before it
have no `OR` after the first of them. -/
theorem Truth.yes_of_added {chosen added : List (Clause Query)}
    (joined : ∀ c ∈ chosen.tail, c.connector = .and) (hadded : ∀ c ∈ added, c.connector = .and)
    {p : Predicate Query} (hp : ⟨.and, p⟩ ∈ added) {row : Predicate Query → Truth}
    (selected : Truth.ofClauses row (chosen ++ added) = .yes) : row p = .yes := by
  obtain ⟨before, after, rfl⟩ := List.append_of_mem hp
  rw [List.forall_mem_append, List.forall_mem_cons] at hadded
  rw [← List.append_assoc] at selected
  refine (Truth.yes_imp_iff row (chosen ++ before) p after).2 ?_ selected
  rw [rivals_of_and chosen hadded.1 hadded.2.2, alternatives_of_and joined]
  exact nofun

namespace Dialect

variable (d : Dialect)

/-- A run of predicates as it stands in a statement. -/
def runText (run : List (Predicate Query)) : String :=
  " AND ".intercalate (run.map d.predicate)

/-- Clauses after a first predicate stand as their alternatives do. -/
theorem predicate_append_connected (p : Predicate Query) (rest : List (Clause Query)) :
    d.predicate p ++ d.connected rest =
      " OR ".intercalate ((joinFirst p (runs rest)).map d.runText) := by
  induction rest generalizing p with
  | nil => simp [connected, runs, joinFirst, runText]
  | cons c rest ih =>
    obtain ⟨connector, next⟩ := c
    obtain ⟨run, later, h⟩ := List.exists_cons_of_ne_nil (runs_ne_nil rest)
    have inner := ih next
    rw [h, joinFirst] at inner
    cases connector with
    | and =>
      have outer : d.runText (p :: next :: run) =
          (d.predicate p ++ " AND ") ++ d.runText (next :: run) := by
        simp only [runText, List.map_cons, String.intercalate_cons_cons]
      rw [runs, h, joinFirst, joinFirst, List.map_cons, outer, String.intercalate_cons_append,
        ← List.map_cons (f := d.runText), ← inner, connected]
      simp only [String.append_assoc, Connector.sql]
      rfl
    | or =>
      rw [runs, h, joinFirst, joinFirst, List.map_cons,
        String.intercalate_cons_of_ne_nil (by simp), ← inner, connected]
      simp only [String.append_assoc, Connector.sql, runText, List.map_cons, List.map_nil,
        String.intercalate_singleton]
      rfl

/-- **How a statement shows its clauses.** Their text is that of their alternatives with `OR`
between them, each the text of its predicates with `AND` between them. -/
theorem clauses_eq {cs : List (Clause Query)} (h : cs ≠ []) :
    d.clauses cs = " OR ".intercalate ((alternatives cs).map d.runText) := by
  obtain ⟨⟨_, p⟩, rest, rfl⟩ := List.exists_cons_of_ne_nil h
  rw [clauses, predicate_append_connected, alternatives]

end Dialect

end SqlMapper
