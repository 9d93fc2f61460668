import Mathlib.Data.List.Infix
import SqlMapper.Lifecycle.Dispatch

/-!
# Dispatch as a fold

Listeners that are called one after another leave a standing: the operation, the substitutes asked
for, and the failures on record. Each of them turns one standing into the next (`Standing.next`), so
what a list of listeners leaves is a fold over the list (`Standing.after`), and what each of them is
shown is what those before it leave (`Standing.calls`). Listeners answer by any function of what
they are shown; what they do to the bus of the operation is part of that answer. To say which of
them a dispatch calls, the calls are noted one by one (`noting`).

A listener that does not stop the dispatch hands on to the next one (`dispatchTo_append`), and every
list of listeners is one of which none stops, followed by nothing or by one that does
(`exists_first`). So a dispatch calls the listeners that were registered when it began, up to and
including the first one that stops it, and comes to what the fold over these leaves
(`dispatch_eq_fold`).
-/

namespace SqlMapper

/-- Whether a verdict keeps the listeners after it from being called. -/
def Verdict.stops (policy : ErrorPolicy) : Verdict → Bool
  | .proceed => false
  | .cancel => true
  | .fail _ => decide (policy = .shortCircuit)

/-- The failure in a verdict, if it is one, under the identifier of the listener. -/
def Verdict.failure? (id : ListenerId) : Verdict → Option HookFailure
  | .fail error => some { listener := id, error }
  | _ => none

/-- What the listeners that were called leave. -/
structure Standing (ℓ : Type) where
  /-- The operation. -/
  operation : Operation ℓ
  /-- The substitutes asked for, in order. -/
  queued : List (Substitute ℓ) := []
  /-- The failures on record, in order. -/
  failures : List HookFailure := []

section Calling

variable {ℓ : Type} (answer : ℓ → LifecycleEvent ℓ → Response ℓ) (kind : EventKind)

/-- Listeners that answer what a function says, with a note of each call. -/
def noting : Hearing (StateM (List (ℓ × LifecycleEvent ℓ))) ℓ := fun listener event =>
  modifyGet fun notes => (answer listener event, notes ++ [(listener, event)])

namespace Standing

/-- What the next listener is shown. -/
def event (s : Standing ℓ) : LifecycleEvent ℓ :=
  { kind, operation := s.operation, substitutes := s.queued }

/-- What the next listener answers. -/
def response (s : Standing ℓ) (r : Registration ℓ) : Response ℓ :=
  answer r.listener (s.event kind)

/-- What one more listener leaves. -/
def next (s : Standing ℓ) (r : Registration ℓ) : Standing ℓ where
  operation := (s.response answer kind r).operation
  queued := s.queued ++
    (s.response answer kind r).requests.map fun request => .of request.1 request.2
  failures := s.failures ++ ((s.response answer kind r).verdict.failure? r.id).toList

/-- What further listeners leave, called one after another. -/
def after (s : Standing ℓ) (rs : List (Registration ℓ)) : Standing ℓ :=
  rs.foldl (next answer kind) s

/-- What a listener wants to happen once others were called before it. -/
def verdict (s : Standing ℓ) (before : List (Registration ℓ)) (r : Registration ℓ) : Verdict :=
  ((s.after answer kind before).response answer kind r).verdict

/-- The calls of listeners one after another: each is shown what those before it leave. -/
def calls (s : Standing ℓ) (rs : List (Registration ℓ)) : List (ℓ × LifecycleEvent ℓ) :=
  rs.mapIdx fun i r => (r.listener, (s.after answer kind (rs.take i)).event kind)

/-- None of the listeners stops a dispatch. -/
def GoesOn (policy : ErrorPolicy) (s : Standing ℓ) (rs : List (Registration ℓ)) : Prop :=
  ∀ before r, before ++ [r] <+: rs → (s.verdict answer kind before r).stops policy = false

/-- Of the listeners that are called none but the last one stops the dispatch, and that one does if
any are skipped. -/
structure UpToStop (policy : ErrorPolicy) (s : Standing ℓ)
    (called skipped : List (Registration ℓ)) : Prop where
  goes_on : ∀ before r, before ++ [r] <+: called → before ++ [r] ≠ called →
    (s.verdict answer kind before r).stops policy = false
  stopped : skipped ≠ [] → ∃ before r, called = before ++ [r] ∧
    (s.verdict answer kind before r).stops policy = true

/-- The last listener that is called calls the statement off. -/
def CalledOff (s : Standing ℓ) (called : List (Registration ℓ)) : Prop :=
  ∃ before r, called = before ++ [r] ∧ s.verdict answer kind before r = .cancel

/-- The first listener is called, and the others after it. -/
theorem calls_cons (s : Standing ℓ) (r : Registration ℓ) (rs : List (Registration ℓ)) :
    s.calls answer kind (r :: rs) =
      (r.listener, s.event kind) :: (s.next answer kind r).calls answer kind rs := by
  rw [calls, List.mapIdx_cons]
  rfl

/-- One more listener is called on what those before it leave. -/
theorem calls_concat (s : Standing ℓ) (rs : List (Registration ℓ)) (r : Registration ℓ) :
    s.calls answer kind (rs ++ [r]) =
      s.calls answer kind rs ++ [(r.listener, (s.after answer kind rs).event kind)] := by
  induction rs generalizing s with
  | nil => rfl
  | cons first rest ih =>
    rw [List.cons_append, calls_cons, calls_cons, ih, List.cons_append]
    rfl

/-- What one more listener leaves at the end. -/
theorem after_concat (s : Standing ℓ) (rs : List (Registration ℓ)) (r : Registration ℓ) :
    s.after answer kind (rs ++ [r]) = (s.after answer kind rs).next answer kind r :=
  List.foldl_concat ..

/-- What is asked for is run without listeners. -/
theorem isEmpty_of_mem_queued {s : Standing ℓ}
    (h : ∀ sub ∈ s.queued, sub.operation.events.isEmpty = true) (rs : List (Registration ℓ)) :
    ∀ sub ∈ (s.after answer kind rs).queued, sub.operation.events.isEmpty = true := by
  induction rs generalizing s with
  | nil => exact h
  | cons r rest ih =>
    refine ih (s := s.next answer kind r) fun sub hsub => ?_
    rcases List.mem_append.1 hsub with hsub | hsub
    · exact h sub hsub
    · obtain ⟨request, -, rfl⟩ := List.mem_map.1 hsub
      rfl

end Standing

/-- What a dispatch comes to when it ends with a verdict. -/
def Standing.outcome (s : Standing ℓ) : Verdict → Except QueryFault (Report ℓ)
  | .cancel =>
    if kind.isCancelable then
      .ok { canceled := true, substitutes := s.queued, failures := s.failures }
    else .error (.notCancelable kind)
  | _ => .ok { failures := s.failures }

/-- A dispatch that ends with a statement called off is a fault at most moments. -/
theorem Standing.outcome_cancel (s : Standing ℓ) : s.outcome kind .cancel =
    if kind.isCancelable then
      .ok { canceled := true, substitutes := s.queued, failures := s.failures }
    else .error (.notCancelable kind) := rfl

/-- A dispatch that ends otherwise comes to the failures on record. -/
theorem Standing.outcome_of_ne_cancel (s : Standing ℓ) {v : Verdict} (h : v ≠ .cancel) :
    s.outcome kind v = .ok { failures := s.failures } := by
  cases v with
  | cancel => exact absurd rfl h
  | proceed | fail error => rfl

/-- Calls listeners one after another, starting from a standing. -/
def dispatchFrom (policy : ErrorPolicy) (s : Standing ℓ) (rs : List (Registration ℓ)) :
    StateM (List (ℓ × LifecycleEvent ℓ)) (Except QueryFault (Report ℓ) × Operation ℓ) :=
  dispatchTo (noting answer) kind policy rs s.operation s.queued s.failures

variable {answer kind} {policy : ErrorPolicy} {s : Standing ℓ}

/-- A call is noted and answered. -/
theorem run_noting {α : Type} (listener : ℓ) (event : LifecycleEvent ℓ)
    (f : Response ℓ → StateM (List (ℓ × LifecycleEvent ℓ)) α)
    (notes : List (ℓ × LifecycleEvent ℓ)) :
    (noting answer listener event >>= f).run notes =
      (f (answer listener event)).run (notes ++ [(listener, event)]) := rfl

/-- A listener that does not stop the dispatch hands on what it leaves. -/
theorem dispatchFrom_cons {r : Registration ℓ}
    (h : (s.response answer kind r).verdict.stops policy = false) (rest : List (Registration ℓ))
    (notes : List (ℓ × LifecycleEvent ℓ)) :
    (dispatchFrom answer kind policy s (r :: rest)).run notes =
      (dispatchFrom answer kind policy (s.next answer kind r) rest).run
        (notes ++ [(r.listener, s.event kind)]) := by
  rw [Standing.response, Standing.event] at h
  rw [dispatchFrom, dispatchTo, run_noting, dispatchFrom, Standing.next, Standing.response,
    Standing.event]
  cases hv : (answer r.listener ⟨kind, s.operation, s.queued⟩).verdict with
  | proceed => simp only [Verdict.failure?, Option.toList_none, List.append_nil]
  | cancel =>
    rw [hv] at h
    cases h
  | fail error =>
    cases policy with
    | isolate => rfl
    | shortCircuit =>
      rw [hv] at h
      cases h

/-- A listener that stops the dispatch is the last one called. -/
theorem dispatchFrom_stop {r : Registration ℓ}
    (h : (s.response answer kind r).verdict.stops policy = true) (rest : List (Registration ℓ))
    (notes : List (ℓ × LifecycleEvent ℓ)) :
    (dispatchFrom answer kind policy s (r :: rest)).run notes =
      (((s.next answer kind r).outcome kind (s.response answer kind r).verdict,
        (s.next answer kind r).operation), notes ++ [(r.listener, s.event kind)]) := by
  rw [Standing.response, Standing.event] at h
  rw [dispatchFrom, dispatchTo, run_noting, Standing.next, Standing.response, Standing.event]
  cases hv : (answer r.listener ⟨kind, s.operation, s.queued⟩).verdict with
  | proceed =>
    rw [hv] at h
    cases h
  | cancel =>
    simp only [Standing.outcome, Verdict.failure?, Option.toList_none, List.append_nil]
    cases kind.isCancelable <;> rfl
  | fail error =>
    cases policy with
    | isolate =>
      rw [hv] at h
      cases h
    | shortCircuit => rfl

/-- Listeners of which none stops the dispatch are called one after another, and those behind them
on what they leave. -/
theorem dispatchFrom_append {before : List (Registration ℓ)}
    (h : s.GoesOn answer kind policy before) (rest : List (Registration ℓ))
    (notes : List (ℓ × LifecycleEvent ℓ)) :
    (dispatchFrom answer kind policy s (before ++ rest)).run notes =
      (dispatchFrom answer kind policy (s.after answer kind before) rest).run
        (notes ++ s.calls answer kind before) := by
  induction before generalizing s notes with
  | nil => rw [Standing.calls, List.mapIdx_nil, List.append_nil]; rfl
  | cons r others ih =>
    have first : (s.response answer kind r).verdict.stops policy = false :=
      h [] r (List.prefix_append [r] others)
    have later : (s.next answer kind r).GoesOn answer kind policy others := fun before r' hr' =>
      h (r :: before) r' (List.cons_prefix_cons.2 ⟨rfl, hr'⟩)
    rw [List.cons_append, dispatchFrom_cons first, ih later, Standing.calls_cons,
      List.append_assoc]
    rfl

namespace Standing

/-- Listeners of which none stops the dispatch are all called. -/
theorem GoesOn.upToStop {rs : List (Registration ℓ)} (h : s.GoesOn answer kind policy rs) :
    s.UpToStop answer kind policy rs [] where
  goes_on before r hr _ := h before r hr
  stopped hskipped := absurd rfl hskipped

/-- Listeners of which none stops the dispatch do not call the statement off. -/
theorem GoesOn.not_calledOff {rs : List (Registration ℓ)} (h : s.GoesOn answer kind policy rs) :
    ¬s.CalledOff answer kind rs := by
  rintro ⟨before, r, rfl, hcancel⟩
  have goes_on := h before r (List.prefix_refl _)
  rw [hcancel] at goes_on
  cases goes_on

/-- A listener that stops the dispatch is the last one called. -/
theorem GoesOn.upToStop_concat {before : List (Registration ℓ)}
    (h : s.GoesOn answer kind policy before) {r : Registration ℓ}
    (hstop : (s.verdict answer kind before r).stops policy = true)
    (skipped : List (Registration ℓ)) :
    s.UpToStop answer kind policy (before ++ [r]) skipped where
  goes_on others r' hr hne := by
    rcases List.prefix_concat_iff.1 hr with heq | hr
    · exact absurd heq hne
    · exact h others r' hr
  stopped _ := ⟨before, r, rfl, hstop⟩

/-- The statement is called off exactly if that is the verdict of the last listener. -/
theorem calledOff_concat {before : List (Registration ℓ)} {r : Registration ℓ} :
    s.CalledOff answer kind (before ++ [r]) ↔ s.verdict answer kind before r = .cancel := by
  constructor
  · rintro ⟨others, r', heq, hcancel⟩
    obtain ⟨rfl, rfl⟩ := List.append_singleton_inj.1 heq
    exact hcancel
  · exact fun hcancel => ⟨before, r, rfl, hcancel⟩

/-- Of any listeners none stops the dispatch, or there is a first one that does. -/
theorem exists_first (answer : ℓ → LifecycleEvent ℓ → Response ℓ) (kind : EventKind)
    (policy : ErrorPolicy) (s : Standing ℓ) (rs : List (Registration ℓ)) :
    s.GoesOn answer kind policy rs ∨ ∃ before r skipped, rs = before ++ r :: skipped ∧
      s.GoesOn answer kind policy before ∧
      (s.verdict answer kind before r).stops policy = true := by
  induction rs using List.reverseRecOn with
  | nil =>
    refine .inl fun before r hr => ?_
    cases before <;> cases List.prefix_nil.1 hr
  | append_singleton rs last ih =>
    rcases ih with goes_on | ⟨before, r, skipped, rfl, goes_on, stops⟩
    · cases hlast : (s.verdict answer kind rs last).stops policy with
      | true => exact .inr ⟨rs, last, [], rfl, goes_on, hlast⟩
      | false =>
        refine .inl fun before r hr => ?_
        rcases List.prefix_concat_iff.1 hr with heq | hr
        · obtain ⟨rfl, rfl⟩ := List.append_singleton_inj.1 heq
          exact hlast
        · exact goes_on before r hr
    · exact .inr ⟨before, r, skipped ++ [last], by simp, goes_on, stops⟩

end Standing

/-- The moments at which a statement may be called off. -/
theorem EventKind.isCancelable_iff (kind : EventKind) :
    kind.isCancelable = true ↔ kind = .preCreate ∨ kind = .preUpdate ∨ kind = .preDelete := by
  cases kind <;> decide

/-- **A dispatch is a fold.** Whatever function of what they are shown listeners answer by, a
dispatch calls the listeners that are registered for its moment when it begins, in the order of
registration and each on what those before it leave, up to and including the first one that calls
the statement off or, if the policy when it begins is to stop at a failure, the first one that
fails. If the last of them calls the statement off, the dispatch is a fault, unless the moment is
one before rows are created, updated or deleted: then it comes to the substitutes that were asked
for up to there, in order and each without listeners. Otherwise the statement is not called off, and
there are no substitutes. The failures are those of the listeners that were called, in order, and
the operation is left as the last of them leaves it. -/
theorem dispatch_eq_fold (answer : ℓ → LifecycleEvent ℓ → Response ℓ) (kind : EventKind)
    (op : Operation ℓ) (notes : List (ℓ × LifecycleEvent ℓ)) :
    let start : Standing ℓ := { operation := op }
    ∃ called skipped : List (Registration ℓ),
      op.events.registeredFor kind = called ++ skipped ∧
      start.UpToStop answer kind op.events.policy called skipped ∧
      let left := start.after answer kind called
      let allowed := kind = .preCreate ∨ kind = .preUpdate ∨ kind = .preDelete
      ∃ result, (dispatch (noting answer) kind op).run notes =
          ((result, left.operation), notes ++ start.calls answer kind called) ∧
        (start.CalledOff answer kind called → ¬allowed → result = .error (.notCancelable kind)) ∧
        (start.CalledOff answer kind called → allowed → result =
          .ok { canceled := true, substitutes := left.queued, failures := left.failures }) ∧
        (¬start.CalledOff answer kind called → result =
          .ok { canceled := false, substitutes := [], failures := left.failures }) ∧
        ∀ sub ∈ left.queued, sub.operation.events.isEmpty = true := by
  intro start
  have alone (rs : List (Registration ℓ)) :
      ∀ sub ∈ (start.after answer kind rs).queued, sub.operation.events.isEmpty = true :=
    Standing.isEmpty_of_mem_queued answer kind (s := start) nofun rs
  have begins : dispatch (noting answer) kind op =
      dispatchFrom answer kind op.events.policy start (op.events.registeredFor kind) := rfl
  rcases start.exists_first answer kind op.events.policy (op.events.registeredFor kind) with
    goes_on | ⟨before, r, skipped, hsplit, goes_on, hstop⟩
  · have run := dispatchFrom_append goes_on [] notes
    rw [List.append_nil, ← begins] at run
    refine ⟨_, [], (List.append_nil _).symm, goes_on.upToStop, _, run, ?_, ?_, fun _ => rfl,
      alone _⟩
    · exact fun off => absurd off goes_on.not_calledOff
    · exact fun off => absurd off goes_on.not_calledOff
  · have run : (dispatch (noting answer) kind op).run notes =
        (((start.after answer kind (before ++ [r])).outcome kind
            (start.verdict answer kind before r),
          (start.after answer kind (before ++ [r])).operation),
          notes ++ start.calls answer kind (before ++ [r])) := by
      rw [begins, hsplit, dispatchFrom_append goes_on, dispatchFrom_stop hstop,
        Standing.after_concat, Standing.calls_concat, List.append_assoc]
      rfl
    refine ⟨before ++ [r], skipped, by rw [hsplit, List.append_assoc]; rfl,
      goes_on.upToStop_concat hstop skipped, _, run, ?_, ?_, ?_, alone _⟩
    · intro off forbidden
      rw [← EventKind.isCancelable_iff] at forbidden
      rw [Standing.calledOff_concat.1 off, Standing.outcome_cancel, if_neg forbidden]
    · intro off allowed
      rw [← EventKind.isCancelable_iff] at allowed
      rw [Standing.calledOff_concat.1 off, Standing.outcome_cancel, if_pos allowed]
    · intro on
      exact Standing.outcome_of_ne_cancel kind _ (mt Standing.calledOff_concat.2 on)

/-- A listener that fails and puts an empty bus with another policy in place keeps the one after it
neither from being called nor from calling the statement off. -/
example :
    let answer : Bool → LifecycleEvent Bool → Response Bool := fun wipes event =>
      if wipes then
        { operation := { event.operation with events := { policy := .shortCircuit } }
          verdict := .fail ⟨"wiped"⟩ }
      else { operation := event.operation, verdict := .cancel }
    let op := ((Operation.ofTable "t").listen .preDelete true).listen .preDelete false
    ((dispatch (noting answer) .preDelete op).run []).1.1 =
      .ok { canceled := true, failures := [{ listener := ⟨0⟩, error := ⟨"wiped"⟩ }] } := by rfl

end Calling

end SqlMapper
