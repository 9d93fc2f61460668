/-!
# What a computation ensures

Listeners, enhancers and the database act in a monad. To say something about all of them, they act
on a state of which nothing is known, and a statement about a computation is one about every state
it can start from. `Ensures P x Q` says that from a state with `P` the computation `x` gives a
result and a state with `Q`; results and states are followed through a program by `Ensures.bind`,
and faults by `Ensures.bindExcept`.
-/

namespace SqlMapper

/-- From every state with the first property, a computation gives a result and a state with the
second one. -/
def Ensures {σ α : Type} (P : σ → Prop) (x : StateM σ α) (Q : α → σ → Prop) : Prop :=
  ∀ s, P s → Q (x.run s).1 (x.run s).2

/-- A property of results, given one of those that are no fault and one of faults. -/
def either {σ α ε : Type} (M : α → σ → Prop) (E : ε → σ → Prop) : Except ε α → σ → Prop
  | .ok a => M a
  | .error e => E e

namespace Ensures

variable {σ α β ε : Type} {P : σ → Prop} {Q Q' : α → σ → Prop} {R : β → σ → Prop}

/-- A result that is given at once. -/
theorem pure {a : α} (h : ∀ s, P s → Q a s) : Ensures P (pure a) Q := h

/-- One computation after another. -/
theorem bind {x : StateM σ α} {f : α → StateM σ β} (hx : Ensures P x Q)
    (hf : ∀ a, Ensures (Q a) (f a) R) : Ensures P (x >>= f) R :=
  fun s hs => hf _ _ (hx s hs)

/-- What is ensured can be said less exactly. -/
theorem mono {x : StateM σ α} (hx : Ensures P x Q) (h : ∀ a s, Q a s → Q' a s) : Ensures P x Q' :=
  fun s hs => h _ _ (hx s hs)

/-- Two things that a computation ensures. -/
theorem and {x : StateM σ α} (hx : Ensures P x Q) (hx' : Ensures P x Q') :
    Ensures P x (fun a s => Q a s ∧ Q' a s) :=
  fun s hs => ⟨hx s hs, hx' s hs⟩

/-- Nothing is asked of the state before a computation of which nothing is to be known. -/
theorem trivial (x : StateM σ α) : Ensures P x (fun _ _ => True) := fun _ _ => True.intro

/-- A fact that does not depend on the state is known before the computation. -/
theorem of_and {x : StateM σ α} {p : Prop} (h : p → Ensures P x Q) :
    Ensures (fun s => p ∧ P s) x Q :=
  fun s hs => h hs.1 s hs.2

/-- One computation after another that did not fail. -/
theorem bindExcept {x : ExceptT ε (StateM σ) α} {f : α → ExceptT ε (StateM σ) β}
    {M : α → σ → Prop} {R : Except ε β → σ → Prop}
    (hx : Ensures P x.run (either M (fun e => R (.error e))))
    (hf : ∀ a, Ensures (M a) (f a).run R) : Ensures P (x >>= f).run R := by
  rw [ExceptT.run_bind]
  refine hx.bind fun result => ?_
  cases result with
  | ok a => exact hf a
  | error e => exact pure fun _ h => h

/-- What comes after a computation of which nothing is to be known, where faults do not matter. -/
theorem bindAny {x : ExceptT ε (StateM σ) α} {f : α → ExceptT ε (StateM σ) β}
    {R : Except ε β → σ → Prop} (hfault : ∀ e s, R (.error e) s)
    (hf : ∀ a, Ensures (fun _ => True) (f a).run R) : Ensures P (x >>= f).run R := by
  refine bindExcept (M := fun _ _ => True) ((trivial x.run).mono fun result s _ => ?_) hf
  cases result with
  | ok a => exact True.intro
  | error e => exact hfault e s

/-- A computation that cannot fail before one that can. -/
theorem bindLift {x : StateM σ α} {f : α → ExceptT ε (StateM σ) β} {R : Except ε β → σ → Prop}
    (hx : Ensures P x Q) (hf : ∀ a, Ensures (Q a) (f a).run R) :
    Ensures P (ExceptT.lift x >>= f).run R :=
  fun s hs => hf _ _ (hx s hs)

end Ensures

end SqlMapper
