import Mathlib.Data.List.Nodup
import SqlMapper.Lifecycle.EventBus

/-!
# Runs of a bus

A bus is used by registering and dropping listeners, by setting its policy and by reading from it
(`BusCall`). After any run of such calls on a fresh bus the identifiers count up along the list of
listeners and stay below the counter (`EventBus.Ordered`, kept by every call), so an identifier
stands for one listener at most. This is what makes dropping exact: a filter on moment and
identifier takes away one listener if it is there (`EventBus.Ordered.unregister_of_mem`) and nothing
otherwise (`EventBus.unregister_of_absent`). What a bus holds after a run is read off the calls
themselves: the listeners that were registered and that no later call drops, in the order of
registration (`lasting`, `EventBus.registrations_after`). The main statement is
`EventBus.holds_after`.
-/

namespace SqlMapper

/-- One call on a bus. -/
inductive BusCall (ℓ : Type) where
  /-- Registers a listener. -/
  | register (kind : EventKind) (listener : ℓ)
  /-- Drops one listener. -/
  | unregister (kind : EventKind) (id : ListenerId)
  /-- Drops all listeners. -/
  | clear
  /-- Sets what the failure of a listener means. -/
  | setPolicy (policy : ErrorPolicy)
  /-- Reads what the failure of a listener means. -/
  | policy
  /-- Counts the listeners for a moment. -/
  | count (kind : EventKind)
  /-- Asks whether there are no listeners. -/
  | isEmpty
  /-- Asks for a description. -/
  | describe

/-- What a call on a bus answers. -/
inductive BusAnswer where
  /-- Nothing. -/
  | done
  /-- The identifier of a listener that was registered. -/
  | registered (id : ListenerId)
  /-- Whether a listener was dropped. -/
  | dropped (some : Bool)
  /-- The policy. -/
  | policy (policy : ErrorPolicy)
  /-- A number of listeners. -/
  | counted (listeners : Nat)
  /-- Whether there are no listeners. -/
  | empty (none : Bool)
  /-- A description. -/
  | described (text : String)
deriving DecidableEq, Inhabited

/-- The identifier in an answer. -/
def BusAnswer.id? : BusAnswer → Option ListenerId
  | .registered id => some id
  | _ => none

namespace BusCall

variable {ℓ : Type}

/-- Whether a call registers a listener. -/
def registers : BusCall ℓ → Bool
  | .register _ _ => true
  | _ => false

/-- Whether a call drops a registration that is there. -/
def drops (r : Registration ℓ) : BusCall ℓ → Bool
  | .unregister kind id => r.isAt kind id
  | .clear => true
  | _ => false

end BusCall

/-- The registrations that calls make and that none of the later calls drops, when the identifiers
are counted from a number on. -/
def lasting {ℓ : Type} (number : Nat) : List (BusCall ℓ) → List (Registration ℓ)
  | [] => []
  | .register kind listener :: rest =>
    let r : Registration ℓ := { kind, id := ⟨number⟩, listener }
    if rest.any (BusCall.drops r) then lasting (number + 1) rest
    else r :: lasting (number + 1) rest
  | _ :: rest => lasting number rest

namespace EventBus

variable {ℓ : Type}

/-- The bus after a call. -/
def next (bus : EventBus ℓ) : BusCall ℓ → EventBus ℓ
  | .register kind listener => bus.register kind listener
  | .unregister kind id => bus.unregister kind id
  | .clear => bus.clear
  | .setPolicy policy => bus.setPolicy policy
  | _ => bus

/-- What a call answers. A listener was dropped if there are fewer than before. -/
def answer (bus : EventBus ℓ) : BusCall ℓ → BusAnswer
  | .register _ _ => .registered bus.nextId
  | .unregister kind id =>
    .dropped ((bus.unregister kind id).registrations.length != bus.registrations.length)
  | .clear => .done
  | .setPolicy _ => .done
  | .policy => .policy bus.policy
  | .count kind => .counted (bus.count kind)
  | .isEmpty => .empty bus.isEmpty
  | .describe => .described bus.description

/-- The bus after a run of calls. -/
def after (bus : EventBus ℓ) (calls : List (BusCall ℓ)) : EventBus ℓ :=
  calls.foldl next bus

/-- The answers to a run of calls, one after another. -/
def answers (bus : EventBus ℓ) : List (BusCall ℓ) → List BusAnswer
  | [] => []
  | call :: rest => bus.answer call :: (bus.next call).answers rest

/-- The identifiers count up along the list of listeners and stay below the counter. -/
structure Ordered (bus : EventBus ℓ) : Prop where
  below : ∀ r ∈ bus.registrations, r.id.number < bus.nextNumber
  increasing : bus.registrations.Pairwise fun r r' => r.id.number < r'.id.number

/-- A fresh bus has no listeners. -/
theorem ordered_empty : ({} : EventBus ℓ).Ordered where
  below := by simp
  increasing := List.Pairwise.nil

/-- Fewer listeners are ordered if all are. -/
theorem Ordered.sublist {bus : EventBus ℓ} (h : bus.Ordered) {rs : List (Registration ℓ)}
    (hrs : rs.Sublist bus.registrations) :
    ({ bus with registrations := rs } : EventBus ℓ).Ordered where
  below r hr := h.below r (hrs.subset hr)
  increasing := h.increasing.sublist hrs

/-- Every call keeps a bus ordered. -/
theorem Ordered.next {bus : EventBus ℓ} (h : bus.Ordered) (call : BusCall ℓ) :
    (bus.next call).Ordered := by
  cases call with
  | register kind listener =>
    constructor
    · intro r hr
      have counted : (bus.register kind listener).nextNumber = bus.nextNumber + 1 := rfl
      show r.id.number < (bus.register kind listener).nextNumber
      rw [counted]
      rcases List.mem_append.1 hr with hr | hr
      · have := h.below r hr
        omega
      · obtain rfl := List.mem_singleton.1 hr
        exact Nat.lt_succ_self bus.nextNumber
    · refine List.pairwise_append.2 ⟨h.increasing, List.pairwise_singleton _ _, ?_⟩
      intro r hr r' hr'
      obtain rfl := List.mem_singleton.1 hr'
      exact h.below r hr
  | unregister kind id => exact h.sublist List.filter_sublist
  | clear => exact h.sublist (List.nil_sublist _)
  | setPolicy policy => exact ⟨h.below, h.increasing⟩
  | policy | count | isEmpty | describe => exact h

/-- A run of calls keeps a bus ordered. -/
theorem Ordered.after {bus : EventBus ℓ} (h : bus.Ordered) (calls : List (BusCall ℓ)) :
    (bus.after calls).Ordered := by
  induction calls generalizing bus with
  | nil => exact h
  | cons call rest ih => exact ih (h.next call)

/-- There are fewer listeners than before exactly if the one to be dropped was there. -/
theorem answer_unregister (bus : EventBus ℓ) (kind : EventKind) (id : ListenerId) :
    bus.answer (.unregister kind id) = .dropped (bus.isRegistered kind id) := by
  rw [answer, isRegistered, unregister]
  cases here : bus.registrations.any (fun r => r.isAt kind id) with
  | true =>
    obtain ⟨r, hr, hat⟩ := List.any_eq_true.1 here
    have fewer : (bus.registrations.filter fun r => !r.isAt kind id).length <
        bus.registrations.length :=
      List.length_filter_lt_length_iff_exists.2 ⟨r, hr, by simp [hat]⟩
    rw [bne_iff_ne.2 (Nat.ne_of_lt fewer)]
  | false =>
    have all : (bus.registrations.filter fun r => !r.isAt kind id) = bus.registrations :=
      List.filter_eq_self.2 fun r hr => by simp [List.any_eq_false.1 here r hr]
    rw [all, bne_self_eq_false]

/-- The other listeners of an ordered bus have other identifiers. -/
theorem Ordered.split {bus : EventBus ℓ} (h : bus.Ordered) {r : Registration ℓ}
    (hr : r ∈ bus.registrations) : ∃ before after, bus.registrations = before ++ r :: after ∧
      ∀ other ∈ before ++ after, other.id ≠ r.id := by
  obtain ⟨before, after, hsplit⟩ := List.append_of_mem hr
  refine ⟨before, after, hsplit, fun other hother hid => ?_⟩
  have increasing := h.increasing
  rw [hsplit, List.pairwise_append, List.pairwise_cons] at increasing
  obtain ⟨-, ⟨above, -⟩, below⟩ := increasing
  have same : other.id.number = r.id.number := congrArg ListenerId.number hid
  rcases List.mem_append.1 hother with hother | hother
  · have := below other hother r List.mem_cons_self
    omega
  · have := above other hother
    omega

/-- An identifier stands for one listener at most. -/
theorem Ordered.eq_of_id {bus : EventBus ℓ} (h : bus.Ordered) {r r' : Registration ℓ}
    (hr : r ∈ bus.registrations) (hr' : r' ∈ bus.registrations) (hid : r.id = r'.id) : r = r' := by
  obtain ⟨before, after, hsplit, others⟩ := h.split hr'
  rw [hsplit, List.mem_append, List.mem_cons] at hr
  rcases hr with hr | rfl | hr
  · exact absurd hid (others r (List.mem_append_left _ hr))
  · rfl
  · exact absurd hid (others r (List.mem_append_right _ hr))

/-- Dropping a listener that is there takes that listener away and nothing else. -/
theorem Ordered.unregister_of_mem {bus : EventBus ℓ} (h : bus.Ordered) {r : Registration ℓ}
    (hr : r ∈ bus.registrations) : ∃ before after, bus.registrations = before ++ r :: after ∧
      bus.unregister r.kind r.id = { bus with registrations := before ++ after } ∧
      bus.answer (.unregister r.kind r.id) = .dropped true := by
  obtain ⟨before, after, hsplit, others⟩ := h.split hr
  have kept : bus.registrations.filter (fun other => !other.isAt r.kind r.id) =
      before ++ after := by
    have here : (!r.isAt r.kind r.id) = false := by simp [Registration.isAt]
    have all : ∀ other ∈ before ++ after, (!other.isAt r.kind r.id) = true := by
      intro other hother
      simp [Registration.isAt, others other hother]
    rw [hsplit, List.filter_append, List.filter_cons, here, if_neg Bool.false_ne_true,
      ← List.filter_append, List.filter_eq_self.2 all]
  refine ⟨before, after, hsplit, by rw [unregister, kept], ?_⟩
  have here : bus.isRegistered r.kind r.id = true :=
    List.any_eq_true.2 ⟨r, hr, by simp [Registration.isAt]⟩
  rw [answer_unregister, here]

/-- Dropping a listener that is not there changes nothing. -/
theorem unregister_of_absent {bus : EventBus ℓ} {kind : EventKind} {id : ListenerId}
    (h : ∀ r ∈ bus.registrations, ¬(r.kind = kind ∧ r.id = id)) :
    bus.unregister kind id = bus ∧ bus.answer (.unregister kind id) = .dropped false := by
  have absent : ∀ r ∈ bus.registrations, r.isAt kind id = false := by
    intro r hr
    have apart := h r hr
    rw [Registration.isAt, Bool.and_eq_false_iff, decide_eq_false_iff_not, decide_eq_false_iff_not]
    exact Decidable.not_and_iff_or_not.1 apart
  constructor
  · have kept : bus.registrations.filter (fun r => !r.isAt kind id) = bus.registrations :=
      List.filter_eq_self.2 fun r hr => by rw [absent r hr, Bool.not_false]
    rw [unregister, kept]
  · have missing : bus.isRegistered kind id = false :=
      List.any_eq_false.2 fun r hr => by rw [absent r hr]; exact Bool.false_ne_true
    rw [answer_unregister, missing]

/-- A run counts the listeners that it registers. -/
theorem nextNumber_after (bus : EventBus ℓ) (calls : List (BusCall ℓ)) :
    (bus.after calls).nextNumber = bus.nextNumber + calls.countP BusCall.registers := by
  induction calls generalizing bus with
  | nil => rfl
  | cons call rest ih =>
    have others := ih (bus.next call)
    have first : (bus.next call).nextNumber =
        bus.nextNumber + if call.registers then 1 else 0 := by
      cases call <;> rfl
    rw [first] at others
    rw [List.countP_cons]
    show ((bus.next call).after rest).nextNumber = _
    omega

/-- The identifiers that a run gives out are consecutive. -/
theorem issued_eq (bus : EventBus ℓ) (calls : List (BusCall ℓ)) :
    (bus.answers calls).filterMap BusAnswer.id? =
      (List.range' bus.nextNumber (calls.countP BusCall.registers)).map ListenerId.mk := by
  induction calls generalizing bus with
  | nil => rfl
  | cons call rest ih =>
    have others := ih (bus.next call)
    cases call with
    | register kind listener =>
      rw [List.countP_cons_of_pos rfl, List.range'_succ, List.map_cons]
      exact congrArg (bus.nextId :: ·) others
    | unregister | clear | setPolicy | policy | count | isEmpty | describe => exact others

/-- **What a bus holds is what was registered and not dropped since.** After a run these are, of the
listeners that were there, those that no call drops, and then those that the run itself registers
and does not drop later. The induction is on the run; what the first call registers is dropped or
not by the calls after it. -/
theorem registrations_after (bus : EventBus ℓ) (calls : List (BusCall ℓ)) :
    (bus.after calls).registrations =
      bus.registrations.filter (fun r => !calls.any (BusCall.drops r)) ++
        lasting bus.nextNumber calls := by
  induction calls generalizing bus with
  | nil => simp [after, lasting]
  | cons call rest ih =>
    have others := ih (bus.next call)
    show ((bus.next call).after rest).registrations = _
    rw [others]
    cases call with
    | register kind listener =>
      have untouched : ∀ r : Registration ℓ,
          (BusCall.register kind listener :: rest).any (BusCall.drops r) =
            rest.any (BusCall.drops r) := fun r => Bool.false_or _
      simp only [untouched, next, register, nextId, List.filter_append, List.append_assoc, lasting,
        List.filter_cons, List.filter_nil]
      cases rest.any (BusCall.drops { kind, id := ⟨bus.nextNumber⟩, listener }) <;> rfl
    | unregister kind id =>
      have dropped : ∀ r : Registration ℓ,
          (!(BusCall.unregister kind id :: rest).any (BusCall.drops r)) =
            (!rest.any (BusCall.drops r) && !r.isAt kind id) := by
        intro r
        rw [List.any_cons, Bool.not_or, Bool.and_comm]
        rfl
      simp only [dropped, next, unregister, List.filter_filter, lasting]
    | clear => simp [next, clear, lasting, BusCall.drops]
    | setPolicy policy => simp [next, setPolicy, lasting, BusCall.drops]
    | policy | count | isEmpty | describe => simp [next, lasting, BusCall.drops]

/-- **The registry of a bus is exact.** After every run of calls on a fresh bus that registers fewer
than `2 ^ 64` listeners: the counter has not left the 64-bit words, and the identifiers given out,
as such words, are pairwise different; the identifiers on the bus are below the counter and count up
along the list; the listeners for each moment are those that the run registered for it and that no
later call dropped, in the order of registration. Dropping a listener that is there takes away that
one alone and says so; dropping under a moment and an identifier for which none is there, such as
the identifier of a listener for another moment, changes nothing and says so. -/
theorem holds_after (calls : List (BusCall ℓ))
    (bounded : calls.countP BusCall.registers < Nat.pow 2 64) :
    let bus := ({} : EventBus ℓ).after calls
    bus.nextNumber < Nat.pow 2 64 ∧
      ((({} : EventBus ℓ).answers calls).filterMap BusAnswer.id?
        |>.map fun id => UInt64.ofNat id.number).Nodup ∧
      bus.Ordered ∧
      (∀ kind, bus.registeredFor kind = (lasting 0 calls).filter fun r => decide (r.kind = kind)) ∧
      (∀ r ∈ bus.registrations, ∃ before after, bus.registrations = before ++ r :: after ∧
        bus.unregister r.kind r.id = { bus with registrations := before ++ after } ∧
        bus.answer (.unregister r.kind r.id) = .dropped true) ∧
      (∀ kind id, (∀ r ∈ bus.registrations, ¬(r.kind = kind ∧ r.id = id)) →
        bus.unregister kind id = bus ∧ bus.answer (.unregister kind id) = .dropped false) ∧
      ∀ r ∈ bus.registrations, ∀ kind, kind ≠ r.kind →
        bus.unregister kind r.id = bus ∧ bus.answer (.unregister kind r.id) = .dropped false := by
  intro bus
  have ordered : bus.Ordered := ordered_empty.after calls
  have counted : bus.nextNumber = calls.countP BusCall.registers := by
    rw [nextNumber_after, Nat.zero_add]
  refine ⟨counted ▸ bounded, ?_, ordered, fun kind => ?_, fun r hr => ordered.unregister_of_mem hr,
    fun kind id => unregister_of_absent, fun r hr kind hkind => ?_⟩
  · rw [issued_eq, List.map_map]
    refine List.Nodup.map_on (fun n hn n' hn' hwords => ?_) List.nodup_range'
    have small : ∀ m ∈ List.range' ({} : EventBus ℓ).nextNumber (calls.countP BusCall.registers),
        (UInt64.ofNat m).toNat = m := by
      intro m hm
      have below := (List.mem_range'_1.1 hm).2
      rw [show ({} : EventBus ℓ).nextNumber = 0 from rfl, Nat.zero_add] at below
      exact UInt64.toNat_ofNat_of_lt' (Nat.lt_trans below bounded)
    rw [← small n hn, ← small n' hn']
    exact congrArg UInt64.toNat hwords
  · rw [registeredFor, registrations_after]
    rfl
  · refine unregister_of_absent fun other hother hat => hkind ?_
    rw [← hat.1, ordered.eq_of_id hother hr hat.2]

/-- A run in which a listener is not dropped under a moment that is not its own, all are dropped,
and of two that are registered after that one is dropped. -/
def mixedRun : List (BusCall String) :=
  [.register .preDelete "a", .register .preSelect "b", .unregister .preSelect ⟨0⟩,
    .count .preDelete, .clear, .register .preDelete "c", .register .preDelete "d",
    .unregister .preDelete ⟨2⟩, .setPolicy .shortCircuit]

/-- After this run one listener is left. Its identifier was counted on over the clearing, and it is
not dropped under another moment. -/
theorem holds_mixedRun :
    mixedRun.countP BusCall.registers < Nat.pow 2 64 ∧
      (({} : EventBus String).after mixedRun).registeredFor .preDelete =
        [{ kind := .preDelete, id := ⟨3⟩, listener := "d" }] ∧
      (({} : EventBus String).after mixedRun).answer (.unregister .preUpdate ⟨3⟩) =
        .dropped false := by
  have bounded : mixedRun.countP BusCall.registers < Nat.pow 2 64 := by decide
  obtain ⟨-, -, -, held, -, -, others⟩ := holds_after mixedRun bounded
  refine ⟨bounded, (held .preDelete).trans rfl, ?_⟩
  exact (others { kind := .preDelete, id := ⟨3⟩, listener := "d" } (List.mem_singleton.2 rfl)
    .preUpdate (by decide)).2

end EventBus

end SqlMapper
