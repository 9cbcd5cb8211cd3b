import ResourceLocks.Proofs.Protocol.Invariant

/-!
# Runs

A **run** is a list of actions that happen one after the other (`State.run?`). A state is reachable
exactly when a run leads to it from the start (`State.reachable_iff`). So what follows the protocol
can be replayed as a run, and for concrete runs there is `State.reachable_finish`.

`State.run?_induction` is how a fact about the states of one run is proved: it holds before, and
every action of the run keeps it. `State.run?_snoc_induction` is the same for facts that depend on
what has happened. `State.Calling` is a run that starts with a call of one thread.
`Layout.threeLocks` is a small program for concrete runs.
-/

namespace ResourceLocks.Protocol

variable {b : Backing} {K : Type} [Key K]

namespace State

/-- The state after a list of actions, or `none` if one of them cannot happen. -/
def run? (L : Layout K) (s : State b K) : List (Action K) → Option (State b K)
  | [] => some s
  | α :: αs => (s.next? L α).bind fun s' => run? L s' αs

variable {L : Layout K} {s s' : State b K}

/-- A run begins with its first action. -/
theorem run?_cons_eq_some {α : Action K} {αs : List (Action K)} :
    s.run? L (α :: αs) = some s' ↔ ∃ u, s.next? L α = some u ∧ u.run? L αs = some s' :=
  Option.bind_eq_some_iff

/-- Runs can be put one behind the other. -/
theorem run?_append (αs βs : List (Action K)) :
    s.run? L (αs ++ βs) = (s.run? L αs).bind fun u => u.run? L βs := by
  induction αs generalizing s with
  | nil => rfl
  | cons α αs ih =>
    simp only [List.cons_append, run?]
    rw [Option.bind_assoc]
    exact congrArg _ (funext fun u => ih)

/-- A run from a reachable state leads to reachable states. -/
theorem Reachable.run {αs : List (Action K)} (reachable : Reachable L s)
    (run : s.run? L αs = some s') : Reachable L s' := by
  induction αs generalizing s with
  | nil =>
    cases run
    exact reachable
  | cons α αs ih =>
    obtain ⟨u, next, rest⟩ := run?_cons_eq_some.1 run
    exact ih (reachable.next α next) rest

/-- **Reachable states** are those to which a run leads from the start. -/
theorem reachable_iff : Reachable L s ↔ ∃ αs, initial.run? L αs = some s := by
  constructor
  · intro reachable
    induction reachable with
    | initial => exact ⟨[], rfl⟩
    | next α _ next ih =>
      obtain ⟨αs, run⟩ := ih
      refine ⟨αs ++ [α], ?_⟩
      rw [run?_append, run]
      simp [run?, next]
  · rintro ⟨αs, run⟩
    exact Reachable.initial.run run

/-- **Induction along a run**: what holds before it and is kept by each of its actions holds after
it. -/
theorem run?_induction {P : State b K → Prop} {αs : List (Action K)} (start : P s)
    (next : ∀ αs₁ α αs₂ u v, αs = αs₁ ++ α :: αs₂ → s.run? L αs₁ = some u →
      u.next? L α = some v → v.run? L αs₂ = some s' → P u → P v)
    (run : s.run? L αs = some s') : P s' := by
  induction αs generalizing s with
  | nil =>
    cases run
    exact start
  | cons α αs ih =>
    obtain ⟨u, first, rest⟩ := run?_cons_eq_some.1 run
    refine ih (next [] α αs s u rfl rfl first rest start) ?_ rest
    intro αs₁ β αs₂ v w split before step after hv
    refine next (α :: αs₁) β αs₂ v w (by rw [split, List.cons_append]) ?_ step after hv
    exact run?_cons_eq_some.2 ⟨u, first, before⟩

/-- A run ends with its last action. -/
theorem run?_concat_eq_some {αs : List (Action K)} {α : Action K} :
    s.run? L (αs ++ [α]) = some s' ↔ ∃ u, s.run? L αs = some u ∧ u.next? L α = some s' := by
  rw [run?_append, Option.bind_eq_some_iff]
  simp [run?]

/-- **Induction along a run, for facts that depend on what has happened.** -/
theorem run?_snoc_induction {P : List (Action K) → State b K → Prop} {αs : List (Action K)}
    (start : P [] s)
    (next : ∀ αs α u v, s.run? L αs = some u → u.next? L α = some v → P αs u → P (αs ++ [α]) v)
    (run : s.run? L αs = some s') : P αs s' := by
  induction αs using List.reverseRecOn generalizing s' with
  | nil =>
    cases run
    exact start
  | append_singleton αs α ih =>
    obtain ⟨u, before, step⟩ := run?_concat_eq_some.1 run
    exact next αs α u s' before step (ih before)

/-! ## Actions as one thread sees them -/

/-- What is no turn writes nothing to the log. -/
theorem log_of_turnOf?_eq_none {α : Action K} (next : s.next? L α = some s')
    (noturn : α.turnOf? = none) : s'.log = s.log := by
  cases α with
  | interrupt w | pass nanos =>
    cases next
    rfl
  | clearFlag w =>
    simp only [next?] at next
    split at next <;> cases next
    rfl
  | _ => cases noturn

/-- What happens is no turn of the thread: it stays in its activity, but for a notification, and in
its hold sets, and writes nothing to the log. -/
structure Bystands (s : State b K) (t : ThreadId) (α : Action K) (s' : State b K) : Prop where
  /-- The action is no turn of the thread. -/
  other : α.turnOf? ≠ some t
  /-- The thread does what it did. -/
  alike : (s.activity t).Alike (s'.activity t)
  /-- The thread holds what it held. -/
  held : ∀ h, s'.IsHeldBy h t ↔ s.IsHeldBy h t
  /-- The thread has logged what it had logged. -/
  log : s'.logOf t = s.logOf t

/-- What a bystander does is no step of the thread. -/
theorem Bystands.count_step {t : ThreadId} {α : Action K} (bystands : s.Bystands t α s')
    (αs : List (Action K)) : (αs ++ [α]).count (.step t) = αs.count (.step t) := by
  have hα : α ≠ .step t := by
    rintro rfl
    exact bystands.other rfl
  simp [List.count_append, hα]

/-- **An action is a turn of the thread, or the thread stands by.** -/
theorem turn_or_bystands {α : Action K} (next : s.next? L α = some s') (t : ThreadId) :
    (∃ e A', α.turnOf? = some t ∧ (α = .step t ∨ e = .nothing) ∧
      s.Turn L t (s.activity t) e A' ∧ s' = s.after L t e A') ∨ s.Bystands t α s' := by
  obtain ⟨w, e, A', hw, step, turn, rfl⟩ | ⟨hnone, same⟩ := next?_cases next
  · by_cases ht : t = w
    · subst ht
      exact .inl ⟨e, A', hw, step, turn, rfl⟩
    · refine .inr ⟨?_, alike_after L s e A' ht, fun h => isHeldBy_after_of_ne L s e A' h ht, ?_⟩
      · rw [hw]
        rintro ⟨⟩
        exact ht rfl
      · rw [logOf_after, if_neg ht]
  · refine .inr ⟨by rw [hnone]; exact nofun, by rw [same.activity]; exact .refl _, ?_, ?_⟩
    · intro h
      rw [IsHeldBy, IsHeldBy, same.holds]
    · rw [logOf, logOf, log_of_turnOf?_eq_none next hnone]

/-! ## Calls in a run -/

/-- A call is made by a thread that is doing nothing, and touches nothing that threads share. -/
theorem next?_call {t : ThreadId} {c : Call K} (next : s.next? L (.call t c) = some s') :
    ∃ last, s.activity t = .ready last ∧ s' = s.after L t .nothing (c.start s.now) := by
  simp only [next?] at next
  split at next
  · rename_i last ready
    cases next
    exact ⟨last, ready, rfl⟩
  · cases next

/-- A call of a thread, and what happens after it, the thread making no other call. -/
structure Calling (L : Layout K) (s : State b K) (t : ThreadId) (c : Call K)
    (αs : List (Action K)) (s' : State b K) : Prop where
  /-- The call is made in a reachable state. -/
  reachable : Reachable L s
  /-- The run goes on with the actions of all threads. -/
  run : s.run? L (.call t c :: αs) = some s'
  /-- The thread makes no other call. -/
  single : ∀ c', .call t c' ∉ αs

namespace Calling

variable {t : ThreadId} {c : Call K} {αs αs₁ αs₂ : List (Action K)} {u : State b K}

/-- The run starts with the call. -/
theorem start (calling : s.Calling L t c αs s') :
    ∃ last s₁, s.activity t = .ready last ∧ s₁ = s.after L t .nothing (c.start s.now) ∧
      s.next? L (.call t c) = some s₁ ∧ s₁.run? L αs = some s' := by
  obtain ⟨s₁, first, rest⟩ := run?_cons_eq_some.1 calling.run
  obtain ⟨last, ready, rfl⟩ := next?_call first
  exact ⟨last, _, ready, rfl, first, rest⟩

/-- The call and a part of what happens after it. -/
theorem take (calling : s.Calling L t c αs s') (split : αs = αs₁ ++ αs₂)
    (run : s.run? L (.call t c :: αs₁) = some u) : s.Calling L t c αs₁ u where
  reachable := calling.reachable
  run := run
  single c' hc := calling.single c' (by simp [split, hc])

/-- The states after the call are reachable. -/
theorem reachable' (calling : s.Calling L t c αs s') : Reachable L s' :=
  calling.reachable.run calling.run

/-- **Induction along a call**: what holds when the call has been made and is kept by everything
that is no call of the thread holds after it. -/
theorem induction {P : List (Action K) → State b K → Prop} (calling : s.Calling L t c αs s')
    (start : P [] (s.after L t .nothing (c.start s.now)))
    (next : ∀ αs α u v, s.Calling L t c αs u → u.next? L α = some v → (∀ c', α ≠ .call t c') →
      P αs u → P (αs ++ [α]) v) : P αs s' := by
  obtain ⟨last, s₁, -, hs₁, first, rest⟩ := calling.start
  refine run?_snoc_induction (P := fun αs u => (∀ c', .call t c' ∉ αs) → P αs u)
    (fun _ => hs₁ ▸ start) ?_ rest calling.single
  intro αs α u v before step ih single
  have before' : s.Calling L t c αs u :=
    { reachable := calling.reachable
      run := run?_cons_eq_some.2 ⟨s₁, first, before⟩
      single := fun c' hc => single c' (by simp [hc]) }
  refine next αs α u v before' step ?_ (ih before'.single)
  rintro c' rfl
  exact single c' (by simp)

end Calling

/-! ## The end of a run from the start -/

/-- The last state of a run from the start; the start if something in it cannot happen. -/
def finish (L : Layout K) (αs : List (Action K)) : State b K := (initial.run? L αs).getD initial

/-- The state at the end of a list of actions is reachable. -/
theorem reachable_finish (αs : List (Action K)) : Reachable L (finish L αs : State b K) := by
  unfold finish
  cases hrun : (initial : State b K).run? L αs with
  | none => exact .initial
  | some s => exact Reachable.initial.run hrun

end State

/-! ## A small program -/

/-- Three locks of one registry, the first two of which have a resource in common. -/
def Layout.threeLocks : Layout Nat where
  locks :=
    ((Table.const ⟨0, .empty⟩).set 0 ⟨0, .ofList .hash [1, 2]⟩
      |>.set 1 ⟨0, .ofList .hash [2, 3]⟩).set 2 ⟨0, .ofList .hash [4]⟩

/-- A call of a thread and a number of its steps. -/
def Action.follow (t : ThreadId) (c : Call K) (n : Nat) : List (Action K) :=
  .call t c :: List.replicate n (.step t)

end ResourceLocks.Protocol
