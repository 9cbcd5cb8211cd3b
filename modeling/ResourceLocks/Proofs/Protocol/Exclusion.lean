import ResourceLocks.Proofs.Protocol.Run
import ResourceLocks.Proofs.Protocol.Verdict

/-!
# Exclusion

What holding a half is good for, in every reachable state:

* **Writers exclude writers** (`State.Reachable.writers_disjoint`): two write halves of one registry
  that are held, by whomever, have no resource in common.
* **Writers exclude readers** (`State.Reachable.writers_exclude_readers`): no more have a write half
  and a read half that are held; and when a write acquisition reports success, nobody has a shared
  hold on any of its resources, not even the thread itself.

Both follow from what is on record (`State.Invariant`): a resource has one claim, and from the
moment a writer finds its resources without holders until it releases them, they have none.
-/

namespace ResourceLocks.Protocol.State

variable {b : Backing} {K : Type} [Key K] {L : Layout K} {s : State b K}

/-- A write half that is held, or about to be joined, and a read half on record have no resource in
common. -/
theorem Invariant.disjoint_of_hasDrained (inv : s.Invariant L) {w r : Half} {t u : ThreadId}
    (write : w.kind = .write) (read : r.kind = .read) (registry : L.registry w = L.registry r)
    (drained : s.HasDrained w t) (rec : s.OnRecord r u) :
    (L.resources w).Disjoint (L.resources r) := by
  intro x hw hr
  have hzero := inv.drained w t write drained x hw u
  have hpos := inv.holdCount_pos ⟨read, registry.symm, hr⟩ rec
  omega

/-- **Writers exclude writers.** Two write halves of one registry that are held have no resource in
common, unless they are one half held by one thread. -/
theorem Reachable.writers_disjoint (reachable : Reachable L s) {h₁ h₂ : Half} {t₁ t₂ : ThreadId}
    (write₁ : h₁.kind = .write) (write₂ : h₂.kind = .write)
    (registry : L.registry h₁ = L.registry h₂) (held₁ : s.IsHeldBy h₁ t₁)
    (held₂ : s.IsHeldBy h₂ t₂) (different : (t₁, h₁) ≠ (t₂, h₂)) :
    (L.resources h₁).Disjoint (L.resources h₂) := by
  intro x hx₁ hx₂
  have inv := reachable.invariant
  obtain ⟨rfl, rfl⟩ := inv.unique (L.registry h₁) x h₁ h₂ t₁ t₂ ⟨write₁, rfl, hx₁⟩
    ⟨write₂, registry.symm, hx₂⟩ (.inl held₁) (.inl held₂)
  exact different rfl

/-- A run in which two threads acquire the write halves of two locks without common resources. -/
def twoWriters : List (Action Nat) :=
  Action.follow 0 (.acquire ⟨0, .write⟩ { manner := .lock }) 14
    ++ Action.follow 1 (.acquire ⟨2, .write⟩ { manner := .tryLock }) 14

/-- Two writers side by side over different resources. -/
theorem writers_disjoint_twoWriters :
    (finish .threeLocks twoWriters : State .hash Nat).IsHeldBy ⟨0, .write⟩ 0 ∧
      (finish .threeLocks twoWriters : State .hash Nat).IsHeldBy ⟨2, .write⟩ 1 ∧
      (Layout.threeLocks.resources ⟨0, .write⟩).Disjoint
        (Layout.threeLocks.resources ⟨2, .write⟩) := by
  have held₁ : (finish .threeLocks twoWriters : State .hash Nat).IsHeldBy ⟨0, .write⟩ 0 := by
    decide +kernel
  have held₂ : (finish .threeLocks twoWriters : State .hash Nat).IsHeldBy ⟨2, .write⟩ 1 := by
    decide +kernel
  exact ⟨held₁, held₂,
    (reachable_finish twoWriters).writers_disjoint rfl rfl (by decide) held₁ held₂ (by decide)⟩

/-- **Writers exclude readers.** A write half and a read half of one registry that are held, be it
by one thread, have no resource in common. When a write acquisition reports success, there is no
shared hold on any of its resources. -/
theorem Reachable.writers_exclude_readers (reachable : Reachable L s) :
    (∀ (w r : Half) (t u : ThreadId), w.kind = .write → r.kind = .read →
      L.registry w = L.registry r → s.IsHeldBy w t → s.IsHeldBy r u →
      (L.resources w).Disjoint (L.resources r)) ∧
    (∀ (α : Action K) (s' : State b K) (t : ThreadId) (a : Acquisition) (stage : AcquireStage)
      (reply : Reply), s.next? L α = some s' → s.activity t = .acquiring a stage →
      s'.activity t = .ready (some reply) → a.half.kind = .write → reply.grants = true →
      ∀ x ∈ L.resources a.half, ∀ u, s'.holdCount (L.registry a.half) x u = 0) := by
  have inv := reachable.invariant
  constructor
  · intro w r t u write read registry heldw heldr
    exact inv.disjoint_of_hasDrained write read registry (.inl heldw) (.inl heldr)
  · intro α s' t a stage reply next acquiring returned write grants x hx u
    have inv' := (reachable.next α next).invariant
    have candid := reachable.candid t
    have joined := inv.joined a.half t
    rw [acquiring] at candid joined
    obtain ⟨stage', hA, -⟩ | ⟨-, -, hA⟩ | ⟨v, rfl, hA, hs'⟩ := next?_of_acquiring next acquiring
    · rw [hA] at returned
      cases returned
    · rw [hA] at returned
      cases returned
      cases grants
    · rw [hA] at returned
      cases returned
      obtain rfl := candid.grants_reply.1 grants
      have held : s'.IsHeldBy a.half t := by
        rw [hs', isHeldBy_after, Effect.isHeldBy_apply]
        exact joined rfl
      exact inv'.drained a.half t write (.inl held) x hx u

/-- A run in which one thread holds a read half, and another one has joined the hold set of the
write half of another lock and is about to return. -/
def readerAndWriter : List (Action Nat) :=
  Action.follow 0 (.acquire ⟨0, .read⟩ { manner := .lockInterruptibly }) 13
    ++ Action.follow 1 (.acquire ⟨2, .write⟩ { manner := .tryLock, guarded := true }) 13

/-- A reader and a writer side by side over different resources. -/
theorem writers_exclude_readers_readerAndWriter :
    (finish .threeLocks readerAndWriter : State .hash Nat).IsHeldBy ⟨0, .read⟩ 0 ∧
      (finish .threeLocks readerAndWriter : State .hash Nat).IsHeldBy ⟨2, .write⟩ 1 ∧
      (Layout.threeLocks.resources ⟨2, .write⟩).Disjoint
        (Layout.threeLocks.resources ⟨0, .read⟩) ∧
      (finish .threeLocks (readerAndWriter ++ [.step 1]) : State .hash Nat).activity 1 =
        .ready (some .guard) ∧
      ∀ u, (finish .threeLocks (readerAndWriter ++ [.step 1]) :
        State .hash Nat).holdCount 0 4 u = 0 := by
  have held₀ : (finish .threeLocks readerAndWriter : State .hash Nat).IsHeldBy ⟨0, .read⟩ 0 := by
    decide +kernel
  have held₁ : (finish .threeLocks readerAndWriter : State .hash Nat).IsHeldBy ⟨2, .write⟩ 1 := by
    decide +kernel
  have last : (finish .threeLocks readerAndWriter : State .hash Nat).next? .threeLocks (.step 1) =
      some (finish .threeLocks (readerAndWriter ++ [.step 1])) := by
    decide +kernel
  have acquiring : (finish .threeLocks readerAndWriter : State .hash Nat).activity 1 =
      .acquiring ⟨⟨2, .write⟩, { manner := .tryLock, guarded := true }, .immediate⟩
        (.concluding .acquired) := by
    decide +kernel
  have returned : (finish .threeLocks (readerAndWriter ++ [.step 1]) :
      State .hash Nat).activity 1 = .ready (some .guard) := by
    decide +kernel
  obtain ⟨disjoint, undisturbed⟩ :=
    (reachable_finish (b := .hash) (L := .threeLocks) readerAndWriter).writers_exclude_readers
  refine ⟨held₀, held₁, ?_, returned, ?_⟩
  · exact disjoint _ _ _ _ rfl rfl (by decide) held₁ held₀
  · exact undisturbed _ _ _ _ _ _ last acquiring returned rfl rfl 4 (by decide)

end ResourceLocks.Protocol.State
