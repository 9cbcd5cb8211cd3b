import ResourceLocks.Proofs.Protocol.Release

/-!
# What a guard releases

A guard remembers its half and nothing else. To drop it is to release the half for the thread, just
as any other release does, whichever acquisition it is by which the thread holds the half then
(`State.Acquires.releasesCurrent`).

* An acquisition is **in force** as long as the thread holds the half without interruption
  (`State.HoldsThroughout`). A thread that holds a half after some time holds it by one acquisition:
  the one it started with, if that is in force still, or else a later one (`State.heldBy_cases`,
  `State.HoldsThroughout.not_reacquires`).
* So a guard is not spent when its acquisition has been released directly. It ends the next
  acquisition of its half by the same thread (`State.not_releasesOwn_lockedAgain`).
-/

namespace ResourceLocks.Protocol

variable {b : Backing} {K : Type} [Key K]

namespace State

variable {L : Layout K} {s s₁ s' u v : State b K} {t : ThreadId} {h : Half} {α : Action K}
  {αs βs : List (Action K)} {r : Release}

/-! ### Acquisitions in force -/

/-- A call of a thread to acquire a half returns, and the half is acquired. -/
structure Acquires (L : Layout K) (s : State b K) (t : ThreadId) (a : Acquisition)
    (s' : State b K) : Prop where
  /-- The state is reachable. -/
  reachable : Reachable L s
  /-- The acquisition is about to return. -/
  concluding : s.activity t = .acquiring a (.concluding .acquired)
  /-- It returns. -/
  step : s.next? L (.step t) = some s'

/-- A thread holds a half at all times of a run. What it holds at the start it then still holds by
the same acquisition. -/
def HoldsThroughout (L : Layout K) (s : State b K) (t : ThreadId) (h : Half)
    (αs : List (Action K)) : Prop :=
  ∀ αs₁ αs₂ u, αs = αs₁ ++ αs₂ → s.run? L αs₁ = some u → u.IsHeldBy h t

/-- In a run an acquisition of a half returns that is in force at the end of the run. -/
def Reacquires (L : Layout K) (s : State b K) (t : ThreadId) (h : Half) (αs : List (Action K)) :
    Prop :=
  ∃ αs₁ αs₂ u a v, αs = αs₁ ++ .step t :: αs₂ ∧ s.run? L αs₁ = some u ∧ a.half = h ∧
    u.Acquires L t a v ∧ v.HoldsThroughout L t h αs₂

variable {a : Acquisition}

omit [Key K] in
/-- Who has joined a hold set is about to return from the acquisition. -/
theorem eq_concluding_of_joined? {A : Activity K} (joined : A.joined? = some h) :
    ∃ a, A = .acquiring a (.concluding .acquired) ∧ a.half = h := by
  unfold Activity.joined? at joined
  split at joined
  · rename_i a
    exact ⟨a, rfl, Option.some.inj joined⟩
  · cases joined

/-- Who joins a hold set is about to return from the acquisition then. -/
theorem Turn.joined?_of_join {A A' : Activity K} (turn : s.Turn L t A (.join h) A') :
    A'.joined? = some h := by
  generalize he : Effect.join h = e at turn
  cases turn with
  | acquire turn =>
    cases turn with
    | join =>
      cases he
      rfl
    | conclude v => cases v <;> cases he
    | _ => cases he
  | release turn => cases turn <;> cases he
  | ask turn => cases turn <;> cases he
  | _ => cases he

/-- The step with which an acquisition returns. -/
theorem Acquires.eq_after (acquires : s.Acquires L t a s') :
    s' = s.after L t (.conclude a.half .acquired) (.ready (some (a.reply .acquired))) := by
  obtain ⟨e, A', turn, rfl⟩ := turn_of_step acquires.step
  rw [acquires.concluding] at turn
  cases turn with
  | acquire turn =>
    cases turn with
    | conclude v => rfl

/-- What is acquired is held. -/
theorem Acquires.isHeldBy (acquires : s.Acquires L t a s') : s'.IsHeldBy a.half t := by
  have joined : (s.activity t).joined? = some a.half := by
    rw [acquires.concluding]
    rfl
  have held := acquires.reachable.invariant.joined a.half t joined
  rw [acquires.eq_after, isHeldBy_after, Effect.isHeldBy_apply]
  exact held

namespace HoldsThroughout

/-- Who holds a half throughout a run holds it at its end. -/
theorem isHeldBy (throughout : s.HoldsThroughout L t h αs) (run : s.run? L αs = some u) :
    u.IsHeldBy h t :=
  throughout αs [] u (by simp) run

/-- Who holds a half holds it throughout the empty run. -/
theorem nil (held : s.IsHeldBy h t) : s.HoldsThroughout L t h [] := by
  intro αs₁ αs₂ u split run
  obtain ⟨rfl, rfl⟩ := List.append_eq_nil_iff.1 split.symm
  cases run
  exact held

/-- A half that is held after one more action was held throughout. -/
theorem concat (throughout : s.HoldsThroughout L t h αs) (run : s.run? L (αs ++ [α]) = some v)
    (held : v.IsHeldBy h t) : s.HoldsThroughout L t h (αs ++ [α]) := by
  intro αs₁ αs₂ u split run₁
  rcases αs₂.eq_nil_or_concat with rfl | ⟨αs₂, β, rfl⟩
  · rw [List.append_nil] at split
    rw [← split, run] at run₁
    cases run₁
    exact held
  · rw [List.concat_eq_append, ← List.append_assoc] at split
    exact throughout αs₁ αs₂ u (List.append_inj_left' split rfl) run₁

/-- Who holds a half throughout a run holds it throughout the first part of it. -/
theorem take (throughout : s.HoldsThroughout L t h (αs ++ βs)) : s.HoldsThroughout L t h αs := by
  intro αs₁ αs₂ u split run₁
  exact throughout αs₁ (αs₂ ++ βs) u (by simp [split]) run₁

/-- **What is held throughout is not acquired**: nobody joins a hold set whom it contains. -/
theorem joined?_ne (throughout : s.HoldsThroughout L t h αs) (reachable : Reachable L s)
    (outset : (s.activity t).joined? ≠ some h) (run : s.run? L αs = some u) :
    (u.activity t).joined? ≠ some h := by
  refine run?_snoc_induction (P := fun αs u => s.HoldsThroughout L t h αs →
    (u.activity t).joined? ≠ some h) (fun _ => outset) ?_ run throughout
  intro αs α u v before next ih throughout joined
  have held := throughout.take.isHeldBy before
  have inv := (reachable.run before).invariant
  obtain alike | ⟨e, -, turn, -⟩ := alike_or_turn next t
  · rw [alike.joined?] at joined
    exact ih throughout.take joined
  · obtain rfl := turn.joined?_after joined
    obtain ⟨hpending, -⟩ := turn.pending?_shifts (inv.fits t)
    exact inv.not_isHeldBy_of_pending? hpending held

/-- An acquisition that is in force leaves no room for a later one. -/
theorem not_reacquires {last : Option Reply} (throughout : s.HoldsThroughout L t h αs)
    (reachable : Reachable L s) (ready : s.activity t = .ready last) :
    ¬ s.Reacquires L t h αs := by
  rintro ⟨αs₁, αs₂, u, a, v, rfl, before, rfl, acquires, -⟩
  have outset : (s.activity t).joined? ≠ some a.half := by
    rw [ready]
    exact nofun
  refine throughout.take.joined?_ne reachable outset before ?_
  rw [acquires.concluding]
  rfl

end HoldsThroughout

/-- A later acquisition is in force as long as the thread goes on holding the half. -/
theorem Reacquires.concat (reacquires : s.Reacquires L t h αs)
    (run : s.run? L (αs ++ [α]) = some v) (held : v.IsHeldBy h t) :
    s.Reacquires L t h (αs ++ [α]) := by
  obtain ⟨αs₁, αs₂, u, a, u', rfl, before, half, acquires, throughout⟩ := reacquires
  refine ⟨αs₁, αs₂ ++ [α], u, a, u', by simp, before, half, acquires, throughout.concat ?_ held⟩
  rw [List.append_assoc, run?_append, before] at run
  simpa [run?, acquires.step] using run

/-- **A half that is held is held by one acquisition**: the thread has held it throughout, or has
acquired it later, or is just about to return from acquiring it. -/
theorem heldBy_cases (reachable : Reachable L s) (run : s.run? L αs = some u)
    (held : u.IsHeldBy h t) :
    s.HoldsThroughout L t h αs ∨ (u.activity t).joined? = some h ∨ s.Reacquires L t h αs := by
  refine run?_snoc_induction (P := fun αs u => u.IsHeldBy h t → s.HoldsThroughout L t h αs ∨
    (u.activity t).joined? = some h ∨ s.Reacquires L t h αs) (fun held => .inl (.nil held)) ?_ run
    held
  intro αs α u v before next ih held
  have run := run?_concat_eq_some.2 ⟨u, before, next⟩
  by_cases heldBefore : u.IsHeldBy h t
  · obtain throughout | joined | reacquires := ih heldBefore
    · exact .inl (throughout.concat run held)
    · right
      obtain ⟨a, concluding, rfl⟩ := eq_concluding_of_joined? joined
      obtain ⟨e, A', -, step, turn, rfl⟩ | bystands := turn_or_bystands next t
      · rw [concluding] at turn
        cases turn with
        | acquire turn =>
          cases turn with
          | conclude =>
            -- The acquisition returns, and is in force from here on.
            obtain rfl : α = .step t := step.resolve_right nofun
            exact .inr ⟨αs, [], u, a, _, rfl, before, rfl,
              ⟨reachable.run before, concluding, next⟩, .nil held⟩
      · rw [bystands.alike.joined?]
        exact .inl joined
    · exact .inr (.inr (reacquires.concat run held))
  · -- The thread joins the hold set in this very action.
    obtain ⟨e, A', -, -, turn, rfl⟩ | bystands := turn_or_bystands next t
    · rw [isHeldBy_after, Effect.isHeldBy_apply] at held
      cases e with
      | join h' =>
        obtain ⟨rfl, -⟩ | held := held
        · rw [activity_after_self]
          exact .inr (.inl turn.joined?_of_join)
        · exact absurd held heldBefore
      | part h' => exact absurd held.2 heldBefore
      | _ => exact absurd held heldBefore
    · exact absurd ((bystands.held h).1 held) heldBefore

/-! ### What a guard releases -/

/-- What a guard of an acquisition would do that it stands for: end it as long as it is in force,
and touch nothing once it is released. -/
structure ReleasesOwn (L : Layout K) (s : State b K) (t : ThreadId) (r : Release)
    (αs : List (Action K)) (s₁ : State b K) (βs : List (Action K)) (s₂ : State b K) : Prop where
  /-- The acquisition is in force: the release ends it. -/
  own : s.HoldsThroughout L t r.half αs →
    ∀ reply, s₂.activity t = .ready (some reply) → reply = .done ∧ s₁.EndsHold L t r.half s₂
  /-- The acquisition has been released: the release touches nothing. -/
  spent : ¬ s.HoldsThroughout L t r.half αs → s₁.TouchesNothing L t r βs

/-- What the release of a half, by a guard or directly, does after an acquisition of it and anything
that has happened since. -/
structure ReleasesCurrent (L : Layout K) (s : State b K) (t : ThreadId) (r : Release)
    (αs : List (Action K)) (s₁ : State b K) (βs : List (Action K)) (s₂ : State b K) : Prop where
  /-- The acquisition is in force at the start. -/
  acquired : s.IsHeldBy r.half t
  /-- As long as the acquisition is in force, it is the one by which the half is held. -/
  own : s.HoldsThroughout L t r.half αs →
    s₁.IsHeldBy r.half t ∧ ¬ s.Reacquires L t r.half αs
  /-- A half that is held although the acquisition has been released is held by a later one. -/
  later : ¬ s.HoldsThroughout L t r.half αs → s₁.IsHeldBy r.half t → s.Reacquires L t r.half αs
  /-- A half that is held is released, by whichever acquisition it is held. -/
  ends : s₁.IsHeldBy r.half t → ∀ reply, s₂.activity t = .ready (some reply) →
    reply = .done ∧ s₁.EndsHold L t r.half s₂ ∧ s₂.logOf t = .released r.half :: s₁.logOf t
  /-- If it is not held, nothing is touched, and a guard complains to the log, a direct release to
  its caller. -/
  idle : ¬ s₁.IsHeldBy r.half t → s₁.TouchesNothing L t r βs ∧
    ∀ reply, s₂.activity t = .ready (some reply) →
      reply = r.failure ∧ s₂.logOf t = r.complaint ++ s₁.logOf t
  /-- Other threads keep what they have. -/
  others : ∀ w, w ≠ t → (∀ α ∈ βs, α.turnOf? ≠ some w) → s₁.KeepsFor w s₂
  /-- The release returns after six steps, and until then it waits for no resources. -/
  goesOn : (∀ last, s₂.activity t ≠ .ready last) →
    βs.count (.step t) < 6 ∧ (s₂.CanStep L t ∨ ∃ w, s₂.QueuesBehind L t w)

/-- **A guard releases what its thread holds**: its own acquisition as long as that is in force,
after it the next one of its half by the same thread, and nothing where the thread does not hold the
half. -/
theorem Acquires.releasesCurrent {s₀ s₂ : State b K} (acquires : s₀.Acquires L t a s)
    (run : s.run? L αs = some s₁) (calling : s₁.Calling L t r.call βs s₂) (half : r.half = a.half) :
    s.ReleasesCurrent L t r αs s₁ βs s₂ := by
  have reachable : Reachable L s := acquires.reachable.next _ acquires.step
  have ready : s.activity t = .ready (some (a.reply .acquired)) := by
    rw [acquires.eq_after, activity_after_self]
  obtain ⟨last, u, ready₁, -, first, -⟩ := calling.start
  refine ⟨half ▸ acquires.isHeldBy, ?_, ?_, ?_, ?_, ?_, calling.goesOn⟩
  · intro throughout
    exact ⟨throughout.isHeldBy run, throughout.not_reacquires reachable ready⟩
  · intro released held
    obtain throughout | joined | reacquires := heldBy_cases reachable run held
    · exact absurd throughout released
    · rw [ready₁] at joined
      cases joined
    · exact reacquires
  · intro held reply returned
    exact calling.endsHold held returned
  · intro absent
    exact ⟨calling.touchesNothing absent, fun reply => calling.fails absent⟩
  · intro w hw others
    refine keepsFor_of_run? calling.reachable calling.run ?_
    rintro α (_ | ⟨_, mem⟩)
    · rintro ⟨⟩
      exact hw rfl
    · exact others α mem

/-! ### A guard that outlives its acquisition -/

/-- A run in which a thread acquires a write half through a guard, up to its last step. -/
def guardedWriter : List (Action Nat) :=
  Action.follow 0 (.acquire ⟨0, .write⟩ { manner := .lock, guarded := true }) 13

/-- The same run to its end. -/
def guardTaken : List (Action Nat) := guardedWriter ++ [.step 0]

/-- With the guard at hand, the thread releases the half directly. -/
def unlockedDirectly : List (Action Nat) := Action.follow 0 (.unlock ⟨0, .write⟩) 6

/-- Then it acquires the half again, without a guard. -/
def lockedAgain : List (Action Nat) :=
  Action.follow 0 (.acquire ⟨0, .write⟩ { manner := .lock }) 14

/-- Then it drops the guard. -/
def droppedLate : List (Action Nat) := List.replicate 6 (.step 0)

/-- All of that. -/
def guardOutlived : List (Action Nat) :=
  guardTaken ++ (unlockedDirectly ++ lockedAgain) ++ .call 0 (.dropGuard ⟨0, .write⟩) :: droppedLate

/-- A writer that is to get a guard is granted its half. -/
theorem acquires_guardedWriter :
    (finish .threeLocks guardedWriter : State .hash Nat).Acquires .threeLocks 0
      ⟨⟨0, .write⟩, { manner := .lock, guarded := true }, .endless⟩
      (finish .threeLocks guardTaken) where
  reachable := reachable_finish guardedWriter
  concluding := by decide +kernel
  step := by decide +kernel

/-- The guard is dropped when the half was released and locked again. -/
theorem calling_droppedLate :
    (finish .threeLocks (guardTaken ++ (unlockedDirectly ++ lockedAgain)) :
        State .hash Nat).Calling .threeLocks 0 (.dropGuard ⟨0, .write⟩) droppedLate
      (finish .threeLocks guardOutlived) where
  reachable := reachable_finish _
  run := by decide +kernel
  single := by simp [droppedLate]

/-- The acquisition of the guard is not in force when the guard is dropped. -/
theorem not_holdsThroughout_lockedAgain :
    ¬ (finish .threeLocks guardTaken : State .hash Nat).HoldsThroughout .threeLocks 0 ⟨0, .write⟩
      (unlockedDirectly ++ lockedAgain) := by
  intro throughout
  have held : (finish .threeLocks (guardTaken ++ unlockedDirectly) :
      State .hash Nat).IsHeldBy ⟨0, .write⟩ 0 :=
    throughout unlockedDirectly lockedAgain _ rfl (by decide +kernel)
  have absent : ¬ (finish .threeLocks (guardTaken ++ unlockedDirectly) :
      State .hash Nat).IsHeldBy ⟨0, .write⟩ 0 := by
    decide +kernel
  exact absent held

/-- **A guard does not stand for its acquisition**: dropped after its half has been released
directly and acquired again without it, it ends that later hold. -/
theorem not_releasesOwn_lockedAgain :
    (finish .threeLocks (guardTaken ++ (unlockedDirectly ++ lockedAgain)) :
        State .hash Nat).IsHeldBy ⟨0, .write⟩ 0 ∧
      ¬ (finish .threeLocks guardOutlived : State .hash Nat).IsHeldBy ⟨0, .write⟩ 0 ∧
      ¬ (finish .threeLocks guardTaken : State .hash Nat).ReleasesOwn .threeLocks 0
        ⟨⟨0, .write⟩, true⟩ (unlockedDirectly ++ lockedAgain)
        (finish .threeLocks (guardTaken ++ (unlockedDirectly ++ lockedAgain))) droppedLate
        (finish .threeLocks guardOutlived) := by
  refine ⟨by decide +kernel, by decide +kernel, ?_⟩
  rintro ⟨-, spent⟩
  -- The second step of the release leaves the hold set.
  have same : (finish .threeLocks (guardTaken ++ (unlockedDirectly ++ lockedAgain) ++
        Action.follow 0 (.dropGuard ⟨0, .write⟩) 1) : State .hash Nat).SameRecords
      (finish .threeLocks (guardTaken ++ (unlockedDirectly ++ lockedAgain) ++
        Action.follow 0 (.dropGuard ⟨0, .write⟩) 2)) :=
    spent not_holdsThroughout_lockedAgain [.step 0] (.step 0) (List.replicate 4 (.step 0)) _ _ rfl
      (by decide +kernel) (by decide +kernel) rfl
  have parts : ¬ (finish .threeLocks (guardTaken ++ (unlockedDirectly ++ lockedAgain) ++
        Action.follow 0 (.dropGuard ⟨0, .write⟩) 2) : State .hash Nat).IsHeldBy ⟨0, .write⟩ 0 := by
    decide +kernel
  refine parts ((same.held ⟨0, .write⟩ 0).2 ?_)
  decide +kernel

/-- A guard that has outlived its acquisition releases the next one. -/
theorem releasesCurrent_guardOutlived :
    (finish .threeLocks guardTaken : State .hash Nat).ReleasesCurrent .threeLocks 0
        ⟨⟨0, .write⟩, true⟩ (unlockedDirectly ++ lockedAgain)
        (finish .threeLocks (guardTaken ++ (unlockedDirectly ++ lockedAgain))) droppedLate
        (finish .threeLocks guardOutlived) ∧
      (finish .threeLocks guardOutlived : State .hash Nat).owner? 0 1 = none :=
  ⟨acquires_guardedWriter.releasesCurrent (by decide +kernel) calling_droppedLate rfl,
    by decide +kernel⟩

end State

end ResourceLocks.Protocol
