import ResourceLocks.Proofs.Protocol.Run

/-!
# Only a thread's own steps change its holds

The operations of a ledger judge nothing: a claim replaces whatever owner there is, a withdrawal
clears whoever owns the resource. That no step of one thread touches what another one holds is
therefore a fact about the states in which the protocol calls them, and rests on its invariant.

* **Frame** (`State.Turn.keepsFor`, `State.keepsFor_of_next?`): a turn of one thread leaves another
  one in the same hold sets, with the same entries in the ledger of owners and the same counts
  (`State.KeepsFor`), whichever halves they are about.
* **Clearing** (`State.Turn.clears_own`, `State.clears_of_next?`): an owner goes only by the step of
  the owner itself that clears the very half through which it owns the resource. So no owner is
  replaced by another one (`State.owner?_unique_of_next?`).
* **Runs** (`State.Reachable.untouched_by_others`): a thread that takes no more turns, be it that it
  has ended without releasing its halves, keeps them for the rest of the run.
-/

namespace ResourceLocks.Protocol

variable {b : Backing} {K : Type} [Key K]

/-- The half whose entry in a ledger the thread is about to clear. -/
def Activity.clearing? : Activity K → Option Half
  | .acquiring a (.unclaiming _) => some a.half
  | .releasing r .clearing => some r.half
  | _ => none

namespace State

/-- A thread holds the same halves, owns the same resources and has the same counts in a later
state. -/
structure KeepsFor (s : State b K) (t : ThreadId) (s' : State b K) : Prop where
  /-- It is in the same hold sets. -/
  held : ∀ h, s'.IsHeldBy h t ↔ s.IsHeldBy h t
  /-- The same entries of the ledgers of owners name it. -/
  owned : ∀ g r, s'.owner? g r = some t ↔ s.owner? g r = some t
  /-- Its counts are the same. -/
  counted : ∀ g r, s'.holdCount g r t = s.holdCount g r t

variable {L : Layout K} {s s' s'' : State b K} {t u : ThreadId}

/-- Nothing is changed for a thread where nothing happens. -/
theorem KeepsFor.refl (s : State b K) (t : ThreadId) : s.KeepsFor t s :=
  ⟨fun _ => Iff.rfl, fun _ _ => Iff.rfl, fun _ _ => rfl⟩

/-- What is kept for a thread twice is kept for it. -/
theorem KeepsFor.trans (first : s.KeepsFor t s') (second : s'.KeepsFor t s'') :
    s.KeepsFor t s'' where
  held h := (second.held h).trans (first.held h)
  owned g r := (second.owned g r).trans (first.owned g r)
  counted g r := (second.counted g r).trans (first.counted g r)

/-! ## One turn -/

namespace Turn

variable {e : Effect} {A' : Activity K}

/-- A turn puts nothing on record for another thread, and takes nothing off. -/
theorem onRecord_after_of_ne (turn : s.Turn L t (s.activity t) e A') (inv : s.Invariant L)
    (hu : u ≠ t) (h : Half) : (s.after L t e A').OnRecord h u ↔ s.OnRecord h u := by
  rw [turn.onRecord_after inv]
  cases e with
  | record m h' => exact or_iff_right fun mine => hu mine.2
  | clear m h' => exact and_iff_right fun mine => hu mine.2
  | _ => exact Iff.rfl

/-- **A turn of one thread changes nothing for another one.** -/
theorem keepsFor (turn : s.Turn L t (s.activity t) e A') (inv : s.Invariant L) (hu : u ≠ t) :
    s.KeepsFor u (s.after L t e A') where
  held h := isHeldBy_after_of_ne L s e A' h hu
  owned g r := by
    rw [(inv.turn turn).owner_iff, inv.owner_iff]
    simp only [turn.onRecord_after_of_ne inv hu]
  counted g r := by
    rw [holdCount_after, Effect.holdCount_apply]
    cases e with
    | record m h' | clear m h' => cases m <;> simp [hu]
    | _ => rfl

/-- Who clears a half is about to do so. -/
theorem clearing?_eq {A : Activity K} {m : Monitor} {h : Half}
    (turn : s.Turn L t A (.clear m h) A') : A.clearing? = some h := by
  generalize he : Effect.clear m h = e at turn
  cases turn with
  | acquire turn =>
    cases turn with
    | unclaim v =>
      cases he
      rfl
    | conclude v => cases v <;> cases he
    | _ => cases he
  | release turn =>
    cases turn with
    | clear =>
      cases he
      rfl
    | _ => cases he
  | ask turn => cases turn <;> cases he
  | _ => cases he

/-- **An owner goes by its own step** that clears the half through which it owns the resource. -/
theorem clears_own {g : RegistryId} {r : K} {h : Half}
    (turn : s.Turn L t (s.activity t) e A') (inv : s.Invariant L) (covers : Covers L .write g r h)
    (recorded : s.OnRecord h u) (gone : (s.after L t e A').owner? g r ≠ some u) :
    u = t ∧ ∃ m, e = .clear m h := by
  have owned : s.owner? g r = some u := (inv.owner_iff g r u).2 ⟨h, covers, recorded⟩
  have mine : u = t := by
    by_contra hu
    exact gone (((turn.keepsFor inv hu).owned g r).2 owned)
  subst mine
  refine ⟨rfl, ?_⟩
  -- The half is on record before and not after, so it is the one that the turn clears.
  have after : ¬ (s.after L u e A').OnRecord h u := fun rec =>
    gone (((inv.turn turn).owner_iff g r u).2 ⟨h, covers, rec⟩)
  rw [turn.onRecord_after inv] at after
  cases e with
  | clear m h' =>
    by_cases hh : h = h'
    · exact ⟨m, by rw [hh]⟩
    · exact absurd ⟨fun same => hh same.1, recorded⟩ after
  | record m h' => exact absurd (.inr recorded) after
  | _ => exact absurd recorded after

end Turn

/-! ## Whatever happens -/

/-- What is no turn of a thread changes nothing for it. -/
theorem keepsFor_of_next? {α : Action K} (inv : s.Invariant L) (next : s.next? L α = some s')
    (other : α.turnOf? ≠ some t) : s.KeepsFor t s' := by
  obtain ⟨u, e, A', hα, -, turn, rfl⟩ | ⟨-, same⟩ := next?_cases next
  · refine turn.keepsFor inv ?_
    rintro rfl
    exact other hα
  · refine ⟨fun h => ?_, fun g r => ?_, fun g r => ?_⟩
    · rw [IsHeldBy, IsHeldBy, same.holds]
    · rw [owner?, owner?, same.registries]
    · rw [holdCount, holdCount, same.registries]

/-- **No owner is replaced** by another one. Of two threads one does not take the turn: if it is the
old owner, it still is one, and if it is the new owner, it was one before. -/
theorem owner?_unique_of_next? {α : Action K} {g : RegistryId} {r : K} (inv : s.Invariant L)
    (next : s.next? L α = some s') (owned : s.owner? g r = some t)
    (owned' : s'.owner? g r = some u) : u = t := by
  by_contra hu
  by_cases mine : α.turnOf? = some t
  · have other : α.turnOf? ≠ some u := by
      rw [mine]
      rintro ⟨⟩
      exact hu rfl
    have before := ((keepsFor_of_next? inv next other).owned g r).1 owned'
    rw [owned] at before
    exact hu (Option.some.inj before).symm
  · have after := ((keepsFor_of_next? inv next mine).owned g r).2 owned
    rw [owned'] at after
    exact hu (Option.some.inj after)

/-- An owner goes only by a step of its own, in the stage that clears the half through which it owns
the resource. -/
theorem clears_of_next? {α : Action K} {g : RegistryId} {r : K} {h : Half} (inv : s.Invariant L)
    (next : s.next? L α = some s') (covers : Covers L .write g r h) (recorded : s.OnRecord h t)
    (gone : s'.owner? g r ≠ some t) : α = .step t ∧ (s.activity t).clearing? = some h := by
  obtain ⟨u, e, A', -, step, turn, rfl⟩ | ⟨-, same⟩ := next?_cases next
  · obtain ⟨rfl, m, rfl⟩ := turn.clears_own inv covers recorded gone
    refine ⟨?_, turn.clearing?_eq⟩
    obtain rfl | nothing := step
    · rfl
    · cases nothing
  · refine absurd ?_ gone
    rw [owner?, same.registries]
    exact (inv.owner_iff g r t).2 ⟨h, covers, recorded⟩

/-- What is no turn of a thread at any time in a run changes nothing for it in the run. -/
theorem keepsFor_of_run? {αs : List (Action K)} (reachable : Reachable L s)
    (run : s.run? L αs = some s') (others : ∀ α ∈ αs, α.turnOf? ≠ some t) : s.KeepsFor t s' := by
  refine run?_induction (P := s.KeepsFor t) (.refl s t) ?_ run
  intro αs₁ α αs₂ u v split before next after keeps
  have inv := (reachable.run before).invariant
  exact keeps.trans (keepsFor_of_next? inv next (others α (by simp [split])))

/-- **Only a thread's own steps change its holds.** Whatever happens that is no turn of a thread
leaves it in the same hold sets, with the same resources and the same counts. So no owner is ever
replaced by another one; the resources of a claim are cleared only by the step of its thread that
clears this very claim; and a thread that takes no turn in a run has at its end what it had. -/
theorem Reachable.untouched_by_others (reachable : Reachable L s) :
    (∀ (α : Action K) (s' : State b K) (t : ThreadId), s.next? L α = some s' →
      α.turnOf? ≠ some t → s.KeepsFor t s') ∧
    (∀ (α : Action K) (s' : State b K) (g : RegistryId) (r : K) (t u : ThreadId),
      s.next? L α = some s' → s.owner? g r = some t → s'.owner? g r = some u → u = t) ∧
    (∀ (α : Action K) (s' : State b K) (g : RegistryId) (r : K) (h : Half) (t : ThreadId),
      s.next? L α = some s' → Covers L .write g r h → s.OnRecord h t → s'.owner? g r ≠ some t →
      α = .step t ∧ (s.activity t).clearing? = some h) ∧
    (∀ (αs : List (Action K)) (s' : State b K) (t : ThreadId), s.run? L αs = some s' →
      (∀ α ∈ αs, α.turnOf? ≠ some t) → s.KeepsFor t s') := by
  have inv := reachable.invariant
  refine ⟨?_, ?_, ?_, ?_⟩
  · intro α s' t next other
    exact keepsFor_of_next? inv next other
  · intro α s' g r t u next owned owned'
    exact owner?_unique_of_next? inv next owned owned'
  · intro α s' g r h t next covers recorded gone
    exact clears_of_next? inv next covers recorded gone
  · intro αs s' t run others
    exact keepsFor_of_run? reachable run others

/-- A run in which one thread acquires a read half and another one a write half. Neither takes a
turn after it. -/
def readerAndOwner : List (Action Nat) :=
  Action.follow 0 (.acquire ⟨0, .read⟩ { manner := .lock }) 13
    ++ Action.follow 2 (.acquire ⟨2, .write⟩ { manner := .lock }) 14

/-- What happens while a writer claims what the reader holds, finds the reader there, and is about
to clear its claim. -/
def claimBesideReader : List (Action Nat) :=
  Action.follow 1 (.acquire ⟨1, .write⟩ { manner := .tryLock }) 15

/-- A writer clears its claim beside a reader and another owner, who keep what they have. -/
theorem untouched_by_others_claimBesideReader :
    (finish .threeLocks (readerAndOwner ++ claimBesideReader) : State .hash Nat).KeepsFor 0
        (finish .threeLocks (readerAndOwner ++ claimBesideReader ++ [.step 1])) ∧
      (finish .threeLocks (readerAndOwner ++ claimBesideReader ++ [.step 1]) :
        State .hash Nat).owner? 0 2 = none ∧
      ((finish .threeLocks (readerAndOwner ++ claimBesideReader) : State .hash Nat).activity
        1).clearing? = some ⟨1, .write⟩ ∧
      (finish .threeLocks readerAndOwner : State .hash Nat).owner? 0 4 = some 2 ∧
      (finish .threeLocks readerAndOwner : State .hash Nat).KeepsFor 2
        (finish .threeLocks (readerAndOwner ++ claimBesideReader)) := by
  have step : (finish .threeLocks (readerAndOwner ++ claimBesideReader) :
      State .hash Nat).next? .threeLocks (.step 1) =
        some (finish .threeLocks (readerAndOwner ++ claimBesideReader ++ [.step 1])) := by
    decide +kernel
  have recorded : (finish .threeLocks (readerAndOwner ++ claimBesideReader) :
      State .hash Nat).OnRecord ⟨1, .write⟩ 1 := .inr (by decide +kernel)
  have gone : (finish .threeLocks (readerAndOwner ++ claimBesideReader ++ [.step 1]) :
      State .hash Nat).owner? 0 2 = none := by
    decide +kernel
  obtain ⟨frame, -, clears, -⟩ :=
    (reachable_finish (b := .hash) (L := .threeLocks)
      (readerAndOwner ++ claimBesideReader)).untouched_by_others
  obtain ⟨-, -, -, run⟩ :=
    (reachable_finish (b := .hash) (L := .threeLocks) readerAndOwner).untouched_by_others
  refine ⟨frame _ _ 0 step nofun, gone, ?_, by decide +kernel, ?_⟩
  · exact (clears _ _ 0 2 _ 1 step (by decide) recorded (by rw [gone]; exact nofun)).2
  · exact run claimBesideReader _ 2 (by decide +kernel) (by decide)

end State

end ResourceLocks.Protocol
