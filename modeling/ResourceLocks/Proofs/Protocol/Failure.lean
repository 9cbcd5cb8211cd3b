import ResourceLocks.Proofs.Ledger.Undoing
import ResourceLocks.Proofs.Protocol.Run
import ResourceLocks.Proofs.Protocol.Verdict

/-!
# Failed acquisitions

An acquisition that does not succeed leaves nothing behind and touches nobody else, whatever other
threads do meanwhile and wherever it gives up (`State.Attempt.leavesNoTrace`).

* While it is under way, it has not come to be acquired (`State.Attempt.underWay`), because a
  verdict is kept until the reply. So each of its steps is tentative: it records and clears its own
  claim, and touches no holds and no hold set.
* What its thread owns and counts after it is what the thread owned and counted before, since both
  are accounted for by what the thread holds (`Invariant.owner_iff`, `Invariant.count`).
* Where no other thread takes a step, the ledgers after it **equal** the ledgers before, in every
  detail of their entries: a claim is made on free resources, and clearing it undoes it
  (`Owners.withdraw_claim`).
-/

namespace ResourceLocks.Protocol

variable {b : Backing} {K : Type} [Key K] {L : Layout K}

/-! ## Tentative effects -/

namespace Effect.IsTentative

variable {e : Effect} {h : Half}

/-- What an attempt does before it is granted changes no holders. -/
theorem holders_apply (tentative : e.IsTentative h) (s : State b K) (t : ThreadId)
    (g : RegistryId) :
    ((e.apply L t s).registries.get g).holders = (s.registries.get g).holders := by
  rw [Effect.holders_apply]
  cases e with
  | record m h' | clear m h' =>
    obtain ⟨rfl, -⟩ := tentative
    rfl
  | _ => rfl

/-- What an attempt does before it is granted changes no hold set. -/
theorem isHeldBy_apply (tentative : e.IsTentative h) (s : State b K) (t u : ThreadId) (h' : Half) :
    (e.apply L t s).IsHeldBy h' u ↔ s.IsHeldBy h' u := by
  rw [Effect.isHeldBy_apply]
  cases e with
  | join h₀ | part h₀ => cases tentative
  | _ => exact Iff.rfl

end Effect.IsTentative

namespace State

variable {s s' : State b K} {t u : ThreadId} {h : Half}

/-- The turns of an acquisition that has not come to be acquired are tentative. -/
theorem Turn.isTentative {a : Acquisition} {stage : AcquireStage} {e : Effect} {A' : Activity K}
    (turn : s.Turn L t (.acquiring a stage) e A') (fits : stage.Fits a.half.kind)
    (before : stage.verdict? ≠ some .acquired)
    (after : ∀ stage', A' = .acquiring a stage' → stage'.verdict? ≠ some .acquired) :
    e.IsTentative a.half := by
  cases turn with
  | acquire turn => exact turn.isTentative fits before after
  | expire | rouse => trivial

/-- Only steps change ledgers. -/
theorem registries_eq_of_not_step {α : Action K} (next : s.next? L α = some s')
    (nostep : ∀ t, α ≠ .step t) : s'.registries = s.registries := by
  obtain ⟨t, e, A', -, step | rfl, -, rfl⟩ | ⟨-, same⟩ := next?_cases next
  · exact absurd step (nostep t)
  · rfl
  · exact same.registries

/-! ## Attempts -/

/-- A call of a thread to acquire a half that has returned in a run, the thread having made no other
call since. -/
structure Attempt (L : Layout K) (s : State b K) (t : ThreadId) (h : Half) (entry : EntryPoint)
    (αs : List (Action K)) (s' : State b K) (r : Reply) : Prop where
  /-- The run starts in a reachable state. -/
  reachable : Reachable L s
  /-- The call is made, and the run goes on with the actions of all threads. -/
  run : s.run? L (.call t (.acquire h entry) :: αs) = some s'
  /-- The thread makes no other call. -/
  single : ∀ c, .call t c ∉ αs
  /-- The call has returned. -/
  returned : s'.activity t = .ready (some r)

/-- What is to be said of an acquisition that fails. -/
structure LeavesNoTrace (L : Layout K) (s : State b K) (t : ThreadId) (h : Half)
    (entry : EntryPoint) (αs : List (Action K)) (s' : State b K) : Prop where
  /-- The thread holds what it held. -/
  held : ∀ h', s'.IsHeldBy h' t ↔ s.IsHeldBy h' t
  /-- The thread has as many holds on every resource as it had. -/
  shares : ∀ g r, s'.holdCount g r t = s.holdCount g r t
  /-- The thread owns what it owned. -/
  claims : ∀ g r, s'.owner? g r = some t ↔ s.owner? g r = some t
  /-- No step of the thread changes a hold or a hold set, and of the owners it changes only those of
  its own claim, which it makes on resources without owners and clears while it is on record. -/
  frame : ∀ αs₁ α αs₂ u v, αs = αs₁ ++ α :: αs₂ →
    s.run? L (.call t (.acquire h entry) :: αs₁) = some u → u.next? L α = some v →
    α.turnOf? = some t →
    (∀ g, (v.registries.get g).holders = (u.registries.get g).holders) ∧
    (∀ h' w, v.IsHeldBy h' w ↔ u.IsHeldBy h' w) ∧
    ∀ g r, v.owner? g r = u.owner? g r ∨
      Covers L .write g r h ∧ (u.owner? g r = none ∧ v.owner? g r = some t ∨
        u.OnRecord h t ∧ u.owner? g r = some t ∧ v.owner? g r = none)
  /-- If no other thread takes a step, all ledgers are what they were. -/
  alone : (∀ w, w ≠ t → .step w ∉ αs) → ∀ g,
    (s'.registries.get g).owners = (s.registries.get g).owners ∧
      (s'.registries.get g).holders = (s.registries.get g).holders

/-! ### Runs of one call -/

section runs

variable {αs : List (Action K)}

/-- A thread that has returned stays so until it makes another call. -/
theorem run?_of_ready {last : Option Reply} (run : s.run? L αs = some s')
    (single : ∀ c, .call t c ∉ αs) (ready : s.activity t = .ready last) :
    s'.activity t = .ready last := by
  refine run?_induction (P := fun u => u.activity t = .ready last) ready ?_ run
  intro αs₁ α αs₂ u v split _ next _ hu
  refine next?_of_ready next hu ?_
  rintro c rfl
  exact single c (by simp [split])

/-- An acquisition goes on until it returns. -/
theorem run?_of_acquiring {a : Acquisition} {stage : AcquireStage} (run : s.run? L αs = some s')
    (single : ∀ c, .call t c ∉ αs) (acquiring : s.activity t = .acquiring a stage) :
    (∃ stage', s'.activity t = .acquiring a stage') ∨ ∃ r, s'.activity t = .ready (some r) := by
  refine run?_induction (P := fun u => (∃ stage', u.activity t = .acquiring a stage') ∨
    ∃ r, u.activity t = .ready (some r)) (.inl ⟨stage, acquiring⟩) ?_ run
  rintro αs₁ α αs₂ u v split - next - (⟨stage', acquiring'⟩ | ⟨r, ready⟩)
  · obtain ⟨stage'', hA, -⟩ | ⟨-, -, hA⟩ | ⟨x, -, hA, -⟩ := next?_of_acquiring next acquiring'
    · exact .inl ⟨stage'', hA⟩
    · exact .inr ⟨_, hA⟩
    · exact .inr ⟨_, hA⟩
  · refine .inr ⟨r, next?_of_ready next ready ?_⟩
    rintro c rfl
    exact single c (by simp [split])

/-- **A verdict decides the reply.** -/
theorem run?_of_verdict {a : Acquisition} {stage : AcquireStage} {v : Verdict} {r : Reply}
    (run : s.run? L αs = some s') (single : ∀ c, .call t c ∉ αs)
    (acquiring : s.activity t = .acquiring a stage) (verdict : stage.verdict? = some v)
    (returned : s'.activity t = .ready (some r)) : r = a.reply v := by
  induction αs generalizing s stage with
  | nil =>
    cases run
    rw [acquiring] at returned
    cases returned
  | cons α αs ih =>
    obtain ⟨u, next, rest⟩ := run?_cons_eq_some.1 run
    have hsingle : ∀ c, .call t c ∉ αs := fun c hc => single c (List.mem_cons_of_mem _ hc)
    obtain ⟨stage', hA, keeps⟩ | ⟨rfl, -, -⟩ | ⟨w, rfl, hA, -⟩ :=
      next?_of_acquiring next acquiring
    · exact ih rest hsingle hA (keeps v verdict)
    · cases verdict
    · cases verdict
      have hlast := run?_of_ready rest hsingle hA
      rw [returned] at hlast
      cases hlast
      rfl

end runs

/-! ### While the call is under way -/

namespace Attempt

variable {mid fin : State b K} {entry : EntryPoint} {αs αs₁ αs₂ : List (Action K)} {r : Reply}

/-- The call is a call, and more is known of it: it has returned. -/
theorem calling (attempt : s.Attempt L t h entry αs s' r) :
    s.Calling L t (.acquire h entry) αs s' where
  reachable := attempt.reachable
  run := attempt.run
  single := attempt.single

/-- The call is made by a thread that is doing nothing, and touches nothing that threads share. -/
theorem start (attempt : s.Attempt L t h entry αs s' r) :
    ∃ last s₁, s.activity t = .ready last ∧
      s₁ = s.after L t .nothing ((Call.acquire h entry).start s.now) ∧
      s.next? L (.call t (.acquire h entry)) = some s₁ ∧ s₁.run? L αs = some s' :=
  attempt.calling.start

/-- **While a call is under way that fails, it has not come to be acquired.** -/
theorem underWay (attempt : s.Attempt L t h entry αs s' r) (denied : r.denies = true)
    (split : αs = αs₁ ++ αs₂) (before : s.run? L (.call t (.acquire h entry) :: αs₁) = some mid)
    (after : mid.run? L αs₂ = some s') :
    (∃ a stage, mid.activity t = .acquiring a stage ∧ a.half = h ∧
      stage.verdict? ≠ some .acquired) ∨ mid.activity t = .ready (some r) := by
  obtain ⟨last, s₁, -, hs₁, first, -⟩ := attempt.start
  have before₁ : s₁.run? L αs₁ = some mid := by
    obtain ⟨s₂, first', rest⟩ := run?_cons_eq_some.1 before
    rw [first] at first'
    cases first'
    exact rest
  have single₁ : ∀ c, .call t c ∉ αs₁ := fun c hc => attempt.single c (by simp [split, hc])
  have single₂ : ∀ c, .call t c ∉ αs₂ := fun c hc => attempt.single c (by simp [split, hc])
  have started : s₁.activity t = (Call.acquire h entry).start s.now := by
    rw [hs₁, activity_after_self]
  obtain ⟨stage, acquiring⟩ | ⟨r', ready⟩ := run?_of_acquiring before₁ single₁ started
  · refine .inl ⟨_, stage, acquiring, rfl, fun acquired => ?_⟩
    have hr := run?_of_verdict after single₂ acquiring acquired attempt.returned
    rw [hr, Acquisition.denies_reply_acquired] at denied
    cases denied
  · right
    have hlast := run?_of_ready after single₂ ready
    rw [attempt.returned] at hlast
    rw [ready, hlast]

/-- **The turns of the call are tentative.** -/
theorem turn (attempt : s.Attempt L t h entry αs s' r) (denied : r.denies = true) {α : Action K}
    (split : αs = αs₁ ++ α :: αs₂)
    (before : s.run? L (.call t (.acquire h entry) :: αs₁) = some mid)
    (next : mid.next? L α = some fin) (after : fin.run? L αs₂ = some s')
    (mine : α.turnOf? = some t) :
    ∃ e A', mid.Turn L t (mid.activity t) e A' ∧ fin = mid.after L t e A' ∧ e.IsTentative h := by
  have reached := attempt.underWay denied split before (run?_cons_eq_some.2 ⟨fin, next, after⟩)
  have split' : αs = (αs₁ ++ [α]) ++ αs₂ := by simp [split]
  have before' : s.run? L (.call t (.acquire h entry) :: (αs₁ ++ [α])) = some fin := by
    rw [← List.cons_append, run?_append, before]
    simp [run?, next]
  have reached' := attempt.underWay denied split' before' after
  have inv := (attempt.reachable.run before).invariant
  obtain ⟨a, stage, acquiring, rfl, nverdict⟩ | ready := reached
  · obtain ⟨w, e, A', hw, -, turn, rfl⟩ | ⟨hnone, -⟩ := next?_cases next
    · rw [mine] at hw
      cases hw
      have fits := inv.fits t
      refine ⟨e, A', turn, rfl, ?_⟩
      rw [acquiring] at turn fits
      refine turn.isTentative fits nverdict ?_
      rintro stage' rfl
      rw [activity_after_self] at reached'
      obtain ⟨a', stage'', hA, -, nverdict'⟩ | hA := reached'
      · cases hA
        exact nverdict'
      · cases hA
    · rw [mine] at hnone
      cases hnone
  · refine absurd mine (turnOf?_ne_of_ready next ready ?_)
    rintro c rfl
    exact attempt.single c (by simp [split])

end Attempt

/-- A tentative turn changes no owners but those of the claim of its half. -/
theorem Turn.owner?_of_isTentative {e : Effect} {A' : Activity K}
    (turn : s.Turn L t (s.activity t) e A') (inv : s.Invariant L) (tentative : e.IsTentative h)
    (g : RegistryId) (r : K) :
    (s.after L t e A').owner? g r = s.owner? g r ∨
      Covers L .write g r h ∧ (s.owner? g r = none ∧ (s.after L t e A').owner? g r = some t ∨
        s.OnRecord h t ∧ s.owner? g r = some t ∧ (s.after L t e A').owner? g r = none) := by
  rw [owner?_after]
  cases e with
  | record m h' =>
    obtain ⟨-, rfl, -, -⟩ := turn.requires (inv.fits t)
    obtain ⟨-, rfl, -⟩ := tentative
    rw [owner?_apply_record]
    by_cases covers : Covers L .write g r h'
    · rw [if_pos covers]
      exact .inr ⟨covers, .inl ⟨turn.free_of_record inv covers, rfl⟩⟩
    · rw [if_neg covers]
      exact .inl rfl
  | clear m h' =>
    obtain ⟨hpending, -⟩ := turn.pending?_shifts (inv.fits t)
    obtain ⟨-, rfl⟩ := turn.requires (inv.fits t)
    obtain ⟨-, rfl, -⟩ := tentative
    rw [owner?_apply_clear]
    by_cases covers : Covers L .write g r h'
    · have recorded : s.OnRecord h' t := .inr hpending
      have owned : s.owner? g r = some t := (inv.owner_iff g r t).2 ⟨h', covers, recorded⟩
      rw [if_pos covers]
      exact .inr ⟨covers, .inr ⟨recorded, owned, rfl⟩⟩
    · rw [if_neg covers]
      exact .inl rfl
  | _ =>
    rw [Effect.owner?_apply]
    exact .inl rfl

/-- A thread that is doing nothing has on record what it holds. -/
theorem onRecord_iff_of_ready {last : Option Reply} (ready : s.activity t = .ready last) :
    s.OnRecord h t ↔ s.IsHeldBy h t := by
  unfold OnRecord
  rw [ready]
  exact or_iff_left nofun

namespace Attempt

variable {entry : EntryPoint} {αs αs₁ αs₂ : List (Action K)} {r : Reply}

/-- The thread holds what it held. -/
theorem held_iff (attempt : s.Attempt L t h entry αs s' r) (denied : r.denies = true) (h' : Half) :
    s'.IsHeldBy h' t ↔ s.IsHeldBy h' t := by
  obtain ⟨last, s₁, -, hs₁, first, rest⟩ := attempt.start
  refine run?_induction (P := fun v => v.IsHeldBy h' t ↔ s.IsHeldBy h' t) ?_ ?_ rest
  · rw [hs₁]
    exact Iff.rfl
  · intro αs₁ α αs₂ v w split before next after hv
    rw [← hv]
    obtain ⟨x, e, A', hα, -, turn, rfl⟩ | ⟨-, same⟩ := next?_cases next
    · by_cases hx : x = t
      · subst hx
        obtain ⟨e', A'', -, hw, tentative⟩ := attempt.turn denied split
          (run?_cons_eq_some.2 ⟨s₁, first, before⟩) next after hα
        rw [hw, isHeldBy_after, tentative.isHeldBy_apply]
      · exact isHeldBy_after_of_ne L v e A' h' (Ne.symm hx)
    · rw [IsHeldBy, IsHeldBy, same.holds]

end Attempt

/-! ### A thread on its own -/

/-- The ledgers of a state are those of an earlier one, but for the claim of a half while it is
pending. -/
structure DiffersByClaim (L : Layout K) (s : State b K) (t : ThreadId) (h : Half)
    (s' : State b K) : Prop where
  /-- The holders are the same. -/
  holders : ∀ g, (s'.registries.get g).holders = (s.registries.get g).holders
  /-- The owners are the same, but for the claim. -/
  owners : ∀ g, (s'.registries.get g).owners =
    if (s'.activity t).pending? = some h ∧ L.registry h = g
    then (s.registries.get g).owners.claim (L.resources h).items t
    else (s.registries.get g).owners
  /-- The claim is made on free resources. -/
  free : (s'.activity t).pending? = some h →
    ∀ r ∈ (L.resources h).items, s.owner? (L.registry h) r = none

/-- A tentative turn makes the claim where it was not, or undoes it. -/
theorem DiffersByClaim.turn {mid : State b K} {e : Effect} {A' : Activity K}
    (differs : s.DiffersByClaim L t h mid) (turn : mid.Turn L t (mid.activity t) e A')
    (inv : mid.Invariant L) (tentative : e.IsTentative h) :
    s.DiffersByClaim L t h (mid.after L t e A') := by
  obtain ⟨holders, owners, free⟩ := differs
  have hshift := turn.pending?_shifts (inv.fits t)
  refine ⟨fun g => ?_, fun g => ?_, ?_⟩
  · rw [registries_after, tentative.holders_apply, holders]
  · rw [registries_after, Effect.owners_apply, activity_after_self, owners]
    cases e with
    | record m h' =>
      obtain ⟨rfl, rfl, -⟩ := tentative
      obtain ⟨before, after⟩ := hshift
      by_cases hg : L.registry h' = g <;> simp [before, after, hg]
    | clear m h' =>
      obtain ⟨rfl, rfl, -⟩ := tentative
      obtain ⟨before, after⟩ := hshift
      by_cases hg : L.registry h' = g
      · subst hg
        simp only [before, after, reduceCtorEq, false_and, and_self, if_true, if_false]
        exact Owners.withdraw_claim (L.resources h').nodup (free before) t
      · simp [hg]
    | join h' | part h' => cases tentative
    | _ => rw [show A'.pending? = _ from hshift]
  · rw [activity_after_self]
    intro pending r hr
    cases e with
    | record m h' =>
      obtain ⟨rfl, rfl, -⟩ := tentative
      obtain ⟨before, -⟩ := hshift
      have hfound := (turn.requires (inv.fits t)).2.2.1
      have none := inv.unowned h' t hfound r hr
      have same := owners (L.registry h')
      rw [if_neg (by simp [before])] at same
      rw [owner?, same] at none
      exact none
    | clear m h' =>
      rw [hshift.2] at pending
      cases pending
    | join h' | part h' => cases tentative
    | _ =>
      rw [show A'.pending? = _ from hshift] at pending
      exact free pending r hr

/-- Actions that are no turn of the thread and no step change nothing. -/
theorem DiffersByClaim.other {mid fin : State b K} {α : Action K}
    (differs : s.DiffersByClaim L t h mid) (next : mid.next? L α = some fin)
    (other : α.turnOf? ≠ some t) (nostep : ∀ w, α ≠ .step w) : s.DiffersByClaim L t h fin := by
  have registries := registries_eq_of_not_step next nostep
  obtain alike | ⟨e, hα, -, -⟩ := alike_or_turn next t
  · obtain ⟨holders, owners, free⟩ := differs
    rw [← alike.pending?] at free
    refine ⟨fun g => ?_, fun g => ?_, free⟩
    · rw [registries]
      exact holders g
    · rw [registries, alike.pending?]
      exact owners g
  · exact absurd hα other

namespace Attempt

variable {entry : EntryPoint} {αs : List (Action K)} {r : Reply}

/-- Where no other thread takes a step, the ledgers differ by a claim at most. -/
theorem differsByClaim (attempt : s.Attempt L t h entry αs s' r) (denied : r.denies = true)
    (alone : ∀ w, w ≠ t → .step w ∉ αs) : s.DiffersByClaim L t h s' := by
  obtain ⟨last, s₁, ready, hs₁, first, rest⟩ := attempt.start
  refine run?_induction (P := s.DiffersByClaim L t h) ?_ ?_ rest
  · subst hs₁
    refine ⟨fun g => rfl, fun g => ?_, ?_⟩
    · rw [activity_after_self]
      rfl
    · rw [activity_after_self]
      exact nofun
  · intro αs₁ α αs₂ mid fin split before next after differs
    have before' := run?_cons_eq_some.2 ⟨s₁, first, before⟩
    by_cases mine : α.turnOf? = some t
    · obtain ⟨e, A', turn, rfl, tentative⟩ :=
        attempt.turn denied split before' next after mine
      exact differs.turn turn (attempt.reachable.run before').invariant tentative
    · refine differs.other next mine ?_
      rintro w rfl
      have hw : w ≠ t := by
        rintro rfl
        exact mine rfl
      exact alone w hw (by simp [split])

/-- **A failed acquisition leaves no trace.** -/
theorem leavesNoTrace (attempt : s.Attempt L t h entry αs s' r) (denied : r.denies = true) :
    s.LeavesNoTrace L t h entry αs s' := by
  obtain ⟨last, s₁, ready, hs₁, first, rest⟩ := attempt.start
  have inv := attempt.reachable.invariant
  have inv' := (attempt.reachable.run attempt.run).invariant
  have onRecord : ∀ h', s'.OnRecord h' t ↔ s.OnRecord h' t := by
    intro h'
    rw [onRecord_iff_of_ready ready, onRecord_iff_of_ready attempt.returned]
    exact attempt.held_iff denied h'
  refine ⟨attempt.held_iff denied, ?_, ?_, ?_, ?_⟩
  · intro g r
    have hcount := inv.count g r t
    have hcount' := inv'.count g r t
    have hshares : s'.shares L g r t = s.shares L g r t := by
      unfold shares
      simp only [onRecord]
    rw [hshares, ← hcount, Nat.cast_inj] at hcount'
    exact hcount'
  · intro g r
    rw [inv.owner_iff, inv'.owner_iff]
    simp only [onRecord]
  · intro αs₁ α αs₂ mid fin split before next mine
    have after : fin.run? L αs₂ = some s' := by
      have run := attempt.run
      rw [split, ← List.cons_append, run?_append, before] at run
      simpa [run?, next] using run
    have invMid := (attempt.reachable.run before).invariant
    obtain ⟨e, A', turn, rfl, tentative⟩ := attempt.turn denied split before next after mine
    refine ⟨fun g => ?_, fun h' w => ?_, turn.owner?_of_isTentative invMid tentative⟩
    · rw [registries_after, tentative.holders_apply]
    · rw [isHeldBy_after, tentative.isHeldBy_apply]
  · intro alone g
    have differs := attempt.differsByClaim denied alone
    refine ⟨?_, differs.holders g⟩
    rw [differs.owners g, attempt.returned, if_neg]
    rintro ⟨pending, -⟩
    cases pending

end Attempt

/-- A run after which a thread holds a read half. -/
def oneReader : List (Action Nat) := Action.follow 0 (.acquire ⟨0, .read⟩ { manner := .lock }) 13

/-- What happens while a writer claims what the reader holds, finds the reader there, does not wait
and withdraws: the reader starts to leave. -/
def refusedInDrain : List (Action Nat) :=
  List.replicate 13 (.step 1) ++ Action.follow 0 (.unlock ⟨0, .read⟩) 2
    ++ List.replicate 5 (.step 1)

/-- A writer that does not wait for a reader leaves no trace. -/
theorem leavesNoTrace_refusedInDrain :
    (finish .threeLocks oneReader : State .hash Nat).LeavesNoTrace .threeLocks 1 ⟨1, .write⟩
      { manner := .tryLock } refusedInDrain
      (finish .threeLocks (oneReader ++
        .call 1 (.acquire ⟨1, .write⟩ { manner := .tryLock }) :: refusedInDrain)) := by
  have attempt : (finish .threeLocks oneReader : State .hash Nat).Attempt .threeLocks 1
      ⟨1, .write⟩ { manner := .tryLock } refusedInDrain
      (finish .threeLocks (oneReader ++
        .call 1 (.acquire ⟨1, .write⟩ { manner := .tryLock }) :: refusedInDrain))
      (.answer false) :=
    { reachable := reachable_finish oneReader
      run := by decide +kernel
      single := by simp [refusedInDrain, Action.follow]
      returned := by decide +kernel }
  exact attempt.leavesNoTrace rfl

end State

end ResourceLocks.Protocol
