import ResourceLocks.Proofs.Protocol.Failure
import ResourceLocks.Proofs.Protocol.Frame
import ResourceLocks.Proofs.Protocol.MonitorOrder

/-!
# Releases

What the call to release a half does, whether directly or by the dropping of a guard, and whatever
other threads do meanwhile. `State.Releasing` says how far a release has come;
`State.Calling.releasing` that it is always at one of these places.

* A half that is held is released (`State.Calling.endsHold`). The release **ends the hold**: the
  thread leaves this one hold set, and of its entries in the ledgers those of the half are gone
  (`State.EndsHold`).
* Where the half is not held, a release **touches nothing** (`State.Calling.touchesNothing`). The
  dropping of a guard complains to the log then, a direct release to its caller
  (`State.Calling.fails`).
* A release waits for no resources (`State.Calling.goesOn`).
-/

namespace ResourceLocks.Protocol

variable {b : Backing} {K : Type} [Key K]

/-! ## Releases -/

namespace ReleaseStage

/-- The thread has left the hold set. -/
def hasParted : ReleaseStage → Bool
  | begin | looking => false
  | entering | clearing | leaving | concluding => true

/-- The number of steps before the stage. -/
def rank : ReleaseStage → Nat
  | begin => 0
  | looking => 1
  | entering => 2
  | clearing => 3
  | leaving => 4
  | concluding => 5

/-- A release has six stages. -/
theorem rank_lt (stage : ReleaseStage) : stage.rank < 6 := by
  cases stage <;> decide

end ReleaseStage

namespace Release

/-- The call that starts a release. -/
def call (r : Release) : Call K := if r.byGuard then .dropGuard r.half else .unlock r.half

/-- What a release returns that finds the half not held. -/
def failure (r : Release) : Reply :=
  if r.byGuard then .done else .failed (.notHeld r.half.kind)

/-- What a release that finds the half not held writes to the log. -/
def complaint (r : Release) : List Event := if r.byGuard then [.guardFailed r.half] else []

omit [Key K] in
/-- A release begins as the call that it is. -/
theorem start_call (r : Release) (now : Instant) :
    (r.call : Call K).start now = .releasing r .begin := by
  obtain ⟨h, byGuard⟩ := r
  cases byGuard <;> rfl

end Release

/-- Every turn of a release has an effect. -/
theorem ReleaseTurn.ne_nothing {L : Layout K} {s : State b K} {t : ThreadId} {r : Release}
    {stage : ReleaseStage} {e : Effect} {A' : Activity K} (turn : ReleaseTurn L s t r stage e A') :
    e ≠ .nothing := by
  cases turn <;> nofun

namespace State

variable {L : Layout K} {s s' u v : State b K} {t : ThreadId} {h : Half} {α : Action K}
  {βs βs₁ βs₂ : List (Action K)} {r : Release} {reply : Reply}

/-- How far a release has come. -/
inductive Releasing (s : State b K) (t : ThreadId) (r : Release) (βs : List (Action K))
    (u : State b K) : Prop where
  /-- The thread has not found out whether it holds the half. -/
  | before (stage : ReleaseStage) (here : u.activity t = .releasing r stage)
    (count : βs.count (.step t) = stage.rank) (early : stage.hasParted = false)
    (held : ∀ h, u.IsHeldBy h t ↔ s.IsHeldBy h t) (log : u.logOf t = s.logOf t)
  /-- The thread has left the hold set. -/
  | parted (stage : ReleaseStage) (here : u.activity t = .releasing r stage)
    (count : βs.count (.step t) = stage.rank) (late : stage.hasParted = true)
    (holder : s.IsHeldBy r.half t) (held : ∀ h, u.IsHeldBy h t ↔ h ≠ r.half ∧ s.IsHeldBy h t)
    (log : u.logOf t = s.logOf t)
  /-- The half is released. -/
  | done (here : u.activity t = .ready (some .done)) (holder : s.IsHeldBy r.half t)
    (held : ∀ h, u.IsHeldBy h t ↔ h ≠ r.half ∧ s.IsHeldBy h t)
    (log : u.logOf t = .released r.half :: s.logOf t)
  /-- The half was not held. -/
  | failed (here : u.activity t = .ready (some r.failure)) (absent : ¬ s.IsHeldBy r.half t)
    (held : ∀ h, u.IsHeldBy h t ↔ s.IsHeldBy h t) (log : u.logOf t = r.complaint ++ s.logOf t)

/-! ### A release, action by action -/

/-- A step of the thread takes its release to the next stage. -/
theorem Releasing.step {e : Effect} {A' : Activity K} {stage : ReleaseStage}
    (stands : s.Releasing t r βs u) (here : u.activity t = .releasing r stage)
    (turn : ReleaseTurn L u t r stage e A') :
    s.Releasing t r (βs ++ [.step t]) (u.after L t e A') := by
  have hactivity : (u.after L t e A').activity t = A' := activity_after_self ..
  have hlog : (u.after L t e A').logOf t = e.noted?.toList ++ u.logOf t := by
    rw [logOf_after, if_pos rfl]
  have hcount : (βs ++ [Action.step t]).count (Action.step t) = βs.count (Action.step t) + 1 := by
    simp
  have hheld : ∀ h, (u.after L t e A').IsHeldBy h t ↔ (e.apply L t u).IsHeldBy h t :=
    fun h => Iff.rfl
  cases stands with
  | before stage' here' count early held log =>
    rw [here] at here'
    cases here'
    simp only [Effect.isHeldBy_apply] at hheld
    rw [log] at hlog
    rw [count] at hcount
    cases turn with
    | begin free =>
      exact .before .looking hactivity hcount rfl (fun h => (hheld h).trans (held h)) hlog
    | part holder =>
      refine .parted .entering hactivity hcount rfl ((held r.half).1 holder) ?_ hlog
      intro h
      rw [hheld, held]
      simp
    | notHeld absent direct =>
      have hfailure : r.failure = .failed (.notHeld r.half.kind) := if_neg (by simp [direct])
      have hcomplaint : r.complaint = [] := if_neg (by simp [direct])
      refine .failed (hfailure ▸ hactivity) ?_ (fun h => (hheld h).trans (held h)) ?_
      · exact fun holder => absent ((held r.half).2 holder)
      · rw [hcomplaint]
        exact hlog
    | dropFailed absent dropped =>
      have hfailure : r.failure = .done := if_pos dropped
      have hcomplaint : r.complaint = [.guardFailed r.half] := if_pos dropped
      refine .failed (hfailure ▸ hactivity) ?_ (fun h => (hheld h).trans (held h)) ?_
      · exact fun holder => absent ((held r.half).2 holder)
      · rw [hcomplaint]
        exact hlog
    | enter | clear | leave | conclude => cases early
  | parted stage' here' count late holder held log =>
    rw [here] at here'
    cases here'
    simp only [Effect.isHeldBy_apply] at hheld
    rw [log] at hlog
    rw [count] at hcount
    cases turn with
    | begin | part | notHeld | dropFailed => cases late
    | enter free =>
      exact .parted .clearing hactivity hcount rfl holder (fun h => (hheld h).trans (held h)) hlog
    | clear =>
      exact .parted .leaving hactivity hcount rfl holder (fun h => (hheld h).trans (held h)) hlog
    | leave =>
      exact .parted .concluding hactivity hcount rfl holder (fun h => (hheld h).trans (held h)) hlog
    | conclude => exact .done hactivity holder (fun h => (hheld h).trans (held h)) hlog
  | done here' | failed here' =>
    rw [here] at here'
    cases here'

/-- What is no turn of the thread leaves its release where it is. -/
theorem Releasing.bystands (stands : s.Releasing t r βs u) (bystands : u.Bystands t α v) :
    s.Releasing t r (βs ++ [α]) v := by
  have hcount : (βs ++ [α]).count (.step t) = βs.count (.step t) := bystands.count_step βs
  obtain ⟨-, alike, hheld, hlog⟩ := bystands
  cases stands with
  | before stage here count early held log =>
    exact .before stage ((alike.eq_of_awake (by simp [here])).trans here) (hcount.trans count)
      early (fun h => (hheld h).trans (held h)) (hlog.trans log)
  | parted stage here count late holder held log =>
    exact .parted stage ((alike.eq_of_awake (by simp [here])).trans here) (hcount.trans count)
      late holder (fun h => (hheld h).trans (held h)) (hlog.trans log)
  | done here holder held log =>
    exact .done ((alike.eq_of_awake (by simp [here])).trans here) holder
      (fun h => (hheld h).trans (held h)) (hlog.trans log)
  | failed here absent held log =>
    exact .failed ((alike.eq_of_awake (by simp [here])).trans here) absent
      (fun h => (hheld h).trans (held h)) (hlog.trans log)

/-- A release under way is at one of its stages, or has returned. -/
theorem Releasing.cases_activity (stands : s.Releasing t r βs u) :
    (∃ stage, u.activity t = .releasing r stage ∧ βs.count (.step t) = stage.rank) ∨
      ∃ reply, u.activity t = .ready (some reply) := by
  cases stands with
  | before stage here count => exact .inl ⟨stage, here, count⟩
  | parted stage here count => exact .inl ⟨stage, here, count⟩
  | done here | failed here => exact .inr ⟨_, here⟩

/-- **A release goes on** whatever happens, by one stage with every step of its thread. -/
theorem Releasing.next (stands : s.Releasing t r βs u) (next : u.next? L α = some v)
    (nocall : ∀ c, α ≠ .call t c) : s.Releasing t r (βs ++ [α]) v := by
  obtain ⟨e, A', mine, step, turn, rfl⟩ | bystands := turn_or_bystands next t
  · obtain ⟨stage, here, -⟩ | ⟨reply, here⟩ := stands.cases_activity
    · rw [here] at turn
      cases turn with
      | release turn =>
        obtain rfl : α = .step t := step.resolve_right turn.ne_nothing
        exact stands.step here turn
    · exact absurd mine (turnOf?_ne_of_ready next here nocall)
  · exact stands.bystands bystands

/-- **How far a release has come**, at any time after the call. -/
theorem Calling.releasing (calling : s.Calling L t r.call βs s') : s.Releasing t r βs s' := by
  refine calling.induction (P := s.Releasing t r) ?_ ?_
  · refine .before .begin ?_ rfl rfl (fun h => Iff.rfl) ?_
    · rw [activity_after_self, Release.start_call]
    · rw [logOf_after, if_pos rfl]
      rfl
  · intro βs α u v _ next nocall stands
    exact stands.next next nocall

/-! ### What a release ends -/

/-- A thread has lost its hold of a half, and nothing else: it is in no hold set less but that of
the half, owns all it owned but the resources of the half, and has one hold less on these. -/
structure EndsHold (L : Layout K) (s : State b K) (t : ThreadId) (h : Half) (s' : State b K) :
    Prop where
  /-- The thread holds what it held, but for the half. -/
  held : ∀ h', s'.IsHeldBy h' t ↔ h' ≠ h ∧ s.IsHeldBy h' t
  /-- The thread owns what it owned, but for the resources of the half. -/
  owned : ∀ g r, s'.owner? g r = some t ↔ s.owner? g r = some t ∧ ¬ Covers L .write g r h
  /-- The thread has the holds that it had, but for one on every resource of the half. -/
  counted : ∀ g r,
    s.holdCount g r t = s'.holdCount g r t + if Covers L .read g r h then 1 else 0

/-- **Between calls the ledgers follow the hold sets**: a thread that has left one hold set has
lost the entries of its half, and no others. -/
theorem EndsHold.of_held {last last' : Option Reply} (inv : s.Invariant L) (inv' : s'.Invariant L)
    (ready : s.activity t = .ready last) (ready' : s'.activity t = .ready last')
    (holder : s.IsHeldBy h t) (held : ∀ h', s'.IsHeldBy h' t ↔ h' ≠ h ∧ s.IsHeldBy h' t) :
    s.EndsHold L t h s' := by
  have onRecord : ∀ h', s'.OnRecord h' t ↔ h' ≠ h ∧ s.OnRecord h' t := by
    intro h'
    rw [onRecord_iff_of_ready ready, onRecord_iff_of_ready ready', held]
  have recorded : s.OnRecord h t := .inl holder
  refine ⟨held, ?_, ?_⟩
  · intro g r
    rw [inv.owner_iff, inv'.owner_iff]
    constructor
    · rintro ⟨h', covers', rec'⟩
      obtain ⟨hne, rec⟩ := (onRecord h').1 rec'
      refine ⟨⟨h', covers', rec⟩, fun covers => hne ?_⟩
      exact (inv.unique g r h' h t t covers' covers rec recorded).1
    · rintro ⟨⟨h', covers', rec⟩, uncovered⟩
      exact ⟨h', covers', (onRecord h').2 ⟨covers'.ne uncovered, rec⟩⟩
  · intro g r
    have hcount := inv.count g r t
    have hcount' := inv'.count g r t
    by_cases covers : Covers L .read g r h
    · have hinsert : s.shares L g r t = insert h (s'.shares L g r t) := by
        ext h'
        simp only [shares, Set.mem_insert_iff, Set.mem_ofPred_eq, onRecord]
        by_cases hh : h' = h
        · simp [hh, covers, recorded]
        · simp [hh]
      have hnotMem : h ∉ s'.shares L g r t := fun mem => ((onRecord h).1 mem.2).1 rfl
      rw [hinsert, Set.encard_insert_of_notMem hnotMem, ← hcount'] at hcount
      rw [if_pos covers]
      exact_mod_cast hcount
    · have hsame : s.shares L g r t = s'.shares L g r t := by
        ext h'
        simp only [shares, Set.mem_ofPred_eq, onRecord]
        constructor
        · rintro ⟨covers', rec⟩
          exact ⟨covers', covers'.ne covers, rec⟩
        · rintro ⟨covers', -, rec⟩
          exact ⟨covers', rec⟩
      rw [hsame, ← hcount'] at hcount
      rw [if_neg covers]
      exact_mod_cast hcount

/-- **A release of a half that is held ends the hold.** -/
theorem Calling.endsHold (calling : s.Calling L t r.call βs s') (holder : s.IsHeldBy r.half t)
    (returned : s'.activity t = .ready (some reply)) :
    reply = .done ∧ s.EndsHold L t r.half s' ∧ s'.logOf t = .released r.half :: s.logOf t := by
  obtain ⟨last, -, ready, -, -, -⟩ := calling.start
  have inv := calling.reachable.invariant
  have inv' := calling.reachable'.invariant
  cases calling.releasing with
  | before stage here | parted stage here =>
    rw [returned] at here
    cases here
  | done here _ held log =>
    refine ⟨?_, .of_held inv inv' ready returned holder held, log⟩
    rw [returned] at here
    cases here
    rfl
  | failed _ absent => exact absurd holder absent

/-! ### What a release leaves alone -/

/-- All ledgers and all hold sets are the same. -/
structure SameRecords (s s' : State b K) : Prop where
  /-- The ledgers of owners are the same. -/
  owners : ∀ g, (s'.registries.get g).owners = (s.registries.get g).owners
  /-- The ledgers of holders are the same. -/
  holders : ∀ g, (s'.registries.get g).holders = (s.registries.get g).holders
  /-- The same threads hold the same halves. -/
  held : ∀ h w, s'.IsHeldBy h w ↔ s.IsHeldBy h w

/-- No step that the thread takes in a release changes a ledger or a hold set. -/
def TouchesNothing (L : Layout K) (s : State b K) (t : ThreadId) (r : Release)
    (βs : List (Action K)) : Prop :=
  ∀ βs₁ α βs₂ u v, βs = βs₁ ++ α :: βs₂ → s.run? L (.call t r.call :: βs₁) = some u →
    u.next? L α = some v → α.turnOf? = some t → u.SameRecords v

/-- A release that finds the half not held enters the mutex of its hold set and leaves it. -/
theorem sameRecords_of_releaseTurn {e : Effect} {A' : Activity K} {stage : ReleaseStage}
    (turn : ReleaseTurn L u t r stage e A') (early : stage.hasParted = false)
    (absent : ¬ u.IsHeldBy r.half t) : u.SameRecords (u.after L t e A') := by
  refine ⟨fun g => ?_, fun g => ?_, fun h w => ?_⟩
  · rw [registries_after, Effect.owners_apply]
    cases turn with
    | clear => cases early
    | _ => rfl
  · rw [registries_after, Effect.holders_apply]
    cases turn with
    | clear => cases early
    | _ => rfl
  · rw [isHeldBy_after, Effect.isHeldBy_apply]
    cases turn with
    | part holder => exact absurd holder absent
    | _ => exact Iff.rfl

/-- **A release of a half that is not held touches nothing.** -/
theorem Calling.touchesNothing (calling : s.Calling L t r.call βs s')
    (absent : ¬ s.IsHeldBy r.half t) : s.TouchesNothing L t r βs := by
  intro βs₁ α βs₂ u v split before next mine
  have part := calling.take split before
  obtain ⟨w, e, A', hw, -, turn, rfl⟩ | ⟨hnone, -⟩ := next?_cases next
  · rw [mine] at hw
    cases hw
    cases part.releasing with
    | before stage here _ early held =>
      rw [here] at turn
      cases turn with
      | release turn =>
        exact sameRecords_of_releaseTurn turn early fun holder => absent ((held r.half).1 holder)
    | parted _ _ _ _ holder => exact absurd holder absent
    | done _ holder => exact absurd holder absent
    | failed here =>
      refine absurd mine (turnOf?_ne_of_ready next here ?_)
      rintro c rfl
      exact calling.single c (by simp [split])
  · rw [mine] at hnone
    cases hnone

/-- What a release returns that finds the half not held. -/
theorem Calling.fails (calling : s.Calling L t r.call βs s') (absent : ¬ s.IsHeldBy r.half t)
    (returned : s'.activity t = .ready (some reply)) :
    reply = r.failure ∧ s'.logOf t = r.complaint ++ s.logOf t := by
  cases calling.releasing with
  | before stage here =>
    rw [returned] at here
    cases here
  | parted _ _ _ _ holder => exact absurd holder absent
  | done _ holder => exact absurd holder absent
  | failed here _ _ log =>
    rw [returned] at here
    cases here
    exact ⟨rfl, log⟩

/-- A thread that is awake in a call can take its next step, or queues behind another one. -/
theorem Reachable.canStep_or_queuesBehind (reachable : Reachable L s)
    (busy : ∀ last, s.activity t ≠ .ready last)
    (awake : ∀ a m wakeAt, s.activity t ≠ .acquiring a (.asleep m false wakeAt)) :
    s.CanStep L t ∨ ∃ w, s.QueuesBehind L t w := by
  by_contra! stuck
  obtain ⟨cannot, alone⟩ := stuck
  refine cannot (reachable.canStep busy awake ?_ ?_)
  · intro g m asks
    rw [Option.eq_none_iff_forall_ne_some]
    intro w inside
    exact alone w (.inl ⟨g, m, asks, inside⟩)
  · intro h asked
    rw [Option.eq_none_iff_forall_ne_some]
    intro w inside
    exact alone w (.inr ⟨h, asked, inside⟩)

/-- **A release returns after six steps of its thread at the latest**, and until then it can take
the next one unless somebody is inside what it asks for. -/
theorem Calling.goesOn (calling : s.Calling L t r.call βs s')
    (busy : ∀ last, s'.activity t ≠ .ready last) :
    βs.count (.step t) < 6 ∧ (s'.CanStep L t ∨ ∃ w, s'.QueuesBehind L t w) := by
  obtain ⟨stage, here, count⟩ | ⟨reply, here⟩ := calling.releasing.cases_activity
  · refine ⟨count ▸ stage.rank_lt, ?_⟩
    exact calling.reachable'.canStep_or_queuesBehind busy (by simp [here])
  · exact absurd here (busy _)

end State

end ResourceLocks.Protocol
