import ResourceLocks.Proofs.Protocol.Effect

/-!
# The turns of a thread

A **turn** is one move of one thread: the stage it is in, the effect of the move on what threads
share, and what the thread does next. `State.Turn` lists all turns, with their guards:

* `AcquireTurn`, `ReleaseTurn`, `AskTurn` are the rules of the three kinds of call;
* a thread that is doing nothing makes a call;
* a bounded wait for a monitor ends, or a sleeper wakes because its time is up.

**Every action is a turn or leaves calls alone** (`State.next?_cases`): whatever happens in a state
is either a turn of the thread that acts, and the new state is exactly the effect of the turn with
the thread in its next activity, or it changes nothing but flags and the clock. What a run keeps is
therefore proved on turns (`State.Reachable.activity_of_turn` for facts about single activities).
-/

namespace ResourceLocks.Protocol

variable {b : Backing} {K : Type} [Key K]

/-! ## The rules -/

/-- The effect with which an acquisition ends: a note unless it ends in an error. -/
def Effect.conclude (h : Half) : Verdict → Effect
  | .acquired => .note (.finished h true)
  | .refused => .note (.finished h false)
  | .interrupted => .nothing

/-- The thread heeds interrupts and its flag is set. -/
def State.Heeds (s : State b K) (t : ThreadId) (a : Acquisition) : Prop :=
  a.patience.heedsInterrupts = true ∧ s.isInterrupted t = true

/-- The turns of an acquisition. -/
inductive AcquireTurn (L : Layout K) (s : State b K) (t : ThreadId) (a : Acquisition) :
    AcquireStage → Effect → Activity K → Prop where
  /-- The mutex of the hold set is entered. -/
  | begin (free : (s.holds.get a.half).mutex = none) :
    AcquireTurn L s t a .begin (.enterMutex a.half) (.acquiring a .looking)
  /-- The thread holds the half already. -/
  | alreadyHeld (held : s.IsHeldBy a.half t) :
    AcquireTurn L s t a .looking (.exitMutex a.half none)
      (.ready (some (.failed (.alreadyHeld a.half.kind))))
  /-- The thread does not hold the half. -/
  | look (absent : ¬ s.IsHeldBy a.half t) :
    AcquireTurn L s t a .looking (.exitMutex a.half none) (.acquiring a (.approaching .owner))
  /-- The thread finds its interrupt flag set before a monitor. -/
  | heed (m : Monitor) (heeds : s.Heeds t a) :
    AcquireTurn L s t a (.approaching m) .heed (.acquiring a (.givingUp a.half.kind m .interrupted))
  /-- The thread goes up to a monitor. -/
  | approach (m : Monitor) (calm : ¬ s.Heeds t a) :
    AcquireTurn L s t a (.approaching m) .nothing (.acquiring a (.entering m))
  /-- The thread enters a monitor. -/
  | enter (m : Monitor) (free : (s.registries.get (L.registry a.half)).inside m = none) :
    AcquireTurn L s t a (.entering m) (.enter (L.registry a.half) m)
      (.acquiring a (.entered a.half.kind m))
  /-- The thread finds another one inside and does not wait. -/
  | barred (m : Monitor) (taken : (s.registries.get (L.registry a.half)).inside m ≠ none)
      (hasty : a.patience = .immediate) :
    AcquireTurn L s t a (.entering m) .nothing
      (.acquiring a (.givingUp a.half.kind m .refused))
  /-- The resources are free. -/
  | free (m : Monitor)
      (free : (s.registries.get (L.registry a.half)).isFree m (L.resources a.half).items = true) :
    AcquireTurn L s t a (.testing m) .nothing (.acquiring a (.free a.half.kind m))
  /-- Some resource is not free. -/
  | taken (m : Monitor)
      (taken : (s.registries.get (L.registry a.half)).isFree m (L.resources a.half).items = false) :
    AcquireTurn L s t a (.testing m) .nothing (.acquiring a (.taken m))
  /-- The thread finds its interrupt flag set while it waits. -/
  | heedInside (m : Monitor) (heeds : s.Heeds t a) :
    AcquireTurn L s t a (.taken m) .heed (.acquiring a (.leaving m .interrupted))
  /-- The thread goes on waiting. -/
  | settle (m : Monitor) (calm : ¬ s.Heeds t a) :
    AcquireTurn L s t a (.taken m) .nothing (.acquiring a (.settling m))
  /-- There is no time left to wait. -/
  | refuse (m : Monitor)
      (expired : a.patience.sleep? s.now (L.interval (L.registry a.half)) = none) :
    AcquireTurn L s t a (.settling m) .nothing (.acquiring a (.leaving m .refused))
  /-- The thread falls asleep and leaves the monitor. -/
  | sleep (m : Monitor) (length : Option Nat)
      (left : a.patience.sleep? s.now (L.interval (L.registry a.half)) = some length) :
    AcquireTurn L s t a (.settling m) (.exit (L.registry a.half) m)
      (.acquiring a (.asleep m false (length.map (s.now + ·))))
  /-- The thread wakes because it was notified. -/
  | wake (m : Monitor) (wakeAt : Option Instant) :
    AcquireTurn L s t a (.asleep m true wakeAt) .nothing (.acquiring a (.woken m))
  /-- The thread enters the monitor again. -/
  | reenter (m : Monitor) (free : (s.registries.get (L.registry a.half)).inside m = none) :
    AcquireTurn L s t a (.woken m) (.enter (L.registry a.half) m) (.acquiring a (.testing m))
  /-- The acquisition is recorded. -/
  | record (m : Monitor) :
    AcquireTurn L s t a (.recordingIn m) (.record m a.half) (.acquiring a (.recorded m))
  /-- A writer leaves the owner monitor with its claim. -/
  | claim :
    AcquireTurn L s t a .claimed (.exit (L.registry a.half) .owner)
      (.acquiring a (.approaching .holder))
  /-- The thread leaves a monitor with a verdict. -/
  | leave (m : Monitor) (v : Verdict) :
    AcquireTurn L s t a (.leaving m v) (.exit (L.registry a.half) m)
      (.acquiring a (.left a.half.kind m v))
  /-- A writer reports that it withdraws its claim. -/
  | withdraw (v : Verdict) :
    AcquireTurn L s t a (.withdrawing v) (.note (.rolledBack a.half false))
      (.acquiring a (.returning v))
  /-- A writer enters the owner monitor to withdraw its claim. -/
  | goBack (v : Verdict) (free : (s.registries.get (L.registry a.half)).inside .owner = none) :
    AcquireTurn L s t a (.returning v) (.enter (L.registry a.half) .owner)
      (.acquiring a (.unclaiming v))
  /-- A writer clears its claim. -/
  | unclaim (v : Verdict) :
    AcquireTurn L s t a (.unclaiming v) (.clear .owner a.half) (.acquiring a (.leaving .owner v))
  /-- The mutex of the hold set is entered again. -/
  | approachMutex (free : (s.holds.get a.half).mutex = none) :
    AcquireTurn L s t a .joining (.enterMutex a.half) (.acquiring a .noting)
  /-- The thread joins the hold set. -/
  | join : AcquireTurn L s t a .noting (.join a.half) (.acquiring a (.concluding .acquired))
  /-- The call returns. -/
  | conclude (v : Verdict) :
    AcquireTurn L s t a (.concluding v) (.conclude a.half v) (.ready (some (a.reply v)))

/-- The turns of a release. -/
inductive ReleaseTurn (L : Layout K) (s : State b K) (t : ThreadId) (r : Release) :
    ReleaseStage → Effect → Activity K → Prop where
  /-- The mutex of the hold set is entered. -/
  | begin (free : (s.holds.get r.half).mutex = none) :
    ReleaseTurn L s t r .begin (.enterMutex r.half) (.releasing r .looking)
  /-- The thread parts from the hold set. -/
  | part (held : s.IsHeldBy r.half t) :
    ReleaseTurn L s t r .looking (.part r.half) (.releasing r .entering)
  /-- The thread does not hold the half. -/
  | notHeld (absent : ¬ s.IsHeldBy r.half t) (direct : r.byGuard = false) :
    ReleaseTurn L s t r .looking (.exitMutex r.half none)
      (.ready (some (.failed (.notHeld r.half.kind))))
  /-- A guard is dropped whose half the thread does not hold. -/
  | dropFailed (absent : ¬ s.IsHeldBy r.half t) (dropped : r.byGuard = true) :
    ReleaseTurn L s t r .looking (.exitMutex r.half (some (.guardFailed r.half)))
      (.ready (some .done))
  /-- The thread enters the monitor of the half. -/
  | enter (free : (s.registries.get (L.registry r.half)).inside (.ofKind r.half.kind) = none) :
    ReleaseTurn L s t r .entering (.enter (L.registry r.half) (.ofKind r.half.kind))
      (.releasing r .clearing)
  /-- The half is taken out of its ledger. -/
  | clear :
    ReleaseTurn L s t r .clearing (.clear (.ofKind r.half.kind) r.half) (.releasing r .leaving)
  /-- The thread leaves the monitor of the half. -/
  | leave :
    ReleaseTurn L s t r .leaving (.exit (L.registry r.half) (.ofKind r.half.kind))
      (.releasing r .concluding)
  /-- The call returns. -/
  | conclude :
    ReleaseTurn L s t r .concluding (.note (.released r.half)) (.ready (some .done))

/-- The turns of a question. -/
inductive AskTurn (s : State b K) (t : ThreadId) (q : Query K) :
    QueryStage → Effect → Activity K → Prop where
  /-- The owner monitor is entered on the way to the holder monitor. -/
  | descend (g : RegistryId) (owner : q.LooksIn g .owner) (holder : q.LooksIn g .holder)
      (free : (s.registries.get g).inside .owner = none) :
    AskTurn s t q .begin (.enter g .owner) (.asking q .descending)
  /-- The holder monitor is entered from inside the owner monitor. -/
  | reach (g : RegistryId) (owner : q.LooksIn g .owner) (holder : q.LooksIn g .holder)
      (free : (s.registries.get g).inside .holder = none) :
    AskTurn s t q .descending (.enter g .holder) (.asking q .reading)
  /-- The only monitor is entered. -/
  | enter (g : RegistryId) (m : Monitor) (looks : q.LooksIn g m)
      (only : ∀ m', q.LooksIn g m' → m' = m) (free : (s.registries.get g).inside m = none) :
    AskTurn s t q .begin (.enter g m) (.asking q .reading)
  /-- The answer is read inside the holder monitor. -/
  | readHolders (g : RegistryId) (looks : q.LooksIn g .holder) :
    AskTurn s t q .reading .nothing (.asking q (.leavingHolder (s.answer t q)))
  /-- The answer is read inside the owner monitor alone. -/
  | readOwners (g : RegistryId) (looks : q.LooksIn g .owner) (other : ¬ q.LooksIn g .holder) :
    AskTurn s t q .reading .nothing (.asking q (.leavingOwner (s.answer t q)))
  /-- The holder monitor is left for the owner monitor. -/
  | ascend (g : RegistryId) (answer : Reply) (owner : q.LooksIn g .owner)
      (holder : q.LooksIn g .holder) :
    AskTurn s t q (.leavingHolder answer) (.exit g .holder) (.asking q (.leavingOwner answer))
  /-- The holder monitor is left, and the call returns. -/
  | leaveHolder (g : RegistryId) (answer : Reply) (other : ¬ q.LooksIn g .owner)
      (looks : q.LooksIn g .holder) :
    AskTurn s t q (.leavingHolder answer) (.exit g .holder) (.ready (some answer))
  /-- The owner monitor is left, and the call returns. -/
  | leaveOwner (g : RegistryId) (answer : Reply) (looks : q.LooksIn g .owner) :
    AskTurn s t q (.leavingOwner answer) (.exit g .owner) (.ready (some answer))
  /-- The mutex of a hold set is entered. -/
  | enterMutex (h : Half) (asked : q = .isHeld h) (free : (s.holds.get h).mutex = none) :
    AskTurn s t q .begin (.enterMutex h) (.asking q .reading)
  /-- The hold set is read, its mutex left, and the call returns. -/
  | leaveMutex (h : Half) (asked : q = .isHeld h) :
    AskTurn s t q .reading (.exitMutex h none) (.ready (some (s.answer t q)))

/-- The turns of a thread. -/
inductive State.Turn (L : Layout K) (s : State b K) (t : ThreadId) :
    Activity K → Effect → Activity K → Prop where
  /-- A call is made. -/
  | call (last : Option Reply) (c : Call K) : Turn L s t (.ready last) .nothing (c.start s.now)
  /-- An acquisition goes on. -/
  | acquire {a : Acquisition} {stage : AcquireStage} {e : Effect} {A' : Activity K}
      (turn : AcquireTurn L s t a stage e A') : Turn L s t (.acquiring a stage) e A'
  /-- A release goes on. -/
  | release {r : Release} {stage : ReleaseStage} {e : Effect} {A' : Activity K}
      (turn : ReleaseTurn L s t r stage e A') : Turn L s t (.releasing r stage) e A'
  /-- A question goes on. -/
  | ask {q : Query K} {stage : QueryStage} {e : Effect} {A' : Activity K}
      (turn : AskTurn s t q stage e A') : Turn L s t (.asking q stage) e A'
  /-- A bounded wait for a monitor ends. -/
  | expire (a : Acquisition) (m : Monitor) (deadline : Instant)
      (bounded : a.patience = .bounded deadline) (due : deadline ≤ s.now) :
    Turn L s t (.acquiring a (.entering m)) .nothing
      (.acquiring a (.givingUp a.half.kind m .refused))
  /-- A sleeper wakes because its time is up. -/
  | rouse (a : Acquisition) (m : Monitor) (notified : Bool) (wakeAt : Instant)
      (due : wakeAt ≤ s.now) :
    Turn L s t (.acquiring a (.asleep m notified (some wakeAt))) .nothing
      (.acquiring a (.woken m))

/-! ## Every action is a turn or leaves calls alone -/

namespace State

variable {L : Layout K} {s s' : State b K} {t : ThreadId}

/-- A monitor is entered if nobody is inside. -/
theorem enter?_eq_some_iff {g : RegistryId} {m : Monitor} :
    s.enter? g m t = some s' ↔
      (s.registries.get g).inside m = none ∧ s' = (Effect.enter g m).apply L t s := by
  unfold enter?
  cases (s.registries.get g).inside m with
  | none => simp [Effect.apply, eq_comm]
  | some u => simp

/-- The mutex of a hold set is entered if nobody is inside. -/
theorem enterMutex?_eq_some_iff {h : Half} :
    s.enterMutex? h t = some s' ↔
      (s.holds.get h).mutex = none ∧ s' = (Effect.enterMutex h).apply L t s := by
  unfold enterMutex?
  cases (s.holds.get h).mutex with
  | none => simp [Effect.apply, eq_comm]
  | some u => simp

/-- A thread that has gone on inside a monitor has entered it. -/
theorem entered_of_step {g : RegistryId} {m : Monitor} {A' : Activity K}
    (step : (s.enter? g m t).map (·.setActivity t A') = some s') :
    (s.registries.get g).inside m = none ∧ s' = s.after L t (.enter g m) A' := by
  obtain ⟨u, entered, rfl⟩ := Option.map_eq_some_iff.1 step
  obtain ⟨free, rfl⟩ := (enter?_eq_some_iff (L := L)).1 entered
  exact ⟨free, rfl⟩

/-- A thread that has gone on inside the mutex of a hold set has entered it. -/
theorem enteredMutex_of_step {h : Half} {A' : Activity K}
    (step : (s.enterMutex? h t).map (·.setActivity t A') = some s') :
    (s.holds.get h).mutex = none ∧ s' = s.after L t (.enterMutex h) A' := by
  obtain ⟨u, entered, rfl⟩ := Option.map_eq_some_iff.1 step
  obtain ⟨free, rfl⟩ := (enterMutex?_eq_some_iff (L := L)).1 entered
  exact ⟨free, rfl⟩

/-- Every step of an acquisition is one of its turns. -/
theorem acquireTurn_of_step {a : Acquisition} {stage : AcquireStage}
    (step : s.acquireStep? L t a stage = some s') :
    ∃ e A', AcquireTurn L s t a stage e A' ∧ s' = s.after L t e A' := by
  cases stage with
  | begin =>
    obtain ⟨free, rfl⟩ := enteredMutex_of_step (L := L) step
    exact ⟨_, _, .begin free, rfl⟩
  | looking =>
    simp only [acquireStep?] at step
    split at step
    · rename_i held
      cases step
      exact ⟨_, _, .alreadyHeld held, rfl⟩
    · rename_i absent
      cases step
      exact ⟨_, _, .look absent, rfl⟩
  | approaching m =>
    simp only [acquireStep?, Bool.and_eq_true] at step
    split at step
    · rename_i heeds
      cases step
      exact ⟨_, _, .heed m heeds, rfl⟩
    · rename_i calm
      cases step
      exact ⟨_, _, .approach m calm, rfl⟩
  | entering m =>
    simp only [acquireStep?] at step
    split at step
    · rename_i s₁ hs₁
      obtain ⟨free, rfl⟩ := (enter?_eq_some_iff (L := L)).1 hs₁
      cases step
      exact ⟨_, _, .enter m free, rfl⟩
    · rename_i hnone
      have taken : (s.registries.get (L.registry a.half)).inside m ≠ none := by
        intro hfree
        simp [enter?, hfree] at hnone
      split at step
      · rename_i hasty
        cases step
        exact ⟨_, _, .barred m taken hasty, rfl⟩
      · cases step
  | testing m =>
    cases step
    cases hfree : (s.registries.get (L.registry a.half)).isFree m (L.resources a.half).items with
    | false => exact ⟨_, _, .taken m hfree, rfl⟩
    | true => exact ⟨_, _, .free m hfree, rfl⟩
  | taken m =>
    simp only [acquireStep?, Bool.and_eq_true] at step
    split at step
    · rename_i heeds
      cases step
      exact ⟨_, _, .heedInside m heeds, rfl⟩
    · rename_i calm
      cases step
      exact ⟨_, _, .settle m calm, rfl⟩
  | settling m =>
    simp only [acquireStep?] at step
    split at step
    · rename_i expired
      cases step
      exact ⟨_, _, .refuse m expired, rfl⟩
    · rename_i length left
      cases step
      exact ⟨_, _, .sleep m length left, rfl⟩
  | asleep m notified wakeAt =>
    cases notified with
    | false => cases step
    | true =>
      cases step
      exact ⟨_, _, .wake m wakeAt, rfl⟩
  | woken m =>
    obtain ⟨free, rfl⟩ := entered_of_step (L := L) step
    exact ⟨_, _, .reenter m free, rfl⟩
  | recordingIn m =>
    cases step
    exact ⟨_, _, .record m, rfl⟩
  | claimed =>
    cases step
    exact ⟨_, _, .claim, rfl⟩
  | leaving m v =>
    cases step
    exact ⟨_, _, .leave m v, rfl⟩
  | withdrawing v =>
    cases step
    exact ⟨_, _, .withdraw v, rfl⟩
  | returning v =>
    obtain ⟨free, rfl⟩ := entered_of_step (L := L) step
    exact ⟨_, _, .goBack v free, rfl⟩
  | unclaiming v =>
    cases step
    exact ⟨_, _, .unclaim v, rfl⟩
  | joining =>
    obtain ⟨free, rfl⟩ := enteredMutex_of_step (L := L) step
    exact ⟨_, _, .approachMutex free, rfl⟩
  | noting =>
    cases step
    exact ⟨_, _, .join, rfl⟩
  | concluding v =>
    cases step
    refine ⟨_, _, .conclude v, ?_⟩
    cases v <;> rfl

/-- Every step of a release is one of its turns. -/
theorem releaseTurn_of_step {r : Release} {stage : ReleaseStage}
    (step : s.releaseStep? L t r stage = some s') :
    ∃ e A', ReleaseTurn L s t r stage e A' ∧ s' = s.after L t e A' := by
  cases stage with
  | begin =>
    obtain ⟨free, rfl⟩ := enteredMutex_of_step (L := L) step
    exact ⟨_, _, .begin free, rfl⟩
  | looking =>
    simp only [releaseStep?] at step
    split at step
    · rename_i held
      cases step
      exact ⟨_, _, .part held, rfl⟩
    · rename_i absent
      split at step
      · rename_i dropped
        cases step
        exact ⟨_, _, .dropFailed absent dropped, rfl⟩
      · rename_i direct
        cases step
        exact ⟨_, _, .notHeld absent (by simpa using direct), rfl⟩
  | entering =>
    obtain ⟨free, rfl⟩ := entered_of_step (L := L) step
    exact ⟨_, _, .enter free, rfl⟩
  | clearing =>
    cases step
    exact ⟨_, _, .clear, rfl⟩
  | leaving =>
    cases step
    exact ⟨_, _, .leave, rfl⟩
  | concluding =>
    cases step
    exact ⟨_, _, .conclude, rfl⟩

/-- Every step of a question is one of its turns. -/
theorem askTurn_of_step {q : Query K} {stage : QueryStage}
    (step : s.queryStep? t q stage = some s') :
    ∃ e A', AskTurn s t q stage e A' ∧ s' = s.after L t e A' := by
  cases q with
  | status g r | counts g =>
    cases stage with
    | begin =>
      obtain ⟨free, rfl⟩ := entered_of_step (L := L) step
      exact ⟨_, _, .descend g rfl rfl free, rfl⟩
    | descending =>
      obtain ⟨free, rfl⟩ := entered_of_step (L := L) step
      exact ⟨_, _, .reach g rfl rfl free, rfl⟩
    | reading =>
      cases step
      exact ⟨_, _, .readHolders g rfl, rfl⟩
    | leavingHolder answer =>
      cases step
      exact ⟨_, _, .ascend g answer rfl rfl, rfl⟩
    | leavingOwner answer =>
      cases step
      exact ⟨_, _, .leaveOwner g answer rfl, rfl⟩
  | isExclusiveFree g rs =>
    have hnot : ¬ (Query.isExclusiveFree g rs).LooksIn g .holder := by
      rintro ⟨-, hm⟩
      cases hm
    cases stage with
    | begin =>
      obtain ⟨free, rfl⟩ := entered_of_step (L := L) step
      exact ⟨_, _, .enter g .owner ⟨rfl, rfl⟩ (fun _ looks => looks.2) free, rfl⟩
    | reading =>
      cases step
      exact ⟨_, _, .readOwners g ⟨rfl, rfl⟩ hnot, rfl⟩
    | leavingOwner answer =>
      cases step
      exact ⟨_, _, .leaveOwner g answer ⟨rfl, rfl⟩, rfl⟩
    | _ => cases step
  | isSharedFree g rs =>
    have hnot : ¬ (Query.isSharedFree g rs).LooksIn g .owner := by
      rintro ⟨-, hm⟩
      cases hm
    cases stage with
    | begin =>
      obtain ⟨free, rfl⟩ := entered_of_step (L := L) step
      exact ⟨_, _, .enter g .holder ⟨rfl, rfl⟩ (fun _ looks => looks.2) free, rfl⟩
    | reading =>
      cases step
      exact ⟨_, _, .readHolders g ⟨rfl, rfl⟩, rfl⟩
    | leavingHolder answer =>
      cases step
      exact ⟨_, _, .leaveHolder g answer hnot ⟨rfl, rfl⟩, rfl⟩
    | _ => cases step
  | isHeld h =>
    cases stage with
    | begin =>
      obtain ⟨free, rfl⟩ := enteredMutex_of_step (L := L) step
      exact ⟨_, _, .enterMutex h rfl free, rfl⟩
    | reading =>
      cases step
      exact ⟨_, _, .leaveMutex h rfl, rfl⟩
    | _ => cases step

/-- Every step of a thread is one of its turns. -/
theorem turn_of_step (step : s.step? L t = some s') :
    ∃ e A', s.Turn L t (s.activity t) e A' ∧ s' = s.after L t e A' := by
  unfold step? at step
  cases hA : s.activity t with
  | ready last =>
    rw [hA] at step
    cases step
  | acquiring a stage =>
    rw [hA] at step
    obtain ⟨e, A', turn, rfl⟩ := acquireTurn_of_step step
    exact ⟨e, A', .acquire turn, rfl⟩
  | releasing r stage =>
    rw [hA] at step
    obtain ⟨e, A', turn, rfl⟩ := releaseTurn_of_step step
    exact ⟨e, A', .release turn, rfl⟩
  | asking q stage =>
    rw [hA] at step
    obtain ⟨e, A', turn, rfl⟩ := askTurn_of_step (L := L) step
    exact ⟨e, A', .ask turn, rfl⟩

/-- Nothing has changed but flags and the clock. -/
structure Undisturbed (s s' : State b K) : Prop where
  /-- The registries are the same. -/
  registries : s'.registries = s.registries
  /-- The hold sets are the same. -/
  holds : s'.holds = s.holds
  /-- Every thread does what it did. -/
  activity : ∀ u, s'.activity u = s.activity u

end State

/-- The thread whose turn an action is. -/
def Action.turnOf? : Action K → Option ThreadId
  | .call t _ | .step t | .expire t | .rouse t => some t
  | .interrupt _ | .clearFlag _ | .pass _ => none

/-- **Every action is a turn or leaves calls alone.** A turn that is no step has no effect. -/
theorem State.next?_cases {L : Layout K} {s s' : State b K} {α : Action K}
    (next : s.next? L α = some s') :
    (∃ t e A', α.turnOf? = some t ∧ (α = .step t ∨ e = .nothing) ∧
      s.Turn L t (s.activity t) e A' ∧ s' = s.after L t e A') ∨
    (α.turnOf? = none ∧ s.Undisturbed s') := by
  cases α with
  | call t c =>
    simp only [State.next?] at next
    split at next
    · rename_i last hA
      cases next
      exact .inl ⟨t, .nothing, _, rfl, .inr rfl, hA ▸ .call last c, rfl⟩
    · cases next
  | step t =>
    obtain ⟨e, A', turn, rfl⟩ := turn_of_step next
    exact .inl ⟨t, e, A', rfl, .inl rfl, turn, rfl⟩
  | expire t =>
    simp only [State.next?, State.expire?] at next
    split at next
    · rename_i a m hA
      split at next
      · rename_i deadline bounded
        split at next
        · rename_i due
          cases next
          exact .inl ⟨t, .nothing, _, rfl, .inr rfl, hA ▸ .expire a m deadline bounded due, rfl⟩
        · cases next
      · cases next
    · cases next
  | rouse t =>
    simp only [State.next?, State.rouse?] at next
    split at next
    · rename_i a m notified wakeAt hA
      split at next
      · rename_i due
        cases next
        exact .inl ⟨t, .nothing, _, rfl, .inr rfl, hA ▸ .rouse a m notified wakeAt due, rfl⟩
      · cases next
    · cases next
  | interrupt t =>
    cases next
    exact .inr ⟨rfl, rfl, rfl, fun u => State.activity_setInterrupted s t u true⟩
  | clearFlag t =>
    simp only [State.next?] at next
    split at next
    · cases next
      exact .inr ⟨rfl, rfl, rfl, fun u => State.activity_setInterrupted s t u false⟩
    · cases next
  | pass nanos =>
    cases next
    exact .inr ⟨rfl, rfl, rfl, fun u => rfl⟩

/-! ## What turns keep, runs keep -/

/-- **Facts about single activities**: what holds of a thread that is doing nothing, is kept by
every turn and does not depend on notifications holds of every thread in every reachable state. -/
theorem State.Reachable.activity_of_turn {L : Layout K} {P : Activity K → Prop}
    (ready : ∀ last, P (.ready last))
    (turn : ∀ (s : State b K) (t : ThreadId) (A : Activity K) (e : Effect) (A' : Activity K),
      s.Turn L t A e A' → P A → P A')
    (alike : ∀ A B : Activity K, A.Alike B → P A → P B)
    {s : State b K} (reachable : Reachable L s) (t : ThreadId) : P (s.activity t) := by
  induction reachable with
  | initial => exact ready none
  | @next s s' α _ next ih =>
    obtain ⟨u, e, A', -, -, hturn, rfl⟩ | ⟨-, same⟩ := next?_cases next
    · by_cases ht : t = u
      · subst ht
        rw [activity_after_self]
        exact turn s t _ e A' hturn ih
      · exact alike _ _ (alike_after L s e A' ht) ih
    · rw [same.activity]
      exact ih

end ResourceLocks.Protocol
