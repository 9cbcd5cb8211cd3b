import ResourceLocks.Proofs.Protocol.Cascades

/-!
# A thread on its own

How a call goes whose thread is left alone: only its own steps happen, and time passes
(`Action.IsOwn`). A monitor or a mutex that nobody is inside is entered by the next step then, so
such a run has no say in what the call does.

* `State.StepTurn` are the turns that are steps; each can be taken (`State.step?_of_stepTurn`).
* `Solo.Path` is a list of such turns that can be taken **at any time**: their guards are kept as
  the clock advances. What a path does to the shared parts of a state is the list of its effects,
  one applied after the other (`Effect.applyAll`).
* **A thread on its own follows its path** (`Solo.Path.follow`), whatever time passes between its
  steps. So a call with a path up to its return completes (`State.Completes`,
  `Solo.Path.completes`): it takes one step for each of the effects, never sleeps, and where it
  ends is the same in all runs, but for the clock.
-/

namespace ResourceLocks.Protocol

variable {b : Backing} {K : Type} [Key K]

/-! ## Runs of one thread -/

namespace Action

/-- What happens is a step of the thread, or time passes. A wait for a monitor does not end by time
here: who goes up to a monitor that nobody is inside enters it. -/
def IsOwn (t : ThreadId) : Action K → Prop
  | .step u => u = t
  | .pass _ => True
  | _ => False

/-- The time that passes while some things happen. -/
def elapsed : List (Action K) → Nat
  | [] => 0
  | .pass nanos :: αs => nanos + elapsed αs
  | _ :: αs => elapsed αs

end Action

/-- The thread is asleep. -/
def Activity.isAsleep : Activity K → Bool
  | .acquiring _ stage => stage.isAsleep
  | _ => false

namespace State

variable {L : Layout K} {s s' : State b K} {t : ThreadId}

/-- The state some time later. -/
def later (s : State b K) (nanos : Nat) : State b K := { s with now := s.now + nanos }

/-- Time passes in pieces. -/
@[simp] theorem later_later (m n : Nat) : (s.later m).later n = s.later (m + n) := by
  simp [later, Nat.add_assoc]

/-! ## Turns that are steps -/

/-- The turns of a thread that are steps. -/
def StepTurn (L : Layout K) (s : State b K) (t : ThreadId) (A : Activity K) (e : Effect)
    (A' : Activity K) : Prop :=
  match A with
  | .ready _ => False
  | .acquiring a stage => AcquireTurn L s t a stage e A'
  | .releasing r stage => ReleaseTurn L s t r stage e A'
  | .asking q stage => AskTurn s t q stage e A'

/-- A turn that is a step is a turn. -/
theorem StepTurn.toTurn {A : Activity K} {e : Effect} {A' : Activity K}
    (turn : s.StepTurn L t A e A') : s.Turn L t A e A' := by
  cases A with
  | ready last => cases turn
  | acquiring a stage => exact .acquire turn
  | releasing r stage => exact .release turn
  | asking q stage => exact .ask turn

/-- Every step is such a turn. -/
theorem stepTurn_of_step (step : s.step? L t = some s') :
    ∃ e A', s.StepTurn L t (s.activity t) e A' ∧ s' = s.after L t e A' := by
  unfold step? at step
  cases hA : s.activity t with
  | ready last =>
    rw [hA] at step
    cases step
  | acquiring a stage =>
    rw [hA] at step
    exact acquireTurn_of_step step
  | releasing r stage =>
    rw [hA] at step
    exact releaseTurn_of_step step
  | asking q stage =>
    rw [hA] at step
    exact askTurn_of_step step

/-- A monitor that nobody is inside can be entered. -/
theorem enter?_of_free {g : RegistryId} {m : Monitor}
    (free : (s.registries.get g).inside m = none) :
    s.enter? g m t = some ((Effect.enter g m).apply L t s) :=
  enter?_eq_some_iff.2 ⟨free, rfl⟩

/-- A mutex that nobody is inside can be entered. -/
theorem enterMutex?_of_free {h : Half} (free : (s.holds.get h).mutex = none) :
    s.enterMutex? h t = some ((Effect.enterMutex h).apply L t s) :=
  enterMutex?_eq_some_iff.2 ⟨free, rfl⟩

/-- Every turn of an acquisition is its step. -/
theorem acquireStep?_of_turn {a : Acquisition} {stage : AcquireStage} {e : Effect}
    {A' : Activity K} (turn : AcquireTurn L s t a stage e A') :
    s.acquireStep? L t a stage = some (s.after L t e A') := by
  have heeded : ∀ {p}, p = s.Heeds t a →
      (p ↔ (a.patience.heedsInterrupts && s.isInterrupted t) = true) := by
    rintro p rfl
    exact Bool.and_eq_true_iff.symm
  cases turn with
  | begin free | approachMutex free =>
    simp only [acquireStep?, enterMutex?_of_free (L := L) free, Option.map_some]
    rfl
  | alreadyHeld held =>
    simp only [acquireStep?, if_pos held]
    rfl
  | look absent =>
    simp only [acquireStep?, if_neg absent]
    rfl
  | heed m heeds | heedInside m heeds =>
    simp only [acquireStep?, if_pos ((heeded rfl).1 heeds)]
    rfl
  | approach m calm | settle m calm =>
    simp only [acquireStep?, if_neg (mt (heeded rfl).2 calm)]
    rfl
  | enter m free =>
    simp only [acquireStep?, enter?_of_free (L := L) free]
    rfl
  | barred m taken hasty =>
    have barred : s.enter? (L.registry a.half) m t = none := by
      cases inside : (s.registries.get (L.registry a.half)).inside m with
      | none => exact absurd inside taken
      | some u => simp [enter?, inside]
    simp only [acquireStep?, barred, if_pos hasty]
    rfl
  | free m free =>
    simp only [acquireStep?, free, if_true]
    rfl
  | taken m taken =>
    simp only [acquireStep?, taken, Bool.false_eq_true, if_false]
    rfl
  | refuse m expired =>
    simp only [acquireStep?, expired]
    rfl
  | sleep m length left =>
    simp only [acquireStep?, left]
    rfl
  | reenter m free | goBack v free =>
    simp only [acquireStep?, enter?_of_free (L := L) free, Option.map_some]
    rfl
  | conclude v => cases v <;> rfl
  | _ => rfl

/-- Every turn of a release is its step. -/
theorem releaseStep?_of_turn {r : Release} {stage : ReleaseStage} {e : Effect}
    {A' : Activity K} (turn : ReleaseTurn L s t r stage e A') :
    s.releaseStep? L t r stage = some (s.after L t e A') := by
  cases turn with
  | begin free =>
    simp only [releaseStep?, enterMutex?_of_free (L := L) free, Option.map_some]
    rfl
  | part held =>
    simp only [releaseStep?, if_pos held]
    rfl
  | notHeld absent direct =>
    simp only [releaseStep?, if_neg absent, direct, Bool.false_eq_true, if_false]
    rfl
  | dropFailed absent dropped =>
    simp only [releaseStep?, if_neg absent, dropped, if_true]
    rfl
  | enter free =>
    simp only [releaseStep?, enter?_of_free (L := L) free, Option.map_some]
    rfl
  | clear | leave | conclude => rfl

/-- Every turn of a question is its step. -/
theorem queryStep?_of_turn {q : Query K} {stage : QueryStage} {e : Effect} {A' : Activity K}
    (turn : AskTurn s t q stage e A') : s.queryStep? t q stage = some (s.after L t e A') := by
  cases turn with
  | descend g owner holder free | reach g owner holder free =>
    cases q with
    | status g' r | counts g' =>
      obtain rfl : g' = g := owner
      simp only [queryStep?, enter?_of_free (L := L) free, Option.map_some]
      rfl
    | isExclusiveFree g' rs => cases holder.2
    | isSharedFree g' rs => cases owner.2
    | isHeld h => cases owner
  | enter g m looks only free =>
    cases q with
    | status g' r | counts g' =>
      cases (only .owner looks).trans (only .holder looks).symm
    | isExclusiveFree g' rs | isSharedFree g' rs =>
      obtain ⟨rfl, rfl⟩ := looks
      simp only [queryStep?, enter?_of_free (L := L) free, Option.map_some]
      rfl
    | isHeld h => cases looks
  | readHolders g looks =>
    cases q with
    | isExclusiveFree g' rs => cases looks.2
    | isHeld h => cases looks
    | _ => rfl
  | readOwners g looks other =>
    cases q with
    | status g' r | counts g' => exact absurd looks other
    | isExclusiveFree g' rs => rfl
    | isSharedFree g' rs => cases looks.2
    | isHeld h => cases looks
  | ascend g answer owner holder =>
    cases q with
    | status g' r | counts g' =>
      obtain rfl : g' = g := owner
      rfl
    | isExclusiveFree g' rs => cases holder.2
    | isSharedFree g' rs => cases owner.2
    | isHeld h => cases owner
  | leaveHolder g answer other looks =>
    cases q with
    | status g' r | counts g' => exact absurd looks other
    | isExclusiveFree g' rs => cases looks.2
    | isSharedFree g' rs =>
      obtain ⟨rfl, -⟩ := looks
      rfl
    | isHeld h => cases looks
  | leaveOwner g answer looks =>
    cases q with
    | status g' r | counts g' =>
      obtain rfl : g' = g := looks
      rfl
    | isExclusiveFree g' rs =>
      obtain ⟨rfl, -⟩ := looks
      rfl
    | isSharedFree g' rs => cases looks.2
    | isHeld h => cases looks
  | enterMutex h asked free =>
    subst asked
    simp only [queryStep?, enterMutex?_of_free (L := L) free, Option.map_some]
    rfl
  | leaveMutex h asked =>
    subst asked
    rfl

/-- **Every such turn can be taken.** -/
theorem step?_of_stepTurn {e : Effect} {A' : Activity K}
    (turn : s.StepTurn L t (s.activity t) e A') : s.step? L t = some (s.after L t e A') := by
  unfold step?
  cases hA : s.activity t with
  | ready last =>
    rw [hA] at turn
    cases turn
  | acquiring a stage =>
    rw [hA] at turn
    exact acquireStep?_of_turn turn
  | releasing r stage =>
    rw [hA] at turn
    exact releaseStep?_of_turn turn
  | asking q stage =>
    rw [hA] at turn
    exact queryStep?_of_turn turn

end State

/-! ## Effects one after the other -/

section apply

variable (L : Layout K) (t : ThreadId) (s : State b K) (e : Effect)

/-- The state after some effects of a thread, one after the other. -/
def Effect.applyAll (L : Layout K) (t : ThreadId) (s : State b K) (es : List Effect) :
    State b K :=
  es.foldl (Effect.apply L t) s

/-- No effect takes time. -/
@[simp] theorem Effect.now_apply : (e.apply L t s).now = s.now := by
  cases e with
  | exitMutex h noted => cases noted <;> rfl
  | _ => rfl

/-- An effect is the same at a later time. -/
theorem Effect.apply_later (nanos : Nat) :
    e.apply L t (s.later nanos) = (e.apply L t s).later nanos := by
  cases e with
  | exitMutex h noted => cases noted <;> rfl
  | _ => rfl

/-- Of two activities of a thread the later one counts. -/
theorem State.setActivity_setActivity (A A' : Activity K) :
    (s.setActivity t A).setActivity t A' = s.setActivity t A' := by
  simp [State.setActivity]

/-- Who is awake is not changed by a notification. -/
theorem Thread.notify_of_awake {g : RegistryId} {m : Monitor} {th : Thread K}
    (awake : th.activity.isAsleep = false) : th.notify L g m = th := by
  unfold Thread.notify
  split
  · rename_i here
    rw [here] at awake
    cases awake
  · rfl

/-- A notification changes no interrupt flag. -/
theorem Thread.interrupted_notify (g : RegistryId) (m : Monitor) (th : Thread K) :
    (th.notify L g m).interrupted = th.interrupted := by
  unfold Thread.notify
  split
  · split <;> rfl
  · rfl

/-- An effect of a thread that is awake does not depend on what the thread is doing. -/
theorem Effect.apply_setActivity {A : Activity K} (awake : A.isAsleep = false) :
    e.apply L t (s.setActivity t A) = (e.apply L t s).setActivity t A := by
  cases e with
  | heed =>
    simp only [apply, State.setActivity, State.setInterrupted, Table.get_set_self, Table.set_set]
  | clear m h =>
    simp only [apply, State.setActivity, State.notifyAll, State.setRegistry, Table.map_set,
      Table.get_map, Thread.interrupted_notify]
    have still : Thread.notify L (L.registry h) m { s.threads.get t with activity := A } =
        { s.threads.get t with activity := A } := Thread.notify_of_awake L awake
    rw [still]
  | exitMutex h noted => cases noted <;> rfl
  | _ => rfl

end apply

/-! ## Paths -/

namespace Solo

variable {L : Layout K} {t : ThreadId} {s s' : State b K} {A A₁ A' : Activity K} {e : Effect}
  {es es' : List Effect} {αs : List (Action K)}

/-- Turns that a thread can take one after the other, each at any time, without falling asleep. -/
inductive Path (L : Layout K) (t : ThreadId) :
    State b K → Activity K → List Effect → Activity K → Prop where
  /-- There is nothing to do. -/
  | here (s : State b K) (A : Activity K) : Path L t s A [] A
  /-- The first turn can be taken at any time, and then the others. What the state says the thread
  is doing does not matter. -/
  | step {s : State b K} {A : Activity K} {e : Effect} {A₁ : Activity K} {es : List Effect}
      {A' : Activity K} (turn : ∀ nanos B, ((s.later nanos).setActivity t B).StepTurn L t A e A₁)
      (awake : A₁.isAsleep = false) (rest : Path L t (e.apply L t s) A₁ es A') :
      Path L t s A (e :: es) A'

namespace Path

/-- A path stays one as time passes. -/
theorem later (path : Path L t s A es A') (nanos : Nat) : Path L t (s.later nanos) A es A' := by
  induction path with
  | here s A => exact .here _ A
  | @step s A e A₁ es A' turn awake rest ih =>
    refine .step (fun n B => ?_) awake ?_
    · rw [State.later_later]
      exact turn (nanos + n) B
    · rw [Effect.apply_later]
      exact ih

/-- A thread that is doing nothing has no way to go. -/
theorem eq_nil {last : Option Reply} (path : Path L t s (.ready last) es A') : es = [] := by
  cases path with
  | here => rfl
  | step turn => exact (turn 0 (.ready last)).elim

/-- **A thread on its own follows its path**: after some steps, and whatever time, it has the
effects of as many turns behind it and the rest of the path ahead. -/
theorem follow (path : Path L t s A es A') (awake : A.isAsleep = false)
    (own : ∀ α ∈ αs, α.IsOwn t) (short : αs.count (.step t) ≤ es.length) :
    ∃ A₁, A₁.isAsleep = false ∧
      Path L t (Effect.applyAll L t (s.later (Action.elapsed αs)) (es.take (αs.count (.step t))))
        A₁ (es.drop (αs.count (.step t))) A' ∧
      (s.setActivity t A).run? L αs =
        some ((Effect.applyAll L t (s.later (Action.elapsed αs))
          (es.take (αs.count (.step t)))).setActivity t A₁) := by
  induction αs generalizing s A es with
  | nil => exact ⟨A, awake, path, rfl⟩
  | cons α αs ih =>
    have own' : ∀ α ∈ αs, α.IsOwn t := fun α hα => own α (List.mem_cons_of_mem _ hα)
    cases α with
    | step u =>
      obtain rfl : u = t := own _ List.mem_cons_self
      rw [List.count_cons_self] at short ⊢
      cases path with
      | here => cases short
      | @step _ _ e A₁ es _ turn awake₁ rest =>
        have step : (s.setActivity u A).next? L (.step u) =
            some ((e.apply L u s).setActivity u A₁) := by
          have turn' : (s.setActivity u A).StepTurn L u ((s.setActivity u A).activity u) e A₁ := by
            rw [State.activity_setActivity_self]
            exact turn 0 A
          have taken := State.step?_of_stepTurn turn'
          rw [State.after, Effect.apply_setActivity L u s e awake,
            State.setActivity_setActivity] at taken
          exact taken
        obtain ⟨A₂, awake₂, ahead, run⟩ := ih rest awake₁ own' (Nat.le_of_succ_le_succ short)
        rw [← Effect.apply_later] at ahead run
        exact ⟨A₂, awake₂, ahead, State.run?_cons_eq_some.2 ⟨_, step, run⟩⟩
    | pass nanos =>
      have hcount : (Action.pass nanos :: αs).count (.step t) = αs.count (.step t) := by simp
      rw [hcount] at short ⊢
      obtain ⟨A₂, awake₂, ahead, run⟩ := ih (path.later nanos) awake own' short
      rw [State.later_later] at ahead run
      exact ⟨A₂, awake₂, ahead, State.run?_cons_eq_some.2 ⟨_, rfl, run⟩⟩
    | _ => cases own _ List.mem_cons_self

/-- A thread on its own takes no more steps than there are on the path to its return. -/
theorem count_le {last : Option Reply} (path : Path L t s A es (.ready last))
    (awake : A.isAsleep = false) (own : ∀ α ∈ αs, α.IsOwn t)
    (run : (s.setActivity t A).run? L αs = some s') : αs.count (.step t) ≤ es.length := by
  refine State.run?_snoc_induction (P := fun αs _ => (∀ α ∈ αs, α.IsOwn t) →
    αs.count (.step t) ≤ es.length) (fun _ => Nat.zero_le _) ?_ run own
  intro αs α u v before step ih own
  have own' : ∀ α ∈ αs, α.IsOwn t := fun α hα => own α (List.mem_append_left _ hα)
  have short := ih own'
  by_cases hα : α = .step t
  · subst hα
    obtain ⟨A₁, -, ahead, run'⟩ := path.follow awake own' short
    rw [List.count_append, List.count_singleton_self]
    refine Nat.lt_of_le_of_ne short fun full => ?_
    -- All effects are behind the thread, so it has returned and has no step to take.
    rw [full, List.drop_length] at ahead
    rw [run'] at before
    cases before
    cases ahead with
    | here =>
      simp only [State.next?, State.step?, State.activity_setActivity_self] at step
      cases step
  · have other : (αs ++ [α]).count (.step t) = αs.count (.step t) := by
      simp [List.count_append, hα]
    rw [other]
    exact short

end Path

end Solo

/-! ## Calls -/

/-- What is to be said of a call that its thread brings to its return on its own, with some effects
and a reply. -/
structure State.Completes (L : Layout K) (s : State b K) (t : ThreadId) (c : Call K)
    (es : List Effect) (reply : Reply) : Prop where
  /-- The thread can take one step for each of the effects, and no more. -/
  steps : ∀ αs, (∀ α ∈ αs, α.IsOwn t) →
    ((s.run? L (.call t c :: αs)).isSome = true ↔ αs.count (.step t) ≤ es.length)
  /-- It never sleeps. -/
  awake : ∀ αs s', (∀ α ∈ αs, α.IsOwn t) → s.run? L (.call t c :: αs) = some s' →
    (s'.activity t).isAsleep = false
  /-- The call returns with its last step. -/
  ends : ∀ αs s', (∀ α ∈ αs, α.IsOwn t) → s.run? L (.call t c :: αs) = some s' →
    ((∃ last, s'.activity t = .ready last) ↔ αs.count (.step t) = es.length)
  /-- Then the effects have been applied, the call has returned the reply, and time has passed. -/
  returns : ∀ αs, (∀ α ∈ αs, α.IsOwn t) → αs.count (.step t) = es.length →
    s.run? L (.call t c :: αs) =
      some ((Effect.applyAll L t (s.later (Action.elapsed αs)) es).setActivity t
        (.ready (some reply)))

/-- A call that a thread makes and brings to its return on its own. -/
structure State.Performs (L : Layout K) (s : State b K) (t : ThreadId) (c : Call K)
    (αs : List (Action K)) (s' : State b K) (reply : Reply) : Prop where
  /-- Only the thread takes steps. -/
  own : ∀ α ∈ αs, α.IsOwn t
  /-- The call is made, and the run goes on. -/
  run : s.run? L (.call t c :: αs) = some s'
  /-- The call has returned. -/
  returned : s'.activity t = .ready (some reply)

/-- **What a call does that completes** is determined by its effects. -/
theorem State.Completes.eq {L : Layout K} {s s' : State b K} {t : ThreadId} {c : Call K}
    {αs : List (Action K)} {es : List Effect} {reply reply' : Reply}
    (completes : s.Completes L t c es reply) (performs : s.Performs L t c αs s' reply') :
    reply' = reply ∧ s' = (Effect.applyAll L t (s.later (Action.elapsed αs)) es).setActivity t
      (.ready (some reply)) := by
  obtain ⟨own, run, returned⟩ := performs
  have full := (completes.ends αs s' own run).1 ⟨_, returned⟩
  rw [completes.returns αs own full] at run
  cases run
  rw [State.activity_setActivity_self] at returned
  cases returned
  exact ⟨rfl, rfl⟩

/-- A call that completes can be performed. -/
theorem State.Completes.exists_performs {L : Layout K} {s : State b K} {t : ThreadId} {c : Call K}
    {es : List Effect} {reply : Reply} (completes : s.Completes L t c es reply) :
    ∃ αs s', s.Performs L t c αs s' reply := by
  have own : ∀ α ∈ List.replicate es.length (Action.step t : Action K), α.IsOwn t := by
    intro α hα
    rw [List.eq_of_mem_replicate hα]
    rfl
  exact ⟨_, _, own, completes.returns _ own (List.count_replicate_self ..),
    State.activity_setActivity_self ..⟩

namespace Solo.Path

variable {L : Layout K} {t : ThreadId} {s s' : State b K} {es : List Effect} {c : Call K}
  {reply : Reply}

/-- The call that starts an activity is made by a thread that is doing nothing. -/
theorem run?_call {last : Option Reply} (ready : s.activity t = .ready last)
    (αs : List (Action K)) :
    s.run? L (.call t c :: αs) = (s.setActivity t (c.start s.now)).run? L αs := by
  simp [State.run?, State.next?, ready]

/-- **A call with a path to its return completes.** -/
theorem completes {last : Option Reply} (ready : s.activity t = .ready last)
    (path : Path L t s (c.start s.now) es (.ready (some reply))) :
    s.Completes L t c es reply := by
  have awake : (c.start s.now).isAsleep = false := by
    cases c <;> rfl
  constructor
  · intro αs own
    rw [run?_call ready]
    constructor
    · intro some
      obtain ⟨s', run⟩ := Option.isSome_iff_exists.1 some
      exact path.count_le awake own run
    · intro short
      obtain ⟨A₁, -, -, run⟩ := path.follow awake own short
      rw [run]
      rfl
  · intro αs s' own run
    rw [run?_call ready] at run
    obtain ⟨A₁, awake₁, -, run'⟩ := path.follow awake own (path.count_le awake own run)
    rw [run'] at run
    cases run
    rw [State.activity_setActivity_self]
    exact awake₁
  · intro αs s' own run
    rw [run?_call ready] at run
    have short := path.count_le awake own run
    obtain ⟨A₁, -, ahead, run'⟩ := path.follow awake own short
    rw [run'] at run
    cases run
    rw [State.activity_setActivity_self]
    constructor
    · rintro ⟨last', rfl⟩
      have none := List.drop_eq_nil_iff.1 ahead.eq_nil
      exact Nat.le_antisymm short none
    · intro full
      rw [full, List.drop_length] at ahead
      cases ahead
      exact ⟨_, rfl⟩
  · intro αs own full
    rw [run?_call ready]
    obtain ⟨A₁, -, ahead, run⟩ := path.follow awake own full.le
    rw [full, List.drop_length] at ahead
    rw [full, List.take_length] at run
    cases ahead
    exact run

end Solo.Path

end ResourceLocks.Protocol
