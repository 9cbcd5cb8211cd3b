import ResourceLocks.Proofs.Protocol.Release

/-!
# Interrupts

An interrupt flag that is set is consumed by the thread itself, either between two calls or by an
acquisition that can be interrupted; and an acquisition that consumes it says so in the end
(`State.Reachable.interruptsAccounted`).

* **Flags** (`State.flag_of_next?`): a flag is cleared by its thread only, when it is doing nothing
  or where an acquisition of it looks at the flag and heeds it. That this is an acquisition that may
  be interrupted is known from its patience, and from the manner that it was asked for in
  (`State.Reachable.heedsInterrupts_eq`).
* **Verdicts** (`State.Turn.interrupted_iff`): an acquisition has come to be interrupted exactly
  when it has heeded the flag. It keeps the verdict until it returns, so that flags that are
  consumed and replies that tell of it are the same in number (`State.Calling.heedings_eq`): one or
  none for every acquisition.
* **On the way out** (`AcquireStage.stepsLeft`) an interrupted acquisition waits for no resources,
  and withdraws what it has recorded.
-/

namespace ResourceLocks.Protocol

variable {b : Backing} {K : Type} [Key K]

/-! ## Acquisitions that may be interrupted -/

/-- An acquisition in that manner may be interrupted. -/
def Manner.heedsInterrupts : Manner → Bool
  | lockInterruptibly | tryLockFor _ => true
  | lock | tryLock => false

/-- The manner decides whether interrupts are heeded; whether there is a deadline makes no
difference. -/
theorem Manner.heedsInterrupts_patience (m : Manner) (now : Instant) :
    (m.patience now).heedsInterrupts = m.heedsInterrupts :=
  m.patience_cases (P := fun m p => p.heedsInterrupts = m.heedsInterrupts) rfl rfl rfl
    (fun _ _ _ => rfl) (fun _ _ => rfl)

/-- The thread is in an acquisition that may be interrupted. -/
def Activity.heedsInterrupts : Activity K → Bool
  | .acquiring a _ => a.entry.manner.heedsInterrupts
  | _ => false

namespace AcquireStage

/-- The interrupt flag is looked at in the stage. -/
def checksFlag : AcquireStage → Bool
  | approaching _ | taken _ => true
  | _ => false

/-- The number of steps after which an acquisition has returned at the latest that has come to a
verdict without acquiring its half. -/
def stepsLeft : AcquireStage → Nat
  | leaving .holder _ => 6
  | withdrawing _ => 5
  | returning _ => 4
  | unclaiming _ => 3
  | leaving .owner _ => 2
  | concluding _ => 1
  | _ => 0

/-- Who gives up because of an interrupt has a step to take before it returns. -/
theorem stepsLeft_pos (stage : AcquireStage) (interrupted : stage.verdict? = some .interrupted) :
    0 < stage.stepsLeft := by
  cases stage with
  | leaving m v => cases m <;> simp [stepsLeft]
  | withdrawing v | returning v | unclaiming v | concluding v => simp [stepsLeft]
  | _ => cases interrupted

/-- It has six at most. -/
theorem stepsLeft_le (stage : AcquireStage) : stage.stepsLeft ≤ 6 := by
  cases stage with
  | leaving m v => cases m <;> simp [stepsLeft]
  | _ => simp [stepsLeft]

/-- Who is interrupted does not hold the half. -/
theorem isAbsent_of_interrupted (stage : AcquireStage)
    (interrupted : stage.verdict? = some .interrupted) : stage.isAbsent = true := by
  cases stage with
  | concluding v =>
    cases interrupted
    rfl
  | begin | looking => cases interrupted
  | _ => rfl

/-- Where an acquisition is after a number of steps that finds its thread's flag set. -/
def hasty : Nat → AcquireStage
  | 0 => begin
  | 1 => looking
  | 2 => approaching .owner
  | _ => concluding .interrupted

/-- Who does not wait is never asleep. -/
theorem hasty_ne_asleep (n : Nat) (m : Monitor) (notified : Bool) (wakeAt : Option Instant) :
    hasty n ≠ asleep m notified wakeAt := by
  unfold hasty
  split <;> nofun

/-- Such an acquisition enters no monitor. -/
theorem asksFor_hasty (n : Nat) (m : Monitor) : (hasty n).asksFor m = false := by
  unfold hasty
  split <;> rfl

end AcquireStage

omit [Key K] in
/-- The caller is told of an interrupt exactly if there was one. -/
theorem Acquisition.reply_eq_interrupted_iff (a : Acquisition) (v : Verdict) :
    a.reply v = .failed .interrupted ↔ v = .interrupted := by
  cases v with
  | interrupted => exact iff_of_true rfl rfl
  | acquired | refused =>
    refine iff_of_false ?_ nofun
    unfold reply EntryPoint.reply
    cases a.entry.manner <;> cases a.entry.guarded <;> exact nofun

namespace State

variable {L : Layout K} {s s' u v : State b K} {t : ThreadId} {h : Half} {α : Action K}
  {αs : List (Action K)} {a : Acquisition} {stage : AcquireStage} {entry : EntryPoint}
  {e : Effect} {A A' : Activity K}

/-- An acquisition under way heeds interrupts if it was asked for in a manner that does. -/
theorem Reachable.heedsInterrupts_eq (reachable : Reachable L s)
    (acquiring : s.activity t = .acquiring a stage) :
    a.patience.heedsInterrupts = a.entry.manner.heedsInterrupts := by
  have candid := reachable.candid t
  rw [acquiring] at candid
  obtain ⟨⟨now, patience⟩, -⟩ := candid
  rw [patience, Manner.heedsInterrupts_patience]

/-! ## Flags -/

/-- Who heeds its flag is in an acquisition that has not come to a verdict, and is interrupted. -/
theorem Turn.of_heed (turn : s.Turn L t A .heed A') :
    ∃ a stage stage', A = .acquiring a stage ∧ s.Heeds t a ∧ stage.checksFlag = true ∧
      A' = .acquiring a stage' ∧ stage'.verdict? = some .interrupted := by
  generalize he : Effect.heed = e at turn
  cases turn with
  | acquire turn =>
    cases turn with
    | heed m heeds => exact ⟨_, _, _, rfl, heeds, rfl, rfl, AcquireStage.verdict?_givingUp ..⟩
    | heedInside m heeds => exact ⟨_, _, _, rfl, heeds, rfl, rfl, rfl⟩
    | conclude v => cases v <;> cases he
    | _ => cases he
  | release turn => cases turn <;> cases he
  | ask turn => cases turn <;> cases he
  | _ => cases he

/-- A turn that heeds no flag changes none. -/
theorem isInterrupted_after_of_ne (he : e ≠ .heed) (w : ThreadId) :
    (s.after L t e A').isInterrupted w = s.isInterrupted w := by
  rw [isInterrupted_after, Effect.isInterrupted_apply, if_neg (fun heed => he heed.1)]

/-- **How a flag changes**: it is set from outside, or cleared by its thread while that is doing
nothing, or heeded. -/
theorem flag_of_next? (next : s.next? L α = some s') (t : ThreadId) :
    s'.isInterrupted t = s.isInterrupted t ∨
    α = .interrupt t ∧ s'.isInterrupted t = true ∨
    α = .clearFlag t ∧ s'.isInterrupted t = false ∧ (∃ last, s.activity t = .ready last) ∨
    α = .step t ∧ s.Turn L t (s.activity t) .heed (s'.activity t) := by
  obtain ⟨w, e, A', -, step, turn, rfl⟩ | ⟨hnone, -⟩ := next?_cases next
  · by_cases he : e = .heed
    · subst he
      obtain rfl : α = .step w := step.resolve_right nofun
      by_cases ht : t = w
      · subst ht
        rw [activity_after_self]
        exact .inr (.inr (.inr ⟨rfl, turn⟩))
      · left
        rw [isInterrupted_after, Effect.isInterrupted_apply, if_neg (fun both => ht both.2)]
    · exact .inl (isInterrupted_after_of_ne he t)
  · cases α with
    | interrupt w =>
      cases next
      rw [isInterrupted_setInterrupted]
      by_cases ht : t = w
      · exact .inr (.inl ⟨by rw [ht], if_pos ht⟩)
      · exact .inl (if_neg ht)
    | clearFlag w =>
      simp only [next?] at next
      split at next
      · rename_i last ready
        cases next
        rw [isInterrupted_setInterrupted]
        by_cases ht : t = w
        · exact .inr (.inr (.inl ⟨by rw [ht], if_pos ht, last, ht ▸ ready⟩))
        · exact .inl (if_neg ht)
      · cases next
    | pass nanos =>
      cases next
      exact .inl rfl
    | _ => cases hnone

/-- A turn of a thread that is in no acquisition which may be interrupted changes no flag. -/
theorem Reachable.flags_of_calm (reachable : Reachable L s) (next : s.next? L α = some s')
    (mine : α.turnOf? = some t) (calm : (s.activity t).heedsInterrupts = false) (w : ThreadId) :
    s'.isInterrupted w = s.isInterrupted w := by
  obtain ⟨w', e, A', hw, -, turn, rfl⟩ | ⟨hnone, -⟩ := next?_cases next
  · rw [mine] at hw
    cases hw
    refine isInterrupted_after_of_ne ?_ w
    rintro rfl
    obtain ⟨a, stage, stage', acquiring, heeds, -⟩ := turn.of_heed
    have heeded : a.entry.manner.heedsInterrupts = true := by
      rw [← reachable.heedsInterrupts_eq acquiring]
      exact heeds.1
    rw [acquiring, Activity.heedsInterrupts, heeded] at calm
    cases calm
  · rw [mine] at hnone
    cases hnone

/-! ## Verdicts -/

/-- **An acquisition is interrupted by heeding the flag**, and by nothing else. What it replies
tells of it. -/
theorem Turn.interrupted_iff (turn : s.Turn L t (.acquiring a stage) e A') :
    (∃ stage', A' = .acquiring a stage' ∧
      (stage'.verdict? = some .interrupted ↔ stage.verdict? = some .interrupted ∨ e = .heed) ∧
      (e = .heed → stage.verdict? = none)) ∨
    ∃ r, A' = .ready (some r) ∧ e ≠ .heed ∧
      (r = .failed .interrupted ↔ stage.verdict? = some .interrupted) := by
  cases turn with
  | acquire turn =>
    cases turn with
    | alreadyHeld => exact .inr ⟨_, rfl, nofun, by simp [AcquireStage.verdict?]⟩
    | conclude v =>
      refine .inr ⟨_, rfl, ?_, ?_⟩
      · cases v <;> exact nofun
      · rw [Acquisition.reply_eq_interrupted_iff]
        simp [AcquireStage.verdict?]
    | heed m =>
      exact .inl ⟨_, rfl, iff_of_true (AcquireStage.verdict?_givingUp ..) (.inr rfl), fun _ => rfl⟩
    | heedInside m => exact .inl ⟨_, rfl, iff_of_true rfl (.inr rfl), fun _ => rfl⟩
    | enter m | barred m | free m | record m =>
      exact .inl ⟨_, rfl, iff_of_false (by simp) nofun, nofun⟩
    | leave m v =>
      refine .inl ⟨_, rfl, ?_, nofun⟩
      rw [AcquireStage.verdict?_left]
      exact (or_iff_left nofun).symm
    | withdraw v | goBack v | unclaim v | approachMutex | join =>
      exact .inl ⟨_, rfl, (or_iff_left nofun).symm, nofun⟩
    | _ => exact .inl ⟨_, rfl, iff_of_false nofun nofun, nofun⟩
  | expire a m => exact .inl ⟨_, rfl, iff_of_false (by simp) nofun, nofun⟩
  | rouse => exact .inl ⟨_, rfl, iff_of_false nofun nofun, nofun⟩

/-! ## Flags consumed and replies -/

/-- The thread clears its flag in a step. -/
def HeedsIn (s : State b K) (t : ThreadId) (α : Action K) (s' : State b K) : Prop :=
  α = .step t ∧ s.isInterrupted t = true ∧ s'.isInterrupted t = false

instance (s : State b K) (t : ThreadId) (α : Action K) (s' : State b K) :
    Decidable (s.HeedsIn t α s') :=
  inferInstanceAs (Decidable (_ ∧ _ ∧ _))

/-- The number of steps in a run in which a thread clears its flag. -/
def heedings (L : Layout K) (t : ThreadId) : State b K → List (Action K) → Nat
  | _, [] => 0
  | s, α :: αs =>
    match s.next? L α with
    | none => 0
    | some s' => (if s.HeedsIn t α s' then 1 else 0) + heedings L t s' αs

/-- The last action of a run adds one heeding at most. -/
theorem heedings_concat (run : s.run? L αs = some u) (next : u.next? L α = some v) :
    heedings L t s (αs ++ [α]) = heedings L t s αs + if u.HeedsIn t α v then 1 else 0 := by
  induction αs generalizing s with
  | nil =>
    cases run
    simp [heedings, next]
  | cons β αs ih =>
    obtain ⟨s₁, first, rest⟩ := run?_cons_eq_some.1 run
    simp only [List.cons_append, heedings, first, ih rest]
    omega

/-- Only an acquisition of the thread that heeds its flag clears it in a step. -/
theorem heedsIn_iff_of_turn (turn : s.Turn L t (s.activity t) e A')
    (step : α = .step t ∨ e = .nothing) :
    s.HeedsIn t α (s.after L t e A') ↔ e = .heed := by
  unfold HeedsIn
  constructor
  · rintro ⟨-, flag, cleared⟩
    by_contra he
    rw [isInterrupted_after_of_ne he, flag] at cleared
    cases cleared
  · rintro rfl
    obtain ⟨a, stage, stage', -, heeds, -⟩ := turn.of_heed
    refine ⟨step.resolve_right nofun, heeds.2, ?_⟩
    rw [isInterrupted_after, Effect.isInterrupted_apply, if_pos ⟨rfl, rfl⟩]

/-- **Every flag that an acquisition consumes is told to its caller, and none besides**: an
acquisition has cleared its thread's flag once if it has come to be interrupted, and not at all
otherwise. -/
theorem Calling.heedings_eq (calling : s.Calling L t (.acquire h entry) αs s') :
    (∃ a stage, s'.activity t = .acquiring a stage ∧
      heedings L t s (.call t (.acquire h entry) :: αs) =
        if stage.verdict? = some .interrupted then 1 else 0) ∨
    ∃ r, s'.activity t = .ready (some r) ∧
      heedings L t s (.call t (.acquire h entry) :: αs) =
        if r = .failed .interrupted then 1 else 0 := by
  refine calling.induction (P := fun αs u => (∃ a stage, u.activity t = .acquiring a stage ∧
      heedings L t s (.call t (.acquire h entry) :: αs) =
        if stage.verdict? = some .interrupted then 1 else 0) ∨
    ∃ r, u.activity t = .ready (some r) ∧
      heedings L t s (.call t (.acquire h entry) :: αs) =
        if r = .failed .interrupted then 1 else 0) ?_ ?_
  · obtain ⟨last, s₁, -, hs₁, first, -⟩ := calling.start
    refine .inl ⟨_, .begin, by rw [activity_after_self]; rfl, ?_⟩
    rw [if_neg (by simp [AcquireStage.verdict?])]
    simp [heedings, first, HeedsIn]
  · intro αs α u v before next nocall ih
    rw [← List.cons_append, heedings_concat before.run next]
    obtain ⟨e, A', mine, step, turn, rfl⟩ | bystands := turn_or_bystands next t
    · have hheeds := heedsIn_iff_of_turn turn step
      simp only [hheeds, activity_after_self]
      obtain ⟨a, stage, acquiring, count⟩ | ⟨r, ready, -⟩ := ih
      · rw [acquiring] at turn
        rw [count]
        obtain ⟨stage', rfl, hverdict, hnone⟩ | ⟨r, rfl, he, hreply⟩ := turn.interrupted_iff
        · refine .inl ⟨a, stage', rfl, ?_⟩
          by_cases he : e = .heed
          · simp [hverdict, he, hnone he]
          · simp [hverdict, he]
        · exact .inr ⟨r, rfl, by simp [hreply, he]⟩
      · exact absurd mine (turnOf?_ne_of_ready next ready nocall)
    · have hnot : ¬ u.HeedsIn t α v := by
        rintro ⟨rfl, -⟩
        exact bystands.other rfl
      rw [if_neg hnot, Nat.add_zero]
      obtain ⟨a, stage, acquiring, count⟩ | ⟨r, ready, count⟩ := ih
      · have alike := bystands.alike
        rw [acquiring] at alike
        obtain ⟨stage', hA, hverdict⟩ := alike.verdict?_eq
        exact .inl ⟨a, stage', hA, by rw [count, hverdict]⟩
      · exact .inr ⟨r, (bystands.alike.eq_of_awake (by simp [ready])).trans ready, count⟩

/-- **An acquisition consumes its thread's flag once if it returns that it was interrupted**, and
not at all if it returns anything else. -/
theorem Attempt.heedings_eq {r : Reply} (attempt : s.Attempt L t h entry αs s' r) :
    heedings L t s (.call t (.acquire h entry) :: αs) =
      if r = .failed .interrupted then 1 else 0 := by
  obtain ⟨a, stage, acquiring, -⟩ | ⟨r', ready, count⟩ := attempt.calling.heedings_eq
  · rw [attempt.returned] at acquiring
    cases acquiring
  · rw [attempt.returned] at ready
    cases ready
    exact count

/-- An acquisition that is not interrupted in the end heeds no flag. -/
theorem Attempt.flags_eq {r : Reply} {αs₁ αs₂ : List (Action K)}
    (attempt : s.Attempt L t h entry αs s' r) (calm : r ≠ .failed .interrupted)
    (split : αs = αs₁ ++ α :: αs₂) (before : s.run? L (.call t (.acquire h entry) :: αs₁) = some u)
    (next : u.next? L α = some v) (mine : α.turnOf? = some t) (w : ThreadId) :
    v.isInterrupted w = u.isInterrupted w := by
  obtain ⟨w', e, A', hw, -, turn, rfl⟩ | ⟨hnone, -⟩ := next?_cases next
  · rw [mine] at hw
    cases hw
    refine isInterrupted_after_of_ne ?_ w
    rintro rfl
    -- Having heeded the flag, the acquisition would return that it was interrupted.
    obtain ⟨a, stage, stage', -, -, -, rfl, interrupted⟩ := turn.of_heed
    have after : (u.after L t .heed (.acquiring a stage')).run? L αs₂ = some s' := by
      have run := attempt.run
      rw [split, ← List.cons_append, run?_append, before] at run
      simpa [run?, next] using run
    have single : ∀ c, .call t c ∉ αs₂ := fun c hc => attempt.single c (by simp [split, hc])
    refine calm ((run?_of_verdict after single (activity_after_self ..) interrupted
      attempt.returned).trans ?_)
    rfl
  · rw [mine] at hnone
    cases hnone

/-! ## On the way out -/

/-- Nothing is left of an acquisition of a half: the thread does not hold it, and what the thread
owns and counts, it owns and counts by holding other halves. -/
structure NothingLeft (L : Layout K) (s : State b K) (t : ThreadId) (h : Half) : Prop where
  /-- The thread does not hold the half. -/
  absent : ¬ s.IsHeldBy h t
  /-- What the thread owns belongs to another half that it holds. -/
  claims : ∀ g r, s.owner? g r = some t →
    ∃ h', h' ≠ h ∧ Covers L .write g r h' ∧ s.IsHeldBy h' t
  /-- The holds of the thread belong to other halves that it holds. -/
  shares : ∀ g r, (s.holdCount g r t : ℕ∞) =
    {h' | h' ≠ h ∧ Covers L .read g r h' ∧ s.IsHeldBy h' t}.encard

/-- Between calls nothing is left of a half that is not held. -/
theorem NothingLeft.of_ready {last : Option Reply} (inv : s.Invariant L)
    (ready : s.activity t = .ready last) (absent : ¬ s.IsHeldBy h t) : s.NothingLeft L t h := by
  have hne : ∀ h', s.IsHeldBy h' t → h' ≠ h := by
    rintro h' held rfl
    exact absent held
  refine ⟨absent, ?_, ?_⟩
  · intro g r owned
    obtain ⟨h', covers, recorded⟩ := (inv.owner_iff g r t).1 owned
    have held := (onRecord_iff_of_ready ready).1 recorded
    exact ⟨h', hne h' held, covers, held⟩
  · intro g r
    have hset : s.shares L g r t = {h' | h' ≠ h ∧ Covers L .read g r h' ∧ s.IsHeldBy h' t} := by
      ext h'
      constructor
      · rintro ⟨covers, recorded⟩
        have held := (onRecord_iff_of_ready ready).1 recorded
        exact ⟨hne h' held, covers, held⟩
      · rintro ⟨-, covers, held⟩
        exact ⟨covers, .inl held⟩
    rw [inv.count, hset]

/-- Every turn of an interrupted acquisition brings it nearer to its return. -/
theorem Turn.stepsLeft_lt (turn : s.Turn L t (.acquiring a stage) e A')
    (interrupted : stage.verdict? = some .interrupted) :
    (∃ stage', A' = .acquiring a stage' ∧ e ≠ .nothing ∧
      stage'.verdict? = some .interrupted ∧ stage'.stepsLeft < stage.stepsLeft) ∨
    e = .nothing ∧ A' = .ready (some (.failed .interrupted)) := by
  cases turn with
  | acquire turn =>
    cases turn with
    | leave m v =>
      refine .inl ⟨_, rfl, nofun, ?_, ?_⟩
      · rw [AcquireStage.verdict?_left]
        exact interrupted
      · cases interrupted
        cases m <;> cases a.half.kind <;> decide
    | withdraw v | goBack v | unclaim v =>
      exact .inl ⟨_, rfl, nofun, interrupted, Nat.lt_succ_self _⟩
    | conclude v =>
      cases interrupted
      exact .inr ⟨rfl, rfl⟩
    | _ => cases interrupted
  | _ => cases interrupted

/-- **An interrupted acquisition returns**, after six steps of its thread at the latest, and says
so. Nothing is left of it then. -/
theorem Reachable.interrupted_cases (reachable : Reachable L s)
    (acquiring : s.activity t = .acquiring a stage)
    (interrupted : stage.verdict? = some .interrupted) (single : ∀ c, .call t c ∉ αs)
    (run : s.run? L αs = some s') :
    (∃ stage', s'.activity t = .acquiring a stage' ∧ stage'.verdict? = some .interrupted ∧
      αs.count (.step t) + stage'.stepsLeft ≤ 6) ∨
    s'.activity t = .ready (some (.failed .interrupted)) ∧ ¬ s'.IsHeldBy a.half t := by
  refine run?_snoc_induction (P := fun αs u => (∀ c, .call t c ∉ αs) →
    (∃ stage', u.activity t = .acquiring a stage' ∧ stage'.verdict? = some .interrupted ∧
      αs.count (.step t) + stage'.stepsLeft ≤ 6) ∨
    u.activity t = .ready (some (.failed .interrupted)) ∧ ¬ u.IsHeldBy a.half t) ?_ ?_ run single
  · intro _
    exact .inl ⟨stage, acquiring, interrupted, by simpa using stage.stepsLeft_le⟩
  · intro αs α u v before next ih single
    have nocall : ∀ c, α ≠ .call t c := by
      rintro c rfl
      exact single c (by simp)
    have stands := ih fun c hc => single c (by simp [hc])
    obtain ⟨e, A', mine, step, turn, rfl⟩ | bystands := turn_or_bystands next t
    · obtain ⟨stage, acquiring, interrupted, count⟩ | ⟨ready, -⟩ := stands
      · rw [acquiring] at turn
        obtain ⟨stage', rfl, he, interrupted', lt⟩ | ⟨rfl, rfl⟩ := turn.stepsLeft_lt interrupted
        · obtain rfl : α = .step t := step.resolve_right he
          refine .inl ⟨stage', activity_after_self .., interrupted', ?_⟩
          rw [List.count_append, List.count_singleton_self]
          omega
        · refine .inr ⟨activity_after_self .., ?_⟩
          have absent : (u.activity t).absent? = some a.half := by
            rw [acquiring, Activity.absent?, if_pos (stage.isAbsent_of_interrupted interrupted)]
          exact (reachable.run before).invariant.absent a.half t absent
      · exact absurd mine (turnOf?_ne_of_ready next ready nocall)
    · rw [bystands.count_step]
      obtain ⟨stage, acquiring, interrupted, count⟩ | ⟨ready, absent⟩ := stands
      · refine .inl ⟨stage, (bystands.alike.eq_of_awake ?_).trans acquiring, interrupted, count⟩
        rintro a' m notified wakeAt hA
        rw [acquiring] at hA
        cases hA
        cases interrupted
      · refine .inr ⟨(bystands.alike.eq_of_awake (by simp [ready])).trans ready, ?_⟩
        rw [bystands.held]
        exact absent

/-! ## An interrupt that is there at the start -/

/-- The flag of a thread that is in a call stays set, unless the thread heeds it. -/
theorem flag_of_busy (next : u.next? L α = some v) (flag : u.isInterrupted t = true)
    (busy : ∀ last, u.activity t ≠ .ready last) :
    v.isInterrupted t = true ∨ α = .step t ∧ u.Turn L t (u.activity t) .heed (v.activity t) := by
  obtain same | ⟨-, set⟩ | ⟨-, -, last, ready⟩ | heeds := flag_of_next? next t
  · exact .inl (same.trans flag)
  · exact .inl set
  · exact absurd ready (busy last)
  · exact .inr heeds

/-- The turns of an acquisition that finds its thread's flag set. -/
theorem Turn.hasty {n : Nat} (turn : s.Turn L t (.acquiring a (.hasty n)) e A') (few : n < 4)
    (heeds : n < 3 → s.Heeds t a) (absent : ¬ s.IsHeldBy a.half t) :
    (e ≠ .nothing ∧ e.isJoin = false ∧ n < 3 ∧ (n < 2 → e ≠ .heed) ∧
      A' = .acquiring a (.hasty (n + 1))) ∨
    A' = .ready (some (.failed .interrupted)) := by
  obtain rfl | rfl | rfl | rfl : n = 0 ∨ n = 1 ∨ n = 2 ∨ n = 3 := by omega
  · change s.Turn L t (.acquiring a .begin) e A' at turn
    cases turn with
    | acquire turn =>
      cases turn with
      | begin free => exact .inl ⟨nofun, rfl, by decide, nofun, rfl⟩
  · change s.Turn L t (.acquiring a .looking) e A' at turn
    cases turn with
    | acquire turn =>
      cases turn with
      | alreadyHeld held => exact absurd held absent
      | look => exact .inl ⟨nofun, rfl, by decide, nofun, rfl⟩
  · change s.Turn L t (.acquiring a (.approaching .owner)) e A' at turn
    cases turn with
    | acquire turn =>
      cases turn with
      | heed m =>
        refine .inl ⟨nofun, rfl, by decide, fun hn => absurd hn (by decide), ?_⟩
        cases a.half.kind <;> rfl
      | approach m calm => exact absurd (heeds (by decide)) calm
  · change s.Turn L t (.acquiring a (.concluding .interrupted)) e A' at turn
    cases turn with
    | acquire turn =>
      cases turn with
      | conclude => exact .inr rfl

/-- **An acquisition that finds its thread's flag set does not look at the resources.** It looks
whether the half is held, then at the flag, and returns. -/
theorem Calling.hasty (calling : s.Calling L t (.acquire h entry) αs s')
    (heeds : entry.manner.heedsInterrupts = true) (flag : s.isInterrupted t = true)
    (absent : ¬ s.IsHeldBy h t) :
    (αs.count (.step t) < 4 ∧ (αs.count (.step t) < 3 → s'.isInterrupted t = true) ∧
      ¬ s'.IsHeldBy h t ∧
      s'.activity t = .acquiring ⟨h, entry, entry.manner.patience s.now⟩
        (.hasty (αs.count (.step t)))) ∨
    s'.activity t = .ready (some (.failed .interrupted)) := by
  refine calling.induction (P := fun αs u =>
    (αs.count (.step t) < 4 ∧ (αs.count (.step t) < 3 → u.isInterrupted t = true) ∧
      ¬ u.IsHeldBy h t ∧
      u.activity t = .acquiring ⟨h, entry, entry.manner.patience s.now⟩
        (.hasty (αs.count (.step t)))) ∨
    u.activity t = .ready (some (.failed .interrupted))) ?_ ?_
  · refine .inl ⟨by simp, fun _ => ?_, absent, ?_⟩
    · rw [isInterrupted_after_of_ne (by simp)]
      exact flag
    · rw [activity_after_self]
      rfl
  · rintro αs α u v before next nocall (⟨few, flag, absent, acquiring⟩ | ready)
    · obtain ⟨e, A', mine, step, turn, rfl⟩ | bystands := turn_or_bystands next t
      · rw [acquiring] at turn
        have heeded : (entry.manner.patience s.now).heedsInterrupts = true := by
          rw [Manner.heedsInterrupts_patience, heeds]
        obtain ⟨he, nojoin, hn, hflag, rfl⟩ | rfl :=
          turn.hasty few (fun hn => ⟨heeded, flag hn⟩) absent
        · obtain rfl : α = .step t := step.resolve_right he
          rw [List.count_append, List.count_singleton_self]
          refine .inl ⟨by omega, fun hn' => ?_, fun held => absent ?_, activity_after_self ..⟩
          · rw [isInterrupted_after_of_ne (hflag (by omega))]
            exact flag hn
          · exact Effect.isHeldBy_of_apply L t u nojoin held
        · exact .inr (activity_after_self ..)
      · rw [bystands.count_step]
        refine .inl ⟨few, fun hn => ?_, fun held => absent ((bystands.held h).1 held), ?_⟩
        · obtain set | ⟨rfl, -⟩ := flag_of_busy next (flag hn) (by simp [acquiring])
          · exact set
          · exact absurd rfl bystands.other
        · refine (bystands.alike.eq_of_awake ?_).trans acquiring
          rintro a' m notified wakeAt hA
          rw [acquiring] at hA
          injection hA with _ asleep
          exact AcquireStage.hasty_ne_asleep _ m notified wakeAt asleep
    · exact .inr (next?_of_ready next ready nocall)

/-! ## The account -/

/-- Interrupts are neither lost nor invented. -/
structure InterruptsAccounted (L : Layout K) (s : State b K) : Prop where
  /-- A flag is set from outside only. -/
  raised : ∀ α s' t, s.next? L α = some s' → s.isInterrupted t = false →
    s'.isInterrupted t = true → α = .interrupt t
  /-- A flag is cleared by its thread alone: when it is doing nothing, or where an acquisition of it
  looks at the flag that was asked for in a manner which may be interrupted. The acquisition is
  interrupted then. -/
  cleared : ∀ α s' t, s.next? L α = some s' → s.isInterrupted t = true →
    s'.isInterrupted t = false →
    α = .clearFlag t ∨ α = .step t ∧ ∃ a stage stage', s.activity t = .acquiring a stage ∧
      a.entry.manner.heedsInterrupts = true ∧ stage.checksFlag = true ∧
      s'.activity t = .acquiring a stage' ∧ stage'.verdict? = some .interrupted
  /-- An interrupted acquisition returns that it was, and nothing is left of it. It returns after
  six steps, and until then it waits for no resources. -/
  surfaces : ∀ t a stage αs s', s.activity t = .acquiring a stage →
    stage.verdict? = some .interrupted → (∀ c, .call t c ∉ αs) → s.run? L αs = some s' →
    (∀ r, s'.activity t = .ready (some r) → r = .failed .interrupted ∧ s'.NothingLeft L t a.half) ∧
    ((∀ last, s'.activity t ≠ .ready last) →
      αs.count (.step t) < 6 ∧ (s'.CanStep L t ∨ ∃ w, s'.QueuesBehind L t w))
  /-- An acquisition that returns that it was interrupted has consumed one set flag of its thread,
  and any other acquisition none. -/
  once : ∀ t h entry αs s' r, s.Attempt L t h entry αs s' r →
    heedings L t s (.call t (.acquire h entry) :: αs) = if r = .failed .interrupted then 1 else 0
  /-- No turn changes a flag that belongs to an acquisition in a manner which ignores interrupts, to
  a release or to a question. -/
  calm : ∀ α s' t, s.next? L α = some s' → α.turnOf? = some t →
    (s.activity t).heedsInterrupts = false → ∀ w, s'.isInterrupted w = s.isInterrupted w
  /-- Nor does one that belongs to an acquisition which does not return that it was interrupted, be
  it that it finds the half held. -/
  spared : ∀ t h entry αs s' r, s.Attempt L t h entry αs s' r → r ≠ .failed .interrupted →
    ∀ αs₁ α αs₂ u v, αs = αs₁ ++ α :: αs₂ →
      s.run? L (.call t (.acquire h entry) :: αs₁) = some u → u.next? L α = some v →
      α.turnOf? = some t → ∀ w, v.isInterrupted w = u.isInterrupted w
  /-- An acquisition that may be interrupted and starts with the flag set, of a half that the thread
  does not hold, returns that it was interrupted. It asks for no monitor, and returns after four
  steps. -/
  immediate : ∀ t h entry αs s', entry.manner.heedsInterrupts = true → s.isInterrupted t = true →
    ¬ s.IsHeldBy h t → s.Calling L t (.acquire h entry) αs s' →
    (∀ r, s'.activity t = .ready (some r) → r = .failed .interrupted) ∧
    ((∀ last, s'.activity t ≠ .ready last) →
      αs.count (.step t) < 4 ∧ (∀ g m, ¬ (s'.activity t).AsksFor L g m) ∧
        (s'.CanStep L t ∨ ∃ w, s'.QueuesBehind L t w))

/-- A flag is cleared by its thread alone. -/
theorem Reachable.clears_flag (reachable : Reachable L s) (next : s.next? L α = some s')
    (flag : s.isInterrupted t = true) (cleared : s'.isInterrupted t = false) :
    α = .clearFlag t ∨ α = .step t ∧ ∃ a stage stage', s.activity t = .acquiring a stage ∧
      a.entry.manner.heedsInterrupts = true ∧ stage.checksFlag = true ∧
      s'.activity t = .acquiring a stage' ∧ stage'.verdict? = some .interrupted := by
  obtain same | ⟨-, set⟩ | ⟨rfl, -⟩ | ⟨rfl, turn⟩ := flag_of_next? next t
  · rw [same, flag] at cleared
    cases cleared
  · rw [set] at cleared
    cases cleared
  · exact .inl rfl
  · obtain ⟨a, stage, stage', acquiring, heeds, checks, acquiring', interrupted⟩ := turn.of_heed
    have heeded : a.entry.manner.heedsInterrupts = true := by
      rw [← reachable.heedsInterrupts_eq acquiring]
      exact heeds.1
    exact .inr ⟨rfl, a, stage, stage', acquiring, heeded, checks, acquiring', interrupted⟩

/-- A flag is set from outside only. -/
theorem raises_flag (next : s.next? L α = some s') (flag : s.isInterrupted t = false)
    (raised : s'.isInterrupted t = true) : α = .interrupt t := by
  obtain same | ⟨rfl, -⟩ | ⟨-, cleared, -⟩ | ⟨-, turn⟩ := flag_of_next? next t
  · rw [same, flag] at raised
    cases raised
  · rfl
  · rw [raised] at cleared
    cases cleared
  · obtain ⟨a, stage, stage', -, heeds, -⟩ := turn.of_heed
    rw [heeds.2] at flag
    cases flag

/-- An interrupted acquisition returns that it was, and leaves nothing behind; until then it waits
for no resources. -/
theorem Reachable.interruption_surfaces {a : Acquisition} {stage : AcquireStage}
    (reachable : Reachable L s) (acquiring : s.activity t = .acquiring a stage)
    (interrupted : stage.verdict? = some .interrupted) (single : ∀ c, .call t c ∉ αs)
    (run : s.run? L αs = some s') :
    (∀ r, s'.activity t = .ready (some r) → r = .failed .interrupted ∧ s'.NothingLeft L t a.half) ∧
    ((∀ last, s'.activity t ≠ .ready last) →
      αs.count (.step t) < 6 ∧ (s'.CanStep L t ∨ ∃ w, s'.QueuesBehind L t w)) := by
  have outcome := reachable.interrupted_cases acquiring interrupted single run
  constructor
  · intro r ready
    obtain ⟨stage', acquiring', -⟩ | ⟨ready', absent⟩ := outcome
    · rw [ready] at acquiring'
      cases acquiring'
    · have same : r = .failed .interrupted := by
        rw [ready] at ready'
        cases ready'
        rfl
      exact ⟨same, .of_ready (reachable.run run).invariant ready' absent⟩
  · intro busy
    obtain ⟨stage', acquiring', interrupted', count⟩ | ⟨ready', -⟩ := outcome
    · have left := stage'.stepsLeft_pos interrupted'
      refine ⟨by omega, (reachable.run run).canStep_or_queuesBehind busy ?_⟩
      rintro a' m wakeAt asleep
      rw [acquiring'] at asleep
      cases asleep
      cases interrupted'
    · exact absurd ready' (busy _)

/-- An acquisition that finds the flag set at its start asks for no monitor before it returns. -/
theorem Calling.interrupted_at_once {h : Half} {entry : EntryPoint}
    (calling : s.Calling L t (.acquire h entry) αs s')
    (heeds : entry.manner.heedsInterrupts = true) (flag : s.isInterrupted t = true)
    (absent : ¬ s.IsHeldBy h t) :
    (∀ r, s'.activity t = .ready (some r) → r = .failed .interrupted) ∧
    ((∀ last, s'.activity t ≠ .ready last) →
      αs.count (.step t) < 4 ∧ (∀ g m, ¬ (s'.activity t).AsksFor L g m) ∧
        (s'.CanStep L t ∨ ∃ w, s'.QueuesBehind L t w)) := by
  have outcome := calling.hasty heeds flag absent
  constructor
  · intro r ready
    obtain ⟨-, -, -, acquiring⟩ | ready' := outcome
    · rw [ready] at acquiring
      cases acquiring
    · rw [ready] at ready'
      cases ready'
      rfl
  · intro busy
    obtain ⟨few, -, -, acquiring⟩ | ready' := outcome
    · refine ⟨few, ?_, calling.reachable'.canStep_or_queuesBehind busy ?_⟩
      · rw [acquiring]
        rintro g m ⟨-, asks⟩
        rw [AcquireStage.asksFor_hasty] at asks
        cases asks
      · rintro a' m wakeAt asleep
        rw [acquiring] at asleep
        injection asleep with _ asleep
        exact AcquireStage.hasty_ne_asleep _ m false wakeAt asleep
    · exact absurd ready' (busy _)

/-- **Interrupts are neither lost nor invented.** -/
theorem Reachable.interruptsAccounted (reachable : Reachable L s) : s.InterruptsAccounted L where
  raised _ _ _ next flag raised := raises_flag next flag raised
  cleared _ _ _ next flag cleared := reachable.clears_flag next flag cleared
  surfaces _ _ _ _ _ acquiring interrupted single run :=
    reachable.interruption_surfaces acquiring interrupted single run
  once _ _ _ _ _ _ attempt := attempt.heedings_eq
  calm _ _ _ next mine calm := reachable.flags_of_calm next mine calm
  spared _ _ _ _ _ _ attempt calm _ _ _ _ _ split before next mine :=
    attempt.flags_eq calm split before next mine
  immediate _ _ _ _ _ heeds flag absent calling := calling.interrupted_at_once heeds flag absent

/-- What happens while a writer claims what the reader holds, is interrupted when it finds the
reader there, and withdraws. -/
def interruptedInDrain : List (Action Nat) :=
  List.replicate 10 (.step 1) ++ .interrupt 1 :: List.replicate 7 (.step 1)

/-- A writer that is interrupted while it waits for a reader heeds its flag once. -/
theorem interruptsAccounted_interruptedInDrain :
    (finish .threeLocks oneReader : State .hash Nat).InterruptsAccounted .threeLocks ∧
      heedings .threeLocks 1 (finish .threeLocks oneReader : State .hash Nat)
        (.call 1 (.acquire ⟨1, .write⟩ { manner := .lockInterruptibly }) ::
          interruptedInDrain) = 1 ∧
      (finish .threeLocks (oneReader ++
        .call 1 (.acquire ⟨1, .write⟩ { manner := .lockInterruptibly }) :: interruptedInDrain) :
          State .hash Nat).owner? 0 2 = none := by
  have account := (reachable_finish (b := .hash) (L := .threeLocks) oneReader).interruptsAccounted
  have attempt : (finish .threeLocks oneReader : State .hash Nat).Attempt .threeLocks 1
      ⟨1, .write⟩ { manner := .lockInterruptibly } interruptedInDrain
      (finish .threeLocks (oneReader ++
        .call 1 (.acquire ⟨1, .write⟩ { manner := .lockInterruptibly }) :: interruptedInDrain))
      (.failed .interrupted) :=
    { reachable := reachable_finish oneReader
      run := by decide +kernel
      single := by simp [interruptedInDrain]
      returned := by decide +kernel }
  exact ⟨account, account.once _ _ _ _ _ _ attempt, by decide +kernel⟩

end State

end ResourceLocks.Protocol
