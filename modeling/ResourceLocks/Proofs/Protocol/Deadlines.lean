import ResourceLocks.Proofs.Protocol.Acquisition
import ResourceLocks.Proofs.Protocol.Failure
import ResourceLocks.Proofs.Protocol.Solo
import ResourceLocks.Proofs.Session.Providers

/-!
# Deadlines

An acquisition with a timeout has one **deadline**, the instant of the call and the timeout added
up, and carries it through both of its phases as its patience. `State.KeepsDeadline` says what
follows for every moment after the call, whatever happens in the run and however the clock advances
(`State.Calling.keepsDeadline`):

* **It does not give up early**: a verdict of refusal is only reached when the deadline has come
  (`State.Turn.due_of_refused`), wherever the acquisition is then.
* **It does not oversleep**: every sleep has a positive length of at most the interval of the
  registry, and ends at the deadline at the latest (`State.Turn.asleep_cases`).
* A deadline that the clock cannot represent is none, and the acquisition is not refused.

The interval of a registry is positive because no provider is made with an interval out of range
(`Session.keepsIntervals`).
-/

namespace ResourceLocks.Protocol

variable {b : Backing} {K : Type} [Key K]

/-! ## Giving up -/

/-- Who has no time left was not meant to wait, or its deadline has come. -/
theorem Patience.due_of_sleep? {p : Patience} {now : Instant} {interval : Nat}
    (expired : p.sleep? now interval = none) :
    p = .immediate ∨ ∃ deadline, p = .bounded deadline ∧ deadline ≤ now := by
  cases p with
  | endless | interruptible => cases expired
  | immediate => exact .inl rfl
  | bounded deadline =>
    refine .inr ⟨deadline, rfl, ?_⟩
    by_contra early
    rw [sleep?, if_neg early] at expired
    cases expired

/-- **A slice of the time left** is not empty, is not longer than the interval, and ends at the
deadline at the latest, which has not come yet. -/
theorem Patience.slice {deadline now : Instant} {interval : Nat} {length : Option Nat}
    (left : (bounded deadline).sleep? now interval = some length) (positive : 0 < interval) :
    ∃ n, length = some n ∧ 0 < n ∧ n ≤ interval ∧ now < deadline ∧ now + n ≤ deadline := by
  rw [sleep?] at left
  split at left
  · cases left
  · rename_i early
    cases left
    have early : now < deadline := Nat.lt_of_not_le early
    refine ⟨_, rfl, Nat.lt_min.2 ⟨Nat.sub_pos_of_lt early, positive⟩, Nat.min_le_right ..,
      early, ?_⟩
    calc now + min (deadline - now) interval
        ≤ now + (deadline - now) := Nat.add_le_add_left (Nat.min_le_left ..) now
      _ = deadline := Nat.add_sub_of_le early.le

namespace State

variable {L : Layout K} {s s' u v : State b K} {t : ThreadId} {h : Half} {α : Action K}
  {αs : List (Action K)} {a : Acquisition} {stage stage' : AcquireStage} {e : Effect}
  {A : Activity K}

/-- **An acquisition comes to be refused** if it was not meant to wait, or when its deadline has
come. -/
theorem Turn.due_of_refused
    (turn : s.Turn L t (.acquiring a stage) e (.acquiring a stage'))
    (refused : stage'.verdict? = some .refused) :
    stage.verdict? = some .refused ∨ a.patience = .immediate ∨
      ∃ deadline, a.patience = .bounded deadline ∧ deadline ≤ s.now := by
  generalize hA : Activity.acquiring a stage' = A' at turn
  cases turn with
  | expire a m deadline bounded due => exact .inr (.inr ⟨deadline, bounded, due⟩)
  | rouse a m =>
    cases hA
    cases refused
  | acquire turn =>
    cases turn with
    | barred m _ hasty => exact .inr (.inl hasty)
    | refuse m expired => exact .inr (Patience.due_of_sleep? expired)
    | heed m | enter m | free m | record m =>
      cases hA
      simp at refused
    | leave m v =>
      cases hA
      rw [AcquireStage.verdict?_left] at refused
      exact .inl refused
    | withdraw v | goBack v | unclaim v =>
      cases hA
      exact .inl refused
    | alreadyHeld | conclude => cases hA
    | _ =>
      cases hA
      cases refused

/-- A step does not bring an acquisition to a refusal unless it has no time left. -/
theorem refused_of_next? {a' : Acquisition} (next : u.next? L α = some v)
    (here : u.activity t = .acquiring a stage) (here' : v.activity t = .acquiring a' stage')
    (refused : stage'.verdict? = some .refused) :
    stage.verdict? = some .refused ∨ a.patience = .immediate ∨
      ∃ deadline, a.patience = .bounded deadline ∧ deadline ≤ u.now := by
  obtain alike | ⟨e, -, turn, -⟩ := alike_or_turn next t
  · rw [here] at alike
    obtain ⟨stage'', same, kept⟩ := alike.verdict?_eq
    rw [here'] at same
    cases same
    exact .inl (kept ▸ refused)
  · obtain ⟨stage'', same, -⟩ | ⟨-, -, same⟩ | ⟨w, -, same, -⟩ := next?_of_acquiring next here
    all_goals rw [here'] at same; cases same
    rw [here, here'] at turn
    exact turn.due_of_refused refused

/-! ## Falling asleep -/

/-- **Who falls asleep** has settled for it, and the time until it is to wake is what its patience
allows. -/
theorem Turn.asleep_cases {m : Monitor} {notified : Bool} {wakeAt : Option Instant}
    (turn : s.Turn L t A e (.acquiring a (.asleep m notified wakeAt))) :
    A = .acquiring a (.settling m) ∧ ∃ length,
      a.patience.sleep? s.now (L.interval (L.registry a.half)) = some length ∧
      wakeAt = length.map (s.now + ·) := by
  generalize hA : Activity.acquiring a (.asleep m notified wakeAt) = A' at turn
  have asleep : A'.isAsleep = true := hA ▸ rfl
  cases turn with
  | call last c => cases c <;> cases asleep
  | release turn => cases turn <;> cases asleep
  | ask turn => cases turn <;> cases asleep
  | expire => simp [Activity.isAsleep] at asleep
  | rouse => cases asleep
  | acquire turn =>
    cases turn with
    | sleep m length left =>
      cases hA
      exact ⟨rfl, length, left, rfl⟩
    | heed | barred | enter | free | record | leave => simp [Activity.isAsleep] at asleep
    | _ => cases asleep

/-- Nobody but a thread that takes its turn falls asleep. -/
theorem asleep_of_next? {m : Monitor} {notified : Bool} {wakeAt : Option Instant}
    (next : u.next? L α = some v) (awake : (u.activity t).isAsleep = false)
    (asleep : v.activity t = .acquiring a (.asleep m notified wakeAt)) :
    u.activity t = .acquiring a (.settling m) ∧ ∃ length,
      a.patience.sleep? u.now (L.interval (L.registry a.half)) = some length ∧
      wakeAt = length.map (u.now + ·) := by
  obtain ⟨e, A', -, -, turn, rfl⟩ | bystands := turn_or_bystands next t
  · rw [activity_after_self] at asleep
    subst asleep
    exact turn.asleep_cases
  · rw [bystands.alike.eq_of_awake ?_] at asleep
    · rw [asleep] at awake
      cases awake
    · intro a m n w here
      rw [here] at awake
      cases awake

end State

/-! ## The budget of a call -/

section timed

variable {now : Instant} {m : Manner} {timeout : Duration}

/-- Who has a timeout waits up to the deadline, if the clock can represent it. -/
theorem Manner.patience_eq_bounded (timed : m = .tryLockFor timeout)
    (representable : now + timeout.toNanos < Instant.limit) :
    m.patience now = .bounded (now + timeout.toNanos) := by
  refine m.patience_cases (P := fun m p => m = .tryLockFor timeout →
    p = .bounded (now + timeout.toNanos)) nofun nofun nofun ?_ ?_ timed
  · rintro timeout deadline sum ⟨⟩
    rw [(Instant.add?_eq_some_iff.1 sum).2]
  · rintro timeout sum ⟨⟩
    exact absurd representable (Instant.add?_eq_none_iff.1 sum)

/-- Otherwise it waits as if it had none. -/
theorem Manner.patience_eq_interruptible (timed : m = .tryLockFor timeout)
    (excessive : ¬ now + timeout.toNanos < Instant.limit) :
    m.patience now = .interruptible := by
  refine m.patience_cases (P := fun m p => m = .tryLockFor timeout → p = .interruptible) nofun
    (fun _ => rfl) nofun ?_ (fun _ _ _ => rfl) timed
  rintro timeout deadline sum ⟨⟩
  exact absurd (Instant.add?_eq_some_iff.1 sum).1 excessive

/-- Who has a timeout has no time left only when the deadline has come, and then the clock can
represent it. -/
theorem Manner.due_of_expired {now' : Instant} (timed : m = .tryLockFor timeout)
    (expired : m.patience now = .immediate ∨
      ∃ deadline, m.patience now = .bounded deadline ∧ deadline ≤ now') :
    now + timeout.toNanos < Instant.limit ∧ now + timeout.toNanos ≤ now' := by
  by_cases representable : now + timeout.toNanos < Instant.limit
  · rw [patience_eq_bounded timed representable] at expired
    obtain hasty | ⟨deadline, bounded, due⟩ := expired
    · cases hasty
    · cases bounded
      exact ⟨representable, due⟩
  · rw [patience_eq_interruptible timed representable] at expired
    obtain hasty | ⟨deadline, bounded, -⟩ := expired
    · cases hasty
    · cases bounded

end timed

namespace State

variable {L : Layout K} {s s' u v : State b K} {t : ThreadId} {h : Half} {α : Action K}
  {αs : List (Action K)} {entry : EntryPoint} {timeout : Duration}

/-- The deadline of a call with a timeout can be represented, and has come. -/
def IsDue (s : State b K) (timeout : Duration) (now : Instant) : Prop :=
  s.now + timeout.toNanos < Instant.limit ∧ s.now + timeout.toNanos ≤ now

/-- What is due stays due. -/
theorem IsDue.mono {now now' : Instant} (due : s.IsDue timeout now) (le : now ≤ now') :
    s.IsDue timeout now' :=
  ⟨due.1, due.2.trans le⟩

/-- What is to be said of a call with a timeout at a moment after it. -/
structure KeepsDeadline (L : Layout K) (s : State b K) (t : ThreadId) (h : Half)
    (entry : EntryPoint) (timeout : Duration) (u : State b K) : Prop where
  /-- The budget is that of the call in both phases. -/
  budget : ∀ a stage, u.activity t = .acquiring a stage → a.half = h ∧
    (s.now + timeout.toNanos < Instant.limit →
      a.patience = .bounded (s.now + timeout.toNanos)) ∧
    (¬ s.now + timeout.toNanos < Instant.limit → a.patience = .interruptible)
  /-- The acquisition gives up, in whichever phase, only when the deadline has come. -/
  refused : ∀ a stage, u.activity t = .acquiring a stage → stage.verdict? = some .refused →
    s.IsDue timeout u.now
  /-- Its caller is told so only then. -/
  returned : u.activity t = .ready (some (entry.reply false)) → s.IsDue timeout u.now
  /-- A sleep that begins now is not empty, is not longer than the interval of the registry, and
  ends at the deadline at the latest, which has not come yet. -/
  sleeps : ∀ α v a m notified wakeAt, u.next? L α = some v → (u.activity t).isAsleep = false →
    v.activity t = .acquiring a (.asleep m notified wakeAt) →
    ∃ length, wakeAt = some (u.now + length) ∧ 0 < length ∧
      length ≤ L.interval (L.registry h) ∧
      (s.now + timeout.toNanos < Instant.limit →
        u.now < s.now + timeout.toNanos ∧ u.now + length ≤ s.now + timeout.toNanos)

/-- Who has a timeout is told that the wait was not long enough when that is the verdict, and only
then. -/
theorem Acquisition.reply_eq_refused_iff {a : Acquisition} {verdict : Verdict}
    (timed : a.entry.manner = .tryLockFor timeout) :
    a.reply verdict = a.entry.reply false ↔ verdict = .refused := by
  obtain ⟨h, ⟨manner, guarded⟩, patience⟩ := a
  obtain rfl : manner = .tryLockFor timeout := timed
  cases verdict <;> cases guarded <;> simp [Acquisition.reply, EntryPoint.reply]

/-- A refusal is reported by who has come to it. -/
theorem refused_of_reply {a : Acquisition} {stage : AcquireStage} (next : u.next? L α = some v)
    (here : u.activity t = .acquiring a stage) (timed : a.entry.manner = .tryLockFor timeout)
    (returned : v.activity t = .ready (some (a.entry.reply false))) :
    stage.verdict? = some .refused := by
  obtain ⟨stage', there, -⟩ | ⟨-, -, there⟩ | ⟨w, rfl, there, -⟩ := next?_of_acquiring next here
  all_goals rw [returned] at there
  · cases there
  · injection there with told
    injection told with told
    exact absurd told (a.reply_ne_alreadyHeld .refused a.half.kind)
  · injection there with told
    injection told with told
    rw [← (Acquisition.reply_eq_refused_iff timed).1 told.symm]
    rfl

/-- **A call with a timeout is not refused before its deadline**: it does not come to that verdict,
and its caller is not told so. -/
theorem Calling.isDue_of_refused (calling : s.Calling L t (.acquire h entry) αs s')
    (timed : entry.manner = .tryLockFor timeout) :
    (∀ a stage, s'.activity t = .acquiring a stage → stage.verdict? = some .refused →
      s.IsDue timeout s'.now) ∧
    (s'.activity t = .ready (some (entry.reply false)) → s.IsDue timeout s'.now) := by
  refine calling.induction (P := fun _ u =>
    (∀ a stage, u.activity t = .acquiring a stage → stage.verdict? = some .refused →
      s.IsDue timeout u.now) ∧
    (u.activity t = .ready (some (entry.reply false)) → s.IsDue timeout u.now)) ?_ ?_
  · rw [activity_after_self]
    constructor
    · rintro a stage ⟨⟩ refused
      cases refused
    · exact nofun
  · rintro αs α u v before next nocall ⟨verdict, reply⟩
    have le := now_le_of_next? next
    obtain ⟨stage, here⟩ | ⟨last, here⟩ := before.acquiring.cases_activity
    · constructor
      · intro a stage' here' refused
        obtain already | expired := refused_of_next? next here here' refused
        · exact (verdict _ _ here already).mono le
        · exact IsDue.mono (Manner.due_of_expired timed expired) le
      · intro returned
        exact (verdict _ _ here (refused_of_reply next here timed returned)).mono le
    · have there := next?_of_ready next here nocall
      constructor
      · intro a stage' here'
        rw [there] at here'
        cases here'
      · intro returned
        rw [there] at returned
        exact (reply (here.trans returned)).mono le

/-- **One deadline bounds both phases.** -/
theorem Calling.keepsDeadline (calling : s.Calling L t (.acquire h entry) αs s')
    (timed : entry.manner = .tryLockFor timeout) : s.KeepsDeadline L t h entry timeout s' := by
  have budget : ∀ a stage, s'.activity t = .acquiring a stage → a.half = h ∧
      (s.now + timeout.toNanos < Instant.limit →
        a.patience = .bounded (s.now + timeout.toNanos)) ∧
      (¬ s.now + timeout.toNanos < Instant.limit → a.patience = .interruptible) := by
    intro a stage here
    obtain ⟨stage', here'⟩ | ⟨reply, here'⟩ := calling.acquiring.cases_activity
    · rw [here] at here'
      cases here'
      exact ⟨rfl, Manner.patience_eq_bounded timed, Manner.patience_eq_interruptible timed⟩
    · rw [here] at here'
      cases here'
  obtain ⟨refused, returned⟩ := calling.isDue_of_refused timed
  refine ⟨budget, refused, returned, ?_⟩
  intro α v a m notified wakeAt next awake asleep
  obtain ⟨here, length, left, rfl⟩ := asleep_of_next? next awake asleep
  obtain ⟨rfl, bounded, unbounded⟩ := budget a _ here
  have positive : 0 < L.interval (L.registry a.half) := (Settings.inRange _).interval_pos
  by_cases representable : s.now + timeout.toNanos < Instant.limit
  · rw [bounded representable] at left
    obtain ⟨n, rfl, some, short, early, ends⟩ := Patience.slice left positive
    exact ⟨n, rfl, some, short, fun _ => ⟨early, ends⟩⟩
  · rw [unbounded representable] at left
    cases left
    exact ⟨_, rfl, positive, le_rfl, fun fits => absurd fits representable⟩

/-- The time that a call with a timeout takes, and the intervals at which it looks for interrupts
meanwhile. -/
structure WithinDeadline (L : Layout K) (s : State b K) (t : ThreadId) (h : Half)
    (entry : EntryPoint) (timeout : Duration) (u : State b K) : Prop where
  /-- The call keeps its deadline. -/
  deadline : s.KeepsDeadline L t h entry timeout u
  /-- Every provider that there can be has a legal interval. This is not about the call: it is why
  the interval of the registry is one by which the call can slice its time. -/
  intervals : ∀ session : Session b K, session.KeepsIntervals

/-- **Every acquisition with a timeout keeps its deadline**, and there is no provider with an
interval for which it would not. -/
theorem Calling.withinDeadline (calling : s.Calling L t (.acquire h entry) αs s')
    (timed : entry.manner = .tryLockFor timeout) : s.WithinDeadline L t h entry timeout s' where
  deadline := calling.keepsDeadline timed
  intervals := Session.keepsIntervals

/-- What happens while a writer claims what the reader holds, sleeps until its time is up and
withdraws. -/
def timedOutInDrain : List (Action Nat) :=
  List.replicate 12 (.step 1) ++ [.pass 5, .rouse 1] ++ List.replicate 10 (.step 1)

/-- A writer with five nanoseconds that cannot drain is refused in time. -/
theorem withinDeadline_timedOutInDrain :
    (finish .threeLocks oneReader : State .hash Nat).WithinDeadline .threeLocks 1 ⟨1, .write⟩
        { manner := .tryLockFor ⟨0, 5, by decide⟩ } ⟨0, 5, by decide⟩
        (finish .threeLocks (oneReader ++ .call 1 (.acquire ⟨1, .write⟩
          { manner := .tryLockFor ⟨0, 5, by decide⟩ }) :: timedOutInDrain)) ∧
    (finish .threeLocks (oneReader ++ .call 1 (.acquire ⟨1, .write⟩
        { manner := .tryLockFor ⟨0, 5, by decide⟩ }) :: timedOutInDrain) :
      State .hash Nat).activity 1 = .ready (some (.answer false)) := by
  have calling : (finish .threeLocks oneReader : State .hash Nat).Calling .threeLocks 1
      (.acquire ⟨1, .write⟩ { manner := .tryLockFor ⟨0, 5, by decide⟩ }) timedOutInDrain
      (finish .threeLocks (oneReader ++ .call 1 (.acquire ⟨1, .write⟩
        { manner := .tryLockFor ⟨0, 5, by decide⟩ }) :: timedOutInDrain)) := {
    reachable := reachable_finish oneReader
    run := by decide +kernel
    single := by
      intro c hc
      simp [timedOutInDrain] at hc }
  exact ⟨calling.withinDeadline rfl, by decide +kernel⟩

end State

end ResourceLocks.Protocol
