import ResourceLocks.Proofs.Protocol.Turn

/-!
# Verdicts and replies

An acquisition comes to a **verdict** and keeps it until it returns (`State.next?_of_acquiring`):
what it replies is decided from then on. An acquisition that is refused had an end to its patience
(`Activity.Candid`), so that the reply tells the verdict, also for the manners that do not look at
it: the caller is told of success exactly when the half was acquired
(`Activity.Candid.grants_reply`).

`Effect.IsTentative` says how little an acquisition that is not acquired in the end does to what
threads share: it records and clears its own claim, and joins and parts from nothing.
-/

namespace ResourceLocks.Protocol

variable {b : Backing} {K : Type} [Key K]

/-! ## Replies -/

/-- The reply tells of success. -/
def Reply.grants : Reply → Bool
  | .done | .guard | .answer true => true
  | _ => false

/-- The reply tells that a half was not acquired. -/
def Reply.denies : Reply → Bool
  | .answer false | .noGuard | .failed .interrupted | .failed (.alreadyHeld _) => true
  | _ => false

/-- A wait of that patience may end without the resources and without an interrupt. -/
def Patience.hasEnd : Patience → Bool
  | .bounded _ | .immediate => true
  | .endless | .interruptible => false

/-- Who has no time to sleep has an end to its patience. -/
theorem Patience.hasEnd_of_sleep? {p : Patience} {now : Instant} {interval : Nat}
    (expired : p.sleep? now interval = none) : p.hasEnd = true := by
  cases p with
  | endless | interruptible => cases expired
  | bounded deadline | immediate => rfl

/-- The sum of an instant and a timeout is left open here: its limit is too large a number to
compute with. -/
theorem Manner.patience_cases_of_sum {P : Manner → Patience → Prop}
    {add? : Duration → Option Instant} (m : Manner)
    (lock : P .lock .endless) (lockInterruptibly : P .lockInterruptibly .interruptible)
    (tryLock : P .tryLock .immediate)
    (bounded : ∀ timeout deadline, add? timeout = some deadline →
      P (.tryLockFor timeout) (.bounded deadline))
    (unbounded : ∀ timeout, add? timeout = none → P (.tryLockFor timeout) .interruptible) :
    P m (match m with
      | .lock => .endless
      | .lockInterruptibly => .interruptible
      | .tryLock => .immediate
      | .tryLockFor timeout =>
        match add? timeout with
        | some deadline => .bounded deadline
        | none => .interruptible) := by
  cases m with
  | lock => exact lock
  | lockInterruptibly => exact lockInterruptibly
  | tryLock => exact tryLock
  | tryLockFor timeout =>
    dsimp only
    cases sum : add? timeout with
    | some deadline => exact bounded timeout deadline sum
    | none => exact unbounded timeout sum

/-- **The patience of a manner**, case by case. -/
theorem Manner.patience_cases {P : Manner → Patience → Prop} {now : Instant} (m : Manner)
    (lock : P .lock .endless) (lockInterruptibly : P .lockInterruptibly .interruptible)
    (tryLock : P .tryLock .immediate)
    (bounded : ∀ timeout deadline, Instant.add? now timeout = some deadline →
      P (.tryLockFor timeout) (.bounded deadline))
    (unbounded : ∀ timeout, Instant.add? now timeout = none →
      P (.tryLockFor timeout) .interruptible) : P m (m.patience now) :=
  m.patience_cases_of_sum lock lockInterruptibly tryLock bounded unbounded

/-! ## Verdicts -/

namespace AcquireStage

/-- The verdict to which an acquisition has come. -/
def verdict? : AcquireStage → Option Verdict
  | leaving _ v | withdrawing v | returning v | unclaiming v | concluding v => some v
  | joining | noting => some .acquired
  | _ => none

section following

variable (k : Kind) (m : Monitor) (v : Verdict)

/-- Who gives up has a verdict. -/
@[simp] theorem verdict?_givingUp : (givingUp k m v).verdict? = some v := by
  cases k <;> cases m <;> rfl

/-- Who has entered a monitor has yet to come to a verdict. -/
@[simp] theorem verdict?_entered : (entered k m).verdict? = none := by
  cases k <;> cases m <;> rfl

/-- To find resources free is a verdict for a writer that drains. -/
@[simp] theorem verdict?_free :
    (free k m).verdict? = if k = .write ∧ m = .holder then some .acquired else none := by
  cases k <;> cases m <;> rfl

/-- To record holds is a verdict for a reader. -/
@[simp] theorem verdict?_recorded :
    (recorded m).verdict? = if m = .holder then some .acquired else none := by
  cases m <;> rfl

/-- Who leaves a monitor takes its verdict along. -/
@[simp] theorem verdict?_left : (left k m v).verdict? = some v := by
  cases k <;> cases m <;> cases v <;> rfl

end following

end AcquireStage

omit [Key K] in
/-- A notification changes no verdict. -/
theorem Activity.Alike.verdict?_eq {a : Acquisition} {stage : AcquireStage} {B : Activity K}
    (alike : (Activity.acquiring a stage).Alike B) :
    ∃ stage', B = .acquiring a stage' ∧ stage'.verdict? = stage.verdict? := by
  obtain rfl | ⟨a', m, notified, wakeAt, hA, rfl⟩ := alike
  · exact ⟨stage, rfl, rfl⟩
  · cases hA
    exact ⟨_, rfl, rfl⟩

/-- An acquisition waits as it was asked to, and is refused only if its patience has an end. -/
def Activity.Candid : Activity K → Prop
  | .acquiring a stage =>
    (∃ now, a.patience = a.entry.manner.patience now) ∧
      (stage.verdict? = some .refused → a.patience.hasEnd = true)
  | _ => True

section candid

omit [Key K]

variable {a : Acquisition} {v : Verdict}

/-- **Success is reported exactly when the half was acquired.** -/
theorem Activity.Candid.grants_reply
    (candid : (Activity.acquiring a (.concluding v) : Activity K).Candid) :
    (a.reply v).grants = true ↔ v = .acquired := by
  obtain ⟨⟨now, patience⟩, refused⟩ := candid
  cases v with
  | acquired =>
    refine iff_of_true ?_ rfl
    unfold Acquisition.reply EntryPoint.reply
    cases a.entry.manner <;> cases a.entry.guarded <;> rfl
  | refused =>
    have hend : a.patience.hasEnd = true := refused rfl
    rw [patience] at hend
    refine iff_of_false ?_ nofun
    unfold Acquisition.reply EntryPoint.reply
    cases hm : a.entry.manner with
    | lock | lockInterruptibly =>
      rw [hm] at hend
      cases hend
    | tryLock | tryLockFor timeout => cases a.entry.guarded <;> exact nofun
  | interrupted => exact iff_of_false nofun nofun

/-- An acquisition that has come to be acquired does not reply otherwise. -/
theorem Acquisition.denies_reply_acquired (a : Acquisition) :
    (a.reply .acquired).denies = false := by
  unfold Acquisition.reply EntryPoint.reply
  cases a.entry.manner <;> cases a.entry.guarded <;> rfl

end candid

/-! ## Turns -/

/-- The effect does nothing to what is recorded but to a claim of a write half. -/
def Effect.IsTentative (e : Effect) (h : Half) : Prop :=
  match e with
  | .record m h' | .clear m h' => m = .owner ∧ h' = h ∧ h.kind = .write
  | .join _ | .part _ => False
  | _ => True

section turns

variable {L : Layout K} {s : State b K} {t : ThreadId} {a : Acquisition} {stage : AcquireStage}
  {e : Effect} {A' : Activity K}

/-- **An acquisition goes on or returns**: it keeps a verdict to which it has come, and returns what
the verdict says, unless it finds at the start that the half is held. -/
theorem AcquireTurn.outcome (turn : AcquireTurn L s t a stage e A') :
    (∃ stage', A' = .acquiring a stage' ∧
      ∀ v, stage.verdict? = some v → stage'.verdict? = some v) ∨
    (stage = .looking ∧ s.IsHeldBy a.half t ∧
      A' = .ready (some (.failed (.alreadyHeld a.half.kind)))) ∨
    ∃ v, stage = .concluding v ∧ e = .conclude a.half v ∧ A' = .ready (some (a.reply v)) := by
  cases turn with
  | alreadyHeld held => exact .inr (.inl ⟨rfl, held, rfl⟩)
  | conclude v => exact .inr (.inr ⟨v, rfl, rfl, rfl⟩)
  | leave m v => exact .inl ⟨_, rfl, fun w hw => by rw [AcquireStage.verdict?_left]; exact hw⟩
  | withdraw v | goBack v | unclaim v | approachMutex | join => exact .inl ⟨_, rfl, fun w hw => hw⟩
  | _ => exact .inl ⟨_, rfl, nofun⟩

/-- Only an acquisition whose patience has an end is refused. -/
theorem AcquireTurn.hasEnd_of_refused {stage' : AcquireStage}
    (turn : AcquireTurn L s t a stage e (.acquiring a stage'))
    (refused : stage'.verdict? = some .refused) :
    stage.verdict? = some .refused ∨ a.patience.hasEnd = true := by
  generalize hA : Activity.acquiring a stage' = A' at turn
  cases turn with
  | barred m _ hasty =>
    rw [hasty]
    exact .inr rfl
  | refuse m expired => exact .inr (Patience.hasEnd_of_sleep? expired)
  | heed m =>
    cases hA
    rw [AcquireStage.verdict?_givingUp] at refused
    cases refused
  | enter m =>
    cases hA
    rw [AcquireStage.verdict?_entered] at refused
    cases refused
  | free m =>
    cases hA
    rw [AcquireStage.verdict?_free] at refused
    split at refused <;> cases refused
  | record m =>
    cases hA
    rw [AcquireStage.verdict?_recorded] at refused
    split at refused <;> cases refused
  | leave m v =>
    cases hA
    rw [AcquireStage.verdict?_left] at refused
    exact .inl refused
  | alreadyHeld held => cases hA
  | conclude v => cases hA
  | withdraw v | goBack v | unclaim v =>
    cases hA
    exact .inl refused
  | _ =>
    cases hA
    cases refused

/-- An acquisition that has not come to be acquired changes only its own claim in the ledgers. -/
theorem AcquireTurn.isTentative (turn : AcquireTurn L s t a stage e A')
    (fits : stage.Fits a.half.kind) (before : stage.verdict? ≠ some .acquired)
    (after : ∀ stage', A' = .acquiring a stage' → stage'.verdict? ≠ some .acquired) :
    e.IsTentative a.half := by
  cases turn with
  | record m =>
    have hm : m = .ofKind a.half.kind := fits
    have hafter := after _ rfl
    rw [AcquireStage.verdict?_recorded] at hafter
    cases hk : a.half.kind with
    | read =>
      rw [hm, hk] at hafter
      exact absurd rfl hafter
    | write => exact ⟨by rw [hm, hk]; rfl, rfl, hk⟩
  | unclaim v => exact ⟨rfl, rfl, fits.1⟩
  | join => exact before rfl
  | conclude v => cases v <;> trivial
  | _ => trivial

end turns

/-! ## Actions -/

namespace State

variable {L : Layout K} {s s' : State b K} {t : ThreadId} {α : Action K}

/-- Acquisitions are candid in every reachable state. -/
theorem Reachable.candid (reachable : Reachable L s) (t : ThreadId) : (s.activity t).Candid := by
  refine reachable.activity_of_turn (fun last => trivial) ?_ ?_ t
  · intro s t A e A' turn candid
    cases turn with
    | call last c =>
      cases c with
      | acquire h entry => exact ⟨⟨s.now, rfl⟩, nofun⟩
      | _ => trivial
    | @acquire a stage e A' turn =>
      obtain ⟨patience, refused⟩ := candid
      obtain ⟨stage', rfl, -⟩ | ⟨-, -, rfl⟩ | ⟨v, -, -, rfl⟩ := turn.outcome
      · refine ⟨patience, fun hv => ?_⟩
        obtain before | hend := turn.hasEnd_of_refused hv
        · exact refused before
        · exact hend
      · trivial
      · trivial
    | release turn => cases turn <;> trivial
    | ask turn => cases turn <;> trivial
    | expire a m deadline bounded => exact ⟨candid.1, fun _ => by rw [bounded]; rfl⟩
    | rouse a m => exact ⟨candid.1, nofun⟩
  · rintro A B (rfl | ⟨a, m, notified, wakeAt, rfl, rfl⟩) candid
    · exact candid
    · exact ⟨candid.1, nofun⟩

/-- An activity that changes, but for a notification, changes in a turn of its thread. -/
theorem alike_or_turn (next : s.next? L α = some s') (t : ThreadId) :
    (s.activity t).Alike (s'.activity t) ∨ ∃ e, α.turnOf? = some t ∧
      s.Turn L t (s.activity t) e (s'.activity t) ∧ s' = s.after L t e (s'.activity t) := by
  obtain ⟨u, e, A', hα, -, turn, rfl⟩ | ⟨-, same⟩ := next?_cases next
  · by_cases ht : t = u
    · subst ht
      rw [activity_after_self]
      exact .inr ⟨e, hα, turn, rfl⟩
    · exact .inl (alike_after L s e A' ht)
  · rw [same.activity]
    exact .inl (.refl _)

/-- **Whatever happens, an acquisition goes on or returns**: it keeps a verdict to which it has
come, and returns what the verdict says, unless it finds at the start that the half is held. -/
theorem next?_of_acquiring {a : Acquisition} {stage : AcquireStage}
    (next : s.next? L α = some s') (acquiring : s.activity t = .acquiring a stage) :
    (∃ stage', s'.activity t = .acquiring a stage' ∧
      ∀ v, stage.verdict? = some v → stage'.verdict? = some v) ∨
    (stage = .looking ∧ s.IsHeldBy a.half t ∧
      s'.activity t = .ready (some (.failed (.alreadyHeld a.half.kind)))) ∨
    ∃ v, stage = .concluding v ∧ s'.activity t = .ready (some (a.reply v)) ∧
      s' = s.after L t (.conclude a.half v) (.ready (some (a.reply v))) := by
  obtain alike | ⟨e, -, turn, hs'⟩ := alike_or_turn next t
  · rw [acquiring] at alike
    obtain same | ⟨a', m, notified, wakeAt, hA, hB⟩ := alike
    · exact .inl ⟨stage, same, fun v hv => hv⟩
    · cases hA
      exact .inl ⟨_, hB, nofun⟩
  · rw [acquiring] at turn
    generalize s'.activity t = A' at turn hs'
    cases turn with
    | acquire turn =>
      obtain goesOn | already | ⟨v, hstage, rfl, rfl⟩ := turn.outcome
      · exact .inl goesOn
      · exact .inr (.inl already)
      · exact .inr (.inr ⟨v, hstage, rfl, hs'⟩)
    | expire a m => exact .inl ⟨_, rfl, nofun⟩
    | rouse a m => exact .inl ⟨_, rfl, nofun⟩

/-- The only turn of a thread that is doing nothing is to make a call. -/
theorem turnOf?_ne_of_ready {last : Option Reply} (next : s.next? L α = some s')
    (ready : s.activity t = .ready last) (nocall : ∀ c, α ≠ .call t c) : α.turnOf? ≠ some t := by
  intro hα
  cases α with
  | call u c =>
    cases hα
    exact nocall c rfl
  | step u =>
    cases hα
    simp [next?, step?, ready] at next
  | expire u =>
    cases hα
    simp [next?, expire?, ready] at next
  | rouse u =>
    cases hα
    simp [next?, rouse?, ready] at next
  | _ => cases hα

/-- A thread that is doing nothing goes on doing nothing until it makes a call. -/
theorem next?_of_ready {last : Option Reply} (next : s.next? L α = some s')
    (ready : s.activity t = .ready last) (nocall : ∀ c, α ≠ .call t c) :
    s'.activity t = .ready last := by
  obtain alike | ⟨e, hα, -, -⟩ := alike_or_turn next t
  · rw [ready] at alike
    obtain same | ⟨a', m, notified, wakeAt, hA, -⟩ := alike
    · exact same
    · cases hA
  · exact absurd hα (turnOf?_ne_of_ready next ready nocall)

end State

end ResourceLocks.Protocol
