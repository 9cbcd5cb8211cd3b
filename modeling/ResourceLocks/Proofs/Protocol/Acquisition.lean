import ResourceLocks.Proofs.Protocol.Interrupts

/-!
# Acquisitions

What the call to acquire a half does to the hold sets of its thread, and whatever other threads do
meanwhile. `State.Acquiring` says how far an acquisition has come; `State.Calling.acquiring` that it
is always at one of these places.

* An acquisition looks into the hold set first. A half that is held already is **refused at once**
  (`State.Calling.refusesAtOnce`): two steps, in which nothing is changed and no monitor is asked
  for.
* Otherwise the half is not held, and stays so until the thread joins the hold set. An acquisition
  that reports success **gains the hold** (`State.GainsHold`): the thread is in this one hold set
  more, and has the entries of this one half more in the ledgers. What reports anything else gains
  nothing (`State.Attempt.grants_iff`).
* Without an end to its patience an acquisition is not refused (`State.Attempt.endless`).
-/

namespace ResourceLocks.Protocol

variable {b : Backing} {K : Type} [Key K]

/-! ## Manners without an end -/

/-- An acquisition in that manner that starts at an instant waits until it is acquired or
interrupted: it has no deadline, or one that the clock cannot represent. -/
def Manner.IsEndless (now : Instant) : Manner → Prop
  | lock | lockInterruptibly => True
  | tryLock => False
  | tryLockFor timeout => Instant.add? now timeout = none

/-- Such a manner has no end to its patience. -/
theorem Manner.IsEndless.hasEnd_patience {now : Instant} {m : Manner}
    (isEndless : m.IsEndless now) : (m.patience now).hasEnd = false := by
  refine m.patience_cases (P := fun m p => m.IsEndless now → p.hasEnd = false) (fun _ => rfl)
    (fun _ => rfl) nofun ?_ (fun _ _ _ => rfl) isEndless
  intro timeout deadline sum none
  cases sum.symm.trans none

/-! ## Replies -/

/-- Only who finds the half held is told so. -/
theorem Acquisition.reply_ne_alreadyHeld (a : Acquisition) (v : Verdict) (k : Kind) :
    a.reply v ≠ .failed (.alreadyHeld k) := by
  cases v with
  | interrupted => exact nofun
  | acquired | refused =>
    unfold reply EntryPoint.reply
    cases a.entry.manner <;> cases a.entry.guarded <;> exact nofun

/-- Who has acquired the half is told so. -/
theorem Acquisition.grants_reply_acquired (a : Acquisition) :
    (a.reply .acquired).grants = true := by
  unfold reply EntryPoint.reply
  cases a.entry.manner <;> cases a.entry.guarded <;> rfl

/-- An acquisition that is interrupted was asked for in a manner that may be. -/
def Activity.Heedful : Activity K → Prop
  | .acquiring a stage =>
    (∃ now, a.patience = a.entry.manner.patience now) ∧
      (stage.verdict? = some .interrupted → a.entry.manner.heedsInterrupts = true)
  | _ => True

/-! ## What a turn does to hold sets -/

/-- The effect changes a hold set. -/
def Effect.changesHolds : Effect → Bool
  | .join _ | .part _ => true
  | _ => false

/-- Effects that change no hold set leave every half with those who hold it. -/
theorem Effect.isHeldBy_apply_of_changesHolds {L : Layout K} {s : State b K} {t u : ThreadId}
    {e : Effect} {h : Half} (quiet : e.changesHolds = false) :
    (e.apply L t s).IsHeldBy h u ↔ s.IsHeldBy h u := by
  rw [isHeldBy_apply]
  cases e with
  | join h' | part h' => cases quiet
  | _ => exact Iff.rfl

/-- What a turn of an acquisition has to do with the hold set of its half. -/
inductive AcquireMove (s : State b K) (t : ThreadId) (a : Acquisition) :
    AcquireStage → Effect → Activity K → Prop where
  /-- The mutex of the hold set is entered. -/
  | begins : AcquireMove s t a .begin (.enterMutex a.half) (.acquiring a .looking)
  /-- The thread finds that it holds the half, and the call returns. -/
  | finds (held : s.IsHeldBy a.half t) :
    AcquireMove s t a .looking (.exitMutex a.half none)
      (.ready (some (.failed (.alreadyHeld a.half.kind))))
  /-- The thread knows that it does not hold the half, and does not join the hold set yet. -/
  | goesOn (stage stage' : AcquireStage) (e : Effect) (quiet : e.changesHolds = false)
      (absent : stage.isAbsent = true ∨ stage = .looking ∧ ¬ s.IsHeldBy a.half t)
      (absent' : stage'.isAbsent = true) :
    AcquireMove s t a stage e (.acquiring a stage')
  /-- The thread joins the hold set. -/
  | joins : AcquireMove s t a .noting (.join a.half) (.acquiring a (.concluding .acquired))
  /-- The call returns. -/
  | returns (v : Verdict) :
    AcquireMove s t a (.concluding v) (.conclude a.half v) (.ready (some (a.reply v)))

namespace State

variable {L : Layout K} {s s' u v : State b K} {t : ThreadId} {h : Half} {α : Action K}
  {αs αs₁ αs₂ : List (Action K)} {a : Acquisition} {stage : AcquireStage} {e : Effect}
  {A' : Activity K} {entry : EntryPoint} {reply : Reply}

/-- **What an acquisition has to do with its hold set**, turn by turn. -/
theorem Turn.acquireMove (turn : s.Turn L t (.acquiring a stage) e A') :
    AcquireMove s t a stage e A' := by
  cases turn with
  | acquire turn =>
    cases turn with
    | begin free => exact .begins
    | alreadyHeld held => exact .finds held
    | look absent => exact .goesOn _ _ _ rfl (.inr ⟨rfl, absent⟩) rfl
    | heed m | barred m =>
      exact .goesOn _ _ _ rfl (.inl rfl) (AcquireStage.isAbsent_givingUp _ m nofun)
    | enter m | free m | record m | leave m v => exact .goesOn _ _ _ rfl (.inl rfl) (by simp)
    | join => exact .joins
    | conclude v => exact .returns v
    | _ => exact .goesOn _ _ _ rfl (.inl rfl) rfl
  | expire m => exact .goesOn _ _ _ rfl (.inl rfl) (AcquireStage.isAbsent_givingUp _ _ nofun)
  | rouse m => exact .goesOn _ _ _ rfl (.inl rfl) rfl

/-- An acquisition that is interrupted was asked for in a manner that may be. -/
theorem Reachable.heedful (reachable : Reachable L s) (t : ThreadId) :
    (s.activity t).Heedful := by
  refine reachable.activity_of_turn (fun last => trivial) ?_ ?_ t
  · intro s t A e A' turn heedful
    cases A with
    | ready last =>
      cases turn with
      | call last c =>
        cases c with
        | acquire h entry => exact ⟨⟨s.now, rfl⟩, nofun⟩
        | _ => trivial
    | acquiring a stage =>
      obtain ⟨⟨now, patience⟩, known⟩ := heedful
      obtain ⟨stage', rfl, hverdict, -⟩ | ⟨r, rfl, -⟩ := turn.interrupted_iff
      · refine ⟨⟨now, patience⟩, fun interrupted => ?_⟩
        obtain before | rfl := hverdict.1 interrupted
        · exact known before
        · obtain ⟨a', stage₀, stage₁, hA, heeds, -⟩ := turn.of_heed
          cases hA
          have heeded := heeds.1
          rw [patience, Manner.heedsInterrupts_patience] at heeded
          exact heeded
      · trivial
    | releasing r stage =>
      cases turn with
      | release turn => cases turn <;> trivial
    | asking q stage =>
      cases turn with
      | ask turn => cases turn <;> trivial
  · rintro A B (rfl | ⟨a, m, notified, wakeAt, rfl, rfl⟩) heedful
    · exact heedful
    · exact ⟨heedful.1, nofun⟩

/-! ## An acquisition, action by action -/

/-- How far an acquisition has come. -/
inductive Acquiring (s : State b K) (t : ThreadId) (a : Acquisition) (αs : List (Action K))
    (u : State b K) : Prop where
  /-- The thread has not found out whether it holds the half. -/
  | before (stage : AcquireStage) (here : u.activity t = .acquiring a stage)
    (early : stage = .begin ∧ αs.count (.step t) = 0 ∨ stage = .looking ∧ αs.count (.step t) = 1)
    (held : ∀ h, u.IsHeldBy h t ↔ s.IsHeldBy h t)
  /-- The half was held. -/
  | refused (here : u.activity t = .ready (some (.failed (.alreadyHeld a.half.kind))))
    (holder : s.IsHeldBy a.half t) (held : ∀ h, u.IsHeldBy h t ↔ s.IsHeldBy h t)
  /-- The half was not held, and the thread has not joined its hold set. -/
  | underWay (stage : AcquireStage) (here : u.activity t = .acquiring a stage)
    (absent : stage.isAbsent = true) (fresh : ¬ s.IsHeldBy a.half t)
    (held : ∀ h, u.IsHeldBy h t ↔ s.IsHeldBy h t)
  /-- The thread has joined the hold set. -/
  | joined (here : u.activity t = .acquiring a (.concluding .acquired))
    (fresh : ¬ s.IsHeldBy a.half t) (held : ∀ h, u.IsHeldBy h t ↔ h = a.half ∨ s.IsHeldBy h t)
  /-- The half is acquired. -/
  | acquired (here : u.activity t = .ready (some (a.reply .acquired)))
    (fresh : ¬ s.IsHeldBy a.half t) (held : ∀ h, u.IsHeldBy h t ↔ h = a.half ∨ s.IsHeldBy h t)
  /-- The half is not acquired. -/
  | failed (v : Verdict) (here : u.activity t = .ready (some (a.reply v))) (other : v ≠ .acquired)
    (candid : (Activity.acquiring a (.concluding v) : Activity K).Candid)
    (heedful : (Activity.acquiring a (.concluding v) : Activity K).Heedful)
    (fresh : ¬ s.IsHeldBy a.half t) (held : ∀ h, u.IsHeldBy h t ↔ s.IsHeldBy h t)

/-- Where an acquisition stands that has not returned. -/
theorem Acquiring.cases_stage (stands : s.Acquiring t a αs u)
    (here : u.activity t = .acquiring a stage) :
    ((stage = .begin ∧ αs.count (.step t) = 0 ∨ stage = .looking ∧ αs.count (.step t) = 1) ∧
      ∀ h, u.IsHeldBy h t ↔ s.IsHeldBy h t) ∨
    (stage.isAbsent = true ∧ ¬ s.IsHeldBy a.half t ∧ ∀ h, u.IsHeldBy h t ↔ s.IsHeldBy h t) ∨
    (stage = .concluding .acquired ∧ ¬ s.IsHeldBy a.half t ∧
      ∀ h, u.IsHeldBy h t ↔ h = a.half ∨ s.IsHeldBy h t) := by
  cases stands with
  | before stage' here' early held =>
    rw [here] at here'
    cases here'
    exact .inl ⟨early, held⟩
  | underWay stage' here' absent fresh held =>
    rw [here] at here'
    cases here'
    exact .inr (.inl ⟨absent, fresh, held⟩)
  | joined here' fresh held =>
    rw [here] at here'
    cases here'
    exact .inr (.inr ⟨rfl, fresh, held⟩)
  | refused here' | acquired here' | failed v here' =>
    rw [here] at here'
    cases here'

/-- A turn of the thread takes its acquisition further. -/
theorem Acquiring.turn (stands : s.Acquiring t a αs u) (here : u.activity t = .acquiring a stage)
    (reachable : Reachable L u) (turn : u.Turn L t (.acquiring a stage) e A')
    (step : α = .step t ∨ e = .nothing) : s.Acquiring t a (αs ++ [α]) (u.after L t e A') := by
  have hactivity : (u.after L t e A').activity t = A' := activity_after_self ..
  have quiet : e.changesHolds = false →
      ∀ h, (u.after L t e A').IsHeldBy h t ↔ u.IsHeldBy h t :=
    fun quiet h => Effect.isHeldBy_apply_of_changesHolds quiet
  cases turn.acquireMove with
  | begins =>
    obtain rfl : α = .step t := step.resolve_right nofun
    obtain ⟨⟨-, count⟩ | ⟨hne, -⟩, held⟩ | ⟨absent, -⟩ | ⟨hne, -⟩ := stands.cases_stage here
    · refine .before .looking hactivity (.inr ⟨rfl, ?_⟩) fun h => (quiet rfl h).trans (held h)
      rw [List.count_append, List.count_singleton_self, count]
    · cases hne
    · cases absent
    · cases hne
  | finds holder =>
    obtain ⟨-, held⟩ | ⟨absent, -⟩ | ⟨hne, -⟩ := stands.cases_stage here
    · exact .refused hactivity ((held a.half).1 holder) fun h => (quiet rfl h).trans (held h)
    · cases absent
    · cases hne
  | goesOn _ stage' _ still known absent' =>
    obtain ⟨early, held⟩ | ⟨-, fresh, held⟩ | ⟨rfl, -⟩ := stands.cases_stage here
    · have fresh : ¬ u.IsHeldBy a.half t := by
        obtain absent | ⟨-, fresh⟩ := known
        · obtain ⟨rfl, -⟩ | ⟨rfl, -⟩ := early <;> cases absent
        · exact fresh
      rw [held] at fresh
      exact .underWay stage' hactivity absent' fresh fun h => (quiet still h).trans (held h)
    · exact .underWay stage' hactivity absent' fresh fun h => (quiet still h).trans (held h)
    · obtain absent | ⟨hne, -⟩ := known
      · cases absent
      · cases hne
  | joins =>
    obtain ⟨⟨hne, -⟩ | ⟨hne, -⟩, -⟩ | ⟨-, fresh, held⟩ | ⟨hne, -⟩ := stands.cases_stage here
    · cases hne
    · cases hne
    · refine .joined hactivity fresh fun h => ?_
      rw [isHeldBy_after, Effect.isHeldBy_apply]
      simp only [held, and_true]
    · cases hne
  | returns v =>
    have still : (Effect.conclude a.half v).changesHolds = false := by
      cases v <;> rfl
    obtain ⟨⟨hne, -⟩ | ⟨hne, -⟩, -⟩ | ⟨absent, fresh, held⟩ | ⟨concluding, fresh, held⟩ :=
      stands.cases_stage here
    · cases hne
    · cases hne
    · have candid := reachable.candid t
      have heedful := reachable.heedful t
      rw [here] at candid heedful
      refine .failed v hactivity ?_ candid heedful fresh fun h => (quiet still h).trans (held h)
      rintro rfl
      cases absent
    · cases concluding
      exact .acquired hactivity fresh fun h => (quiet still h).trans (held h)

/-- An acquisition under way is at one of its stages, or has returned. -/
theorem Acquiring.cases_activity (stands : s.Acquiring t a αs u) :
    (∃ stage, u.activity t = .acquiring a stage) ∨ ∃ reply, u.activity t = .ready (some reply) := by
  cases stands with
  | before stage here | underWay stage here => exact .inl ⟨stage, here⟩
  | joined here => exact .inl ⟨_, here⟩
  | refused here | acquired here | failed v here => exact .inr ⟨_, here⟩

/-- What is no turn of the thread leaves its acquisition where it is, but for a notification. -/
theorem Acquiring.bystands (stands : s.Acquiring t a αs u) (bystands : u.Bystands t α v) :
    s.Acquiring t a (αs ++ [α]) v := by
  have hcount : (αs ++ [α]).count (.step t) = αs.count (.step t) := bystands.count_step αs
  obtain ⟨-, alike, hheld, -⟩ := bystands
  cases stands with
  | before stage here early held =>
    refine .before stage ((alike.eq_of_awake ?_).trans here) (hcount.symm ▸ early)
      fun h => (hheld h).trans (held h)
    rintro a' m notified wakeAt hA
    rw [here] at hA
    cases hA
    obtain ⟨hne, -⟩ | ⟨hne, -⟩ := early <;> cases hne
  | refused here holder held =>
    exact .refused ((alike.eq_of_awake (by simp [here])).trans here) holder
      fun h => (hheld h).trans (held h)
  | underWay stage here absent fresh held =>
    obtain same | ⟨a', m, notified, wakeAt, hA, hB⟩ := alike
    · exact .underWay stage (same.trans here) absent fresh fun h => (hheld h).trans (held h)
    · rw [here] at hA
      cases hA
      exact .underWay _ hB rfl fresh fun h => (hheld h).trans (held h)
  | joined here fresh held =>
    exact .joined ((alike.eq_of_awake (by simp [here])).trans here) fresh
      fun h => (hheld h).trans (held h)
  | acquired here fresh held =>
    exact .acquired ((alike.eq_of_awake (by simp [here])).trans here) fresh
      fun h => (hheld h).trans (held h)
  | failed w here other candid heedful fresh held =>
    exact .failed w ((alike.eq_of_awake (by simp [here])).trans here) other candid heedful fresh
      fun h => (hheld h).trans (held h)

/-- **How far an acquisition has come**, at any time after the call. -/
theorem Calling.acquiring (calling : s.Calling L t (.acquire h entry) αs s') :
    s.Acquiring t ⟨h, entry, entry.manner.patience s.now⟩ αs s' := by
  refine calling.induction (P := s.Acquiring t ⟨h, entry, entry.manner.patience s.now⟩) ?_ ?_
  · refine .before .begin ?_ (.inl ⟨rfl, by simp⟩) fun h => Iff.rfl
    rw [activity_after_self]
    rfl
  · intro αs α u v before next nocall stands
    obtain ⟨e, A', mine, step, turn, rfl⟩ | bystands := turn_or_bystands next t
    · obtain ⟨stage, here⟩ | ⟨reply, here⟩ := stands.cases_activity
      · rw [here] at turn
        exact stands.turn here before.reachable' turn step
      · exact absurd mine (turnOf?_ne_of_ready next here nocall)
    · exact stands.bystands bystands

/-! ## What an acquisition gains -/

/-- A thread has gained a hold of a half, and nothing else: it is in one hold set more, owns what it
owned and the resources of a write half, and has one hold more on those of a read half. -/
structure GainsHold (L : Layout K) (s : State b K) (t : ThreadId) (h : Half) (s' : State b K) :
    Prop where
  /-- The thread did not hold the half. -/
  fresh : ¬ s.IsHeldBy h t
  /-- The thread holds what it held, and the half. -/
  held : ∀ h', s'.IsHeldBy h' t ↔ h' = h ∨ s.IsHeldBy h' t
  /-- The thread owns what it owned, and the resources of a write half. -/
  owned : ∀ g r, s'.owner? g r = some t ↔ s.owner? g r = some t ∨ Covers L .write g r h
  /-- The thread has the holds that it had, and one more on every resource of a read half. -/
  counted : ∀ g r,
    s'.holdCount g r t = s.holdCount g r t + if Covers L .read g r h then 1 else 0

/-- Between calls a thread that is in one hold set more has gained a hold: the other way round it
would end it. -/
theorem GainsHold.of_held {last last' : Option Reply} (inv : s.Invariant L) (inv' : s'.Invariant L)
    (ready : s.activity t = .ready last) (ready' : s'.activity t = .ready last')
    (fresh : ¬ s.IsHeldBy h t) (held : ∀ h', s'.IsHeldBy h' t ↔ h' = h ∨ s.IsHeldBy h' t) :
    s.GainsHold L t h s' := by
  have holder : s'.IsHeldBy h t := (held h).2 (.inl rfl)
  have ends : s'.EndsHold L t h s := by
    refine .of_held inv' inv ready' ready holder fun h' => ?_
    rw [held]
    constructor
    · intro before
      refine ⟨?_, .inr before⟩
      rintro rfl
      exact fresh before
    · rintro ⟨hne, rfl | before⟩
      · exact absurd rfl hne
      · exact before
  refine ⟨fresh, held, ?_, ends.counted⟩
  intro g r
  rw [ends.owned]
  constructor
  · intro owned
    by_cases covers : Covers L .write g r h
    · exact .inr covers
    · exact .inl ⟨owned, covers⟩
  · rintro (⟨owned, -⟩ | covers)
    · exact owned
    · exact (inv'.owner_iff g r t).2 ⟨h, covers, .inl holder⟩

/-- Between calls a thread that is in the same hold sets has the same entries in the ledgers. -/
theorem KeepsFor.of_held {last last' : Option Reply} (inv : s.Invariant L) (inv' : s'.Invariant L)
    (ready : s.activity t = .ready last) (ready' : s'.activity t = .ready last')
    (held : ∀ h, s'.IsHeldBy h t ↔ s.IsHeldBy h t) : s.KeepsFor t s' := by
  have onRecord : ∀ h, s'.OnRecord h t ↔ s.OnRecord h t := by
    intro h
    rw [onRecord_iff_of_ready ready, onRecord_iff_of_ready ready', held]
  refine ⟨held, ?_, ?_⟩
  · intro g r
    rw [inv.owner_iff, inv'.owner_iff]
    simp only [onRecord]
  · intro g r
    have hshares : s'.shares L g r t = s.shares L g r t := by
      unfold shares
      simp only [onRecord]
    have hcount := inv'.count g r t
    rw [hshares, ← inv.count, Nat.cast_inj] at hcount
    exact hcount

/-- How an acquisition ends. -/
inductive Ending (s : State b K) (t : ThreadId) (a : Acquisition) (reply : Reply)
    (s' : State b K) : Prop where
  /-- The half was held. -/
  | refused (reply_eq : reply = .failed (.alreadyHeld a.half.kind)) (holder : s.IsHeldBy a.half t)
    (held : ∀ h, s'.IsHeldBy h t ↔ s.IsHeldBy h t)
  /-- The half is acquired. -/
  | acquired (reply_eq : reply = a.reply .acquired) (fresh : ¬ s.IsHeldBy a.half t)
    (held : ∀ h, s'.IsHeldBy h t ↔ h = a.half ∨ s.IsHeldBy h t)
  /-- The half is not acquired. -/
  | failed (v : Verdict) (reply_eq : reply = a.reply v) (other : v ≠ .acquired)
    (candid : (Activity.acquiring a (.concluding v) : Activity K).Candid)
    (heedful : (Activity.acquiring a (.concluding v) : Activity K).Heedful)
    (fresh : ¬ s.IsHeldBy a.half t) (held : ∀ h, s'.IsHeldBy h t ↔ s.IsHeldBy h t)

namespace Attempt

/-- **How an acquisition ends** that has returned. -/
theorem ending (attempt : s.Attempt L t h entry αs s' reply) :
    s.Ending t ⟨h, entry, entry.manner.patience s.now⟩ reply s' := by
  have returned := attempt.returned
  cases attempt.calling.acquiring with
  | before stage here | underWay stage here =>
    rw [returned] at here
    cases here
  | joined here =>
    rw [returned] at here
    cases here
  | refused here holder held =>
    rw [returned] at here
    cases here
    exact .refused rfl holder held
  | acquired here fresh held =>
    rw [returned] at here
    cases here
    exact .acquired rfl fresh held
  | failed v here other candid heedful fresh held =>
    rw [returned] at here
    cases here
    exact .failed v rfl other candid heedful fresh held

/-- **The reply that a half is held already** is given exactly where it is. -/
theorem alreadyHeld_iff (attempt : s.Attempt L t h entry αs s' reply) :
    reply = .failed (.alreadyHeld h.kind) ↔ s.IsHeldBy h t := by
  cases attempt.ending with
  | refused reply_eq holder => exact iff_of_true reply_eq holder
  | acquired reply_eq fresh =>
    rw [reply_eq]
    exact iff_of_false (Acquisition.reply_ne_alreadyHeld _ _ _) fresh
  | failed v reply_eq other candid heedful fresh =>
    rw [reply_eq]
    exact iff_of_false (Acquisition.reply_ne_alreadyHeld _ _ _) fresh

/-- **An acquisition reports success exactly when it has gained the hold.** Otherwise its thread
keeps what it has. -/
theorem grants_iff (attempt : s.Attempt L t h entry αs s' reply) :
    (reply.grants = true ↔ s.GainsHold L t h s') ∧
      (reply.grants = true → reply = entry.reply true) ∧
      (reply.grants = false → s.KeepsFor t s') := by
  obtain ⟨last, -, ready, -⟩ := attempt.start
  have returned := attempt.returned
  have inv := attempt.reachable.invariant
  have inv' := attempt.calling.reachable'.invariant
  -- Who is in the same hold sets as before has gained nothing.
  have gainless : (∀ h', s'.IsHeldBy h' t ↔ s.IsHeldBy h' t) → ¬ s.GainsHold L t h s' := by
    intro held gains
    exact gains.fresh ((held h).1 ((gains.held h).2 (.inl rfl)))
  cases attempt.ending with
  | refused reply_eq holder held =>
    have denied : ¬ reply.grants = true := by
      rw [reply_eq]
      exact nofun
    exact ⟨iff_of_false denied (gainless held), fun grants => absurd grants denied,
      fun _ => .of_held inv inv' ready returned held⟩
  | acquired reply_eq fresh held =>
    have grants : reply.grants = true := by
      rw [reply_eq]
      exact Acquisition.grants_reply_acquired _
    refine ⟨iff_of_true grants (.of_held inv inv' ready returned fresh held),
      fun _ => reply_eq, fun denied => ?_⟩
    rw [grants] at denied
    cases denied
  | failed v reply_eq other candid heedful fresh held =>
    have denied : ¬ reply.grants = true := by
      rw [reply_eq]
      exact fun grants => other (candid.grants_reply.1 grants)
    exact ⟨iff_of_false denied (gainless held), fun grants => absurd grants denied,
      fun _ => .of_held inv inv' ready returned held⟩

/-- **Without an end to its patience an acquisition is not refused**: it succeeds, or says why it
has not. -/
theorem endless (attempt : s.Attempt L t h entry αs s' reply)
    (isEndless : entry.manner.IsEndless s.now) :
    reply.grants = true ∨ reply = .failed (.alreadyHeld h.kind) ∨
      entry.manner.heedsInterrupts = true ∧ reply = .failed .interrupted := by
  cases attempt.ending with
  | refused reply_eq => exact .inr (.inl reply_eq)
  | acquired reply_eq =>
    left
    rw [reply_eq]
    exact Acquisition.grants_reply_acquired _
  | failed v reply_eq other candid heedful =>
    cases v with
    | acquired => exact absurd rfl other
    | refused =>
      have hend := candid.2 rfl
      rw [isEndless.hasEnd_patience] at hend
      cases hend
    | interrupted => exact .inr (.inr ⟨heedful.2 rfl, reply_eq⟩)

end Attempt

/-! ## A half that is held already -/

/-- Entering a mutex and leaving it touches no records. -/
theorem sameRecords_after_mutex (he : e = .enterMutex h ∨ e = .exitMutex h none) :
    u.SameRecords (u.after L t e A') := by
  refine ⟨fun g => ?_, fun g => ?_, fun h' w => ?_⟩
  · rw [registries_after, Effect.owners_apply]
    obtain rfl | rfl := he <;> rfl
  · rw [registries_after, Effect.holders_apply]
    obtain rfl | rfl := he <;> rfl
  · rw [isHeldBy_after, Effect.isHeldBy_apply]
    obtain rfl | rfl := he <;> exact Iff.rfl

/-- Who is inside a mutex can take its next step. -/
theorem Reachable.canStep_of_mutex (reachable : Reachable L s)
    (inside : (s.holds.get h).mutex = some t) : s.CanStep L t := by
  have inside' := (reachable.invariant.mutex_iff h t).1 inside
  refine reachable.canStep ?_ ?_ ?_ ?_
  · intro last ready
    rw [ready] at inside'
    cases inside'
  · intro a m wakeAt asleep
    rw [asleep] at inside'
    cases inside'
  · intro g m asks
    rw [asks.mutex?] at inside'
    cases inside'
  · intro h' asked
    rw [Activity.mutexAsked?_of_mutex? inside'] at asked
    cases asked

/-- What is to be said of an acquisition of a half that the thread holds already. -/
structure RefusesAtOnce (L : Layout K) (s : State b K) (t : ThreadId) (h : Half)
    (entry : EntryPoint) (αs : List (Action K)) (s' : State b K) : Prop where
  /-- It returns that the half is held. -/
  replies : ∀ reply, s'.activity t = .ready (some reply) → reply = .failed (.alreadyHeld h.kind)
  /-- Until then it has taken less than two steps, has asked for no monitor, and can take its next
  step unless another thread, which can take a step, is inside the mutex of the hold set. -/
  prompt : (∀ last, s'.activity t ≠ .ready last) → αs.count (.step t) < 2 ∧
    (∀ g m, ¬ (s'.activity t).AsksFor L g m) ∧
    (s'.CanStep L t ∨ ∃ w, (s'.holds.get h).mutex = some w ∧ s'.CanStep L w)
  /-- None of its steps changes a ledger, a hold set or a flag. -/
  idle : ∀ αs₁ α αs₂ u v, αs = αs₁ ++ α :: αs₂ →
    s.run? L (.call t (.acquire h entry) :: αs₁) = some u → u.next? L α = some v →
    α.turnOf? = some t → u.SameRecords v ∧ ∀ w, v.isInterrupted w = u.isInterrupted w

/-- Where an acquisition is that has found the half held, or will. -/
theorem Calling.acquiring_of_isHeldBy (calling : s.Calling L t (.acquire h entry) αs s')
    (holder : s.IsHeldBy h t) :
    (∃ stage, s'.activity t = .acquiring ⟨h, entry, entry.manner.patience s.now⟩ stage ∧
      s'.IsHeldBy h t ∧ (stage = .begin ∧ αs.count (.step t) = 0 ∨
        stage = .looking ∧ αs.count (.step t) = 1)) ∨
    s'.activity t = .ready (some (.failed (.alreadyHeld h.kind))) := by
  cases calling.acquiring with
  | before stage here early held => exact .inl ⟨stage, here, (held h).2 holder, early⟩
  | refused here => exact .inr here
  | underWay _ _ _ fresh => exact absurd holder fresh
  | joined _ fresh | acquired _ fresh => exact absurd holder fresh
  | failed _ _ _ _ _ fresh => exact absurd holder fresh

/-- An acquisition of a half that is held asks for no monitor, and can go on where nobody is inside
the mutex of the hold set. -/
theorem Calling.goesOn_of_isHeldBy (calling : s.Calling L t (.acquire h entry) αs s')
    (holder : s.IsHeldBy h t) (busy : ∀ last, s'.activity t ≠ .ready last) :
    αs.count (.step t) < 2 ∧ (∀ g m, ¬ (s'.activity t).AsksFor L g m) ∧
      (s'.CanStep L t ∨ ∃ w, (s'.holds.get h).mutex = some w ∧ s'.CanStep L w) := by
  obtain ⟨stage, here, -, early⟩ | here := calling.acquiring_of_isHeldBy holder
  · have noMonitor : ∀ g m, ¬ (s'.activity t).AsksFor L g m := by
      rw [here]
      rintro g m ⟨-, asks⟩
      obtain ⟨rfl, -⟩ | ⟨rfl, -⟩ := early <;> cases asks
    refine ⟨by omega, noMonitor, ?_⟩
    have reachable := calling.reachable'
    cases inside : (s'.holds.get h).mutex with
    | some w => exact .inr ⟨w, rfl, reachable.canStep_of_mutex inside⟩
    | none =>
      left
      refine reachable.canStep busy ?_ (fun g m asks => absurd asks (noMonitor g m)) ?_
      · rintro a m wakeAt asleep
        rw [here] at asleep
        cases asleep
        obtain ⟨hne, -⟩ | ⟨hne, -⟩ := early <;> cases hne
      · intro h' asked
        rw [here] at asked
        obtain ⟨rfl, -⟩ | ⟨rfl, -⟩ := early
        · cases asked
          exact inside
        · cases asked
  · exact absurd here (busy _)

/-- A turn of an acquisition of a half that is held enters the mutex of the hold set or leaves it,
and changes nothing else. -/
theorem Calling.unchanged_of_isHeldBy (calling : s.Calling L t (.acquire h entry) αs u)
    (holder : s.IsHeldBy h t) (next : u.next? L α = some v) (nocall : ∀ c, α ≠ .call t c)
    (mine : α.turnOf? = some t) :
    u.SameRecords v ∧ ∀ w, v.isInterrupted w = u.isInterrupted w := by
  obtain ⟨w, e, A', hw, -, turn, rfl⟩ | ⟨hnone, -⟩ := next?_cases next
  · rw [mine] at hw
    cases hw
    obtain ⟨stage, here, held, early⟩ | here := calling.acquiring_of_isHeldBy holder
    · rw [here] at turn
      cases turn.acquireMove with
      | begins => exact ⟨sameRecords_after_mutex (.inl rfl), isInterrupted_after_of_ne nofun⟩
      | finds => exact ⟨sameRecords_after_mutex (.inr rfl), isInterrupted_after_of_ne nofun⟩
      | goesOn _ _ _ _ known =>
        obtain absent | ⟨-, fresh⟩ := known
        · obtain ⟨rfl, -⟩ | ⟨rfl, -⟩ := early <;> cases absent
        · exact absurd held fresh
      | joins | returns => obtain ⟨hne, -⟩ | ⟨hne, -⟩ := early <;> cases hne
    · exact absurd mine (turnOf?_ne_of_ready next here nocall)
  · rw [mine] at hnone
    cases hnone

/-- **A half that is held already is refused at once.** -/
theorem Calling.refusesAtOnce (calling : s.Calling L t (.acquire h entry) αs s')
    (holder : s.IsHeldBy h t) : s.RefusesAtOnce L t h entry αs s' where
  replies := by
    intro reply returned
    obtain ⟨stage, here, -⟩ | here := calling.acquiring_of_isHeldBy holder
    · rw [returned] at here
      cases here
    · rw [returned] at here
      cases here
      rfl
  prompt busy := calling.goesOn_of_isHeldBy holder busy
  idle := by
    intro αs₁ α αs₂ u v split before next mine
    refine (calling.take split before).unchanged_of_isHeldBy holder next ?_ mine
    rintro c rfl
    exact calling.single c (by simp [split])

end State

end ResourceLocks.Protocol
