import ResourceLocks.Proofs.Protocol.Accounting
import ResourceLocks.Proofs.Protocol.Acquisition

/-!
# Calls and hold sets agree

What a thread is told by the calls it makes about a half tells whether it holds the half, and so it
can be predicted from what it was told before. This file puts together what an acquisition and a
release come to (`Proofs.Protocol.Acquisition`, `Proofs.Protocol.Release`) and follows one thread
and one half over a whole run, with anything that other threads do.

* `Outcome` is what a call about a half comes to, and `Outcome.move?` a machine with two states: the
  half is held or it is not. An acquisition succeeds in one state only and finds the half held in
  the other one; so does a release.
* Between two calls the machine is where the hold set says. Within a call the hold set changes
  before the call returns; what the call found before is still **in force** until then
  (`State.inForce`).
* **The machine accepts every run** (`State.Reachable.outcomes_accepted`), so that acquisitions and
  releases that succeed alternate (`Outcome.alternate`).
-/

namespace ResourceLocks.Protocol

variable {b : Backing} {K : Type} [Key K]

/-! ## Outcomes -/

/-- What a call about a half comes to. -/
inductive Outcome where
  /-- The half is acquired. -/
  | acquired
  /-- An acquisition finds that the thread holds the half already. -/
  | alreadyHeld
  /-- An acquisition is refused or interrupted. -/
  | notAcquired
  /-- The half is released. -/
  | released
  /-- A release finds that the thread does not hold the half. -/
  | notHeld
  deriving DecidableEq, Repr

namespace Outcome

/-- The call changes whether the half is held. -/
def isSuccess : Outcome → Bool
  | acquired | released => true
  | alreadyHeld | notAcquired | notHeld => false

/-- Whether the half is held after a call, if the call can come to that at all. -/
def move? (held : Bool) : Outcome → Option Bool
  | acquired => if held then none else some true
  | alreadyHeld => if held then some true else none
  | notAcquired => if held then none else some false
  | released => if held then some false else none
  | notHeld => if held then none else some false

/-- A call that changes nothing leaves the machine where it is. -/
theorem move?_eq_of_not_isSuccess {o : Outcome} {held held' : Bool} (idle : o.isSuccess = false)
    (move : o.move? held = some held') : held' = held := by
  cases o <;> cases held <;> simp_all [isSuccess, move?]

/-- A call that changes something is an acquisition from the one state to the other, or a release
the other way round. -/
theorem move?_eq_of_isSuccess {o : Outcome} {held held' : Bool} (success : o.isSuccess = true)
    (move : o.move? held = some held') :
    o = acquired ∧ held = false ∧ held' = true ∨ o = released ∧ held = true ∧ held' = false := by
  cases o <;> cases held <;> simp_all [isSuccess, move?]

/-- The machine after a list of calls. -/
def after? (held : Bool) (os : List Outcome) : Option Bool := os.foldlM move? held

/-- The machine accepts the first outcome, and then the others. -/
theorem after?_cons_eq_some {held held' : Bool} {o : Outcome} {os : List Outcome} :
    after? held (o :: os) = some held' ↔
      ∃ mid, o.move? held = some mid ∧ after? mid os = some held' := by
  unfold after?
  rw [List.foldlM_cons]
  exact Option.bind_eq_some_iff

/-- The machine accepts outcomes one after the other. -/
theorem after?_append (held : Bool) (os os' : List Outcome) :
    after? held (os ++ os') = (after? held os).bind fun mid => after? mid os' := by
  unfold after?
  rw [List.foldlM_append]
  rfl

/-- **Successes alternate**: where the machine accepts the outcomes, no two acquisitions succeed
without a release in between, nor two releases without an acquisition. Which comes first depends on
whether the half is held at the start, and the last one tells whether it is held at the end. -/
theorem alternate {held held' : Bool} {os : List Outcome} (accepted : after? held os = some held') :
    (os.filter isSuccess).IsChain (· ≠ ·) ∧
      (∀ o ∈ (os.filter isSuccess).head?, o = if held then released else acquired) ∧
      held' = ((os.filter isSuccess).getLast?.map (· == acquired)).getD held := by
  induction os generalizing held with
  | nil =>
    cases accepted
    exact ⟨.nil, nofun, rfl⟩
  | cons o os ih =>
    obtain ⟨mid, move, rest⟩ := after?_cons_eq_some.1 accepted
    obtain ⟨chain, first, last⟩ := ih rest
    cases success : o.isSuccess with
    | false =>
      obtain rfl := move?_eq_of_not_isSuccess success move
      rw [List.filter_cons_of_neg (by simp [success])]
      exact ⟨chain, first, last⟩
    | true =>
      rw [List.filter_cons_of_pos success]
      obtain ⟨rfl, rfl, rfl⟩ | ⟨rfl, rfl, rfl⟩ := move?_eq_of_isSuccess success move
      · refine ⟨List.isChain_cons.2 ⟨?_, chain⟩, ?_, ?_⟩
        · intro o ho
          rw [first o ho]
          decide
        · rintro o ⟨⟩
          rfl
        · rw [last, List.getLast?_cons]
          cases (os.filter isSuccess).getLast? <;> rfl
      · refine ⟨List.isChain_cons.2 ⟨?_, chain⟩, ?_, ?_⟩
        · intro o ho
          rw [first o ho]
          decide
        · rintro o ⟨⟩
          rfl
        · rw [last, List.getLast?_cons]
          cases (os.filter isSuccess).getLast? <;> rfl

end Outcome

/-- What a call about a half comes to that returns a reply from an activity. The reply to the
dropping of a guard does not tell; there it is the stage from which it returns. -/
def Activity.outcome? (h : Half) (reply : Reply) : Activity K → Option Outcome
  | .acquiring a _ =>
    if a.half ≠ h then none
    else if reply.grants then some .acquired
    else if reply = .failed (.alreadyHeld h.kind) then some .alreadyHeld
    else some .notAcquired
  | .releasing r stage =>
    if r.half ≠ h then none
    else if r.byGuard then some (if stage = .concluding then .released else .notHeld)
    else some (if reply = .done then .released else .notHeld)
  | _ => none

/-- What a call about a half has found, where its thread has joined the hold set or parted from it
since. -/
def Activity.found? (h : Half) : Activity K → Option Bool
  | .acquiring a (.concluding .acquired) => if a.half = h then some false else none
  | .releasing r stage => if r.half = h ∧ stage.hasParted = true then some true else none
  | _ => none

namespace Activity

omit [Key K]

variable {A : Activity K} {h : Half}

/-- A call about another half comes to nothing for this one. -/
theorem outcome?_of_other {reply : Reply} (other : A.half? ≠ some h) :
    A.outcome? h reply = none := by
  cases A with
  | acquiring a stage | releasing r stage => exact if_pos fun same => other (congrArg some same)
  | _ => rfl

/-- It has found nothing either. -/
theorem found?_of_other (other : A.half? ≠ some h) : A.found? h = none := by
  cases A with
  | acquiring a stage =>
    cases stage with
    | concluding v =>
      cases v with
      | acquired => exact if_neg fun same => other (congrArg some same)
      | _ => rfl
    | _ => rfl
  | releasing r stage => exact if_neg fun same => other (congrArg some same.1)
  | _ => rfl

/-- A notification changes nothing that was found. -/
theorem Alike.found? {B : Activity K} (alike : A.Alike B) : B.found? h = A.found? h := by
  obtain rfl | ⟨a, m, notified, wakeAt, rfl, rfl⟩ := alike <;> rfl

/-- An acquisition that has not joined the hold set has found nothing that has changed since. -/
theorem found?_of_isAbsent {a : Acquisition} {stage : AcquireStage}
    (absent : stage.isAbsent = true) : (acquiring a stage : Activity K).found? h = none := by
  cases stage with
  | concluding v =>
    cases v with
    | acquired => cases absent
    | _ => rfl
  | _ => rfl

end Activity

namespace State

/-- Whether a thread holds a half, as the call that is under way has found it. -/
def inForce (s : State b K) (h : Half) (t : ThreadId) : Bool :=
  ((s.activity t).found? h).getD (decide (s.IsHeldBy h t))

/-- What the call about a half comes to that returns when one state becomes another. -/
def outcomeOf (s : State b K) (h : Half) (t : ThreadId) (s' : State b K) : Option Outcome :=
  match s'.activity t with
  | .ready (some reply) => (s.activity t).outcome? h reply
  | _ => none

/-- What the calls of a thread about a half come to that return in a run, in their order. -/
def outcomes (L : Layout K) (h : Half) (t : ThreadId) : State b K → List (Action K) → List Outcome
  | _, [] => []
  | s, α :: αs =>
    match s.next? L α with
    | none => []
    | some s' => (s.outcomeOf h t s').toList ++ outcomes L h t s' αs

variable {L : Layout K} {s s' u v : State b K} {t : ThreadId} {h : Half} {α : Action K}
  {αs βs : List (Action K)} {a : Acquisition} {r : Release} {e : Effect} {A' : Activity K}
  {reply : Reply}

/-- The last action of a run adds one outcome at most. -/
theorem outcomes_concat (run : s.run? L αs = some u) (next : u.next? L α = some v) :
    outcomes L h t s (αs ++ [α]) = outcomes L h t s αs ++ (u.outcomeOf h t v).toList := by
  induction αs generalizing s with
  | nil =>
    cases run
    simp [outcomes, next]
  | cons β αs ih =>
    obtain ⟨s₁, first, rest⟩ := run?_cons_eq_some.1 run
    simp only [List.cons_append, outcomes, first, ih rest, List.append_assoc]

/-! ## One turn -/

/-- A call that goes on comes to nothing yet. -/
theorem outcomeOf_of_busy (busy : ∀ last, s'.activity t ≠ .ready last) :
    s.outcomeOf h t s' = none := by
  unfold outcomeOf
  split
  · rename_i reply ready
    exact absurd ready (busy _)
  · rfl

/-- Nor does what is no turn of the thread. -/
theorem Bystands.outcomeOf_eq_none (bystands : s.Bystands t α s') : s.outcomeOf h t s' = none := by
  obtain same | ⟨a, m, notified, wakeAt, -, hB⟩ := bystands.alike
  · unfold outcomeOf
    split
    · rename_i reply ready
      rw [same] at ready
      rw [ready]
      rfl
    · rfl
  · exact outcomeOf_of_busy (by simp [hB])

/-- What happens leaves the machine where it is, or moves it by an outcome. -/
def MovesBy (s : State b K) (h : Half) (t : ThreadId) (s' : State b K) : Prop :=
  s.outcomeOf h t s' = none ∧ s'.inForce h t = s.inForce h t ∨
    ∃ o, s.outcomeOf h t s' = some o ∧ o.move? (s.inForce h t) = some (s'.inForce h t)

/-- Between calls what is in force is what the hold set says. -/
theorem inForce_of_ready {last : Option Reply} (ready : s.activity t = .ready last) :
    s.inForce h t = decide (s.IsHeldBy h t) := by
  rw [inForce, ready]
  rfl

/-- So it is within a call as long as that has not changed the hold set. -/
theorem inForce_of_found? (found : (s.activity t).found? h = none) :
    s.inForce h t = decide (s.IsHeldBy h t) := by
  rw [inForce, found]
  rfl

namespace MovesBy

/-- Calls about other halves, and what is no call, leave the machine where it is. -/
theorem of_other (other : (s.activity t).half? ≠ some h) (other' : (s'.activity t).half? ≠ some h)
    (held : s'.IsHeldBy h t ↔ s.IsHeldBy h t) : s.MovesBy h t s' := by
  left
  constructor
  · unfold outcomeOf
    split
    · exact Activity.outcome?_of_other other
    · rfl
  · rw [inForce_of_found? (Activity.found?_of_other other),
      inForce_of_found? (Activity.found?_of_other other')]
    simp only [held]

/-- A call that goes on, and joins and parts from nothing, leaves the machine where it is. -/
theorem of_busy (busy : ∀ last, s'.activity t ≠ .ready last)
    (found : (s'.activity t).found? h = (s.activity t).found? h)
    (held : s'.IsHeldBy h t ↔ s.IsHeldBy h t) : s.MovesBy h t s' := by
  refine .inl ⟨outcomeOf_of_busy busy, ?_⟩
  unfold inForce
  simp only [found, held]

/-- A call that returns moves the machine by its outcome, to where the hold set is by then. -/
theorem of_returns {o : Outcome} (returned : s'.activity t = .ready (some reply))
    (held : s'.IsHeldBy h t ↔ s.IsHeldBy h t)
    (outcome : (s.activity t).outcome? h reply = some o)
    (move : o.move? (s.inForce h t) = some (decide (s.IsHeldBy h t))) : s.MovesBy h t s' := by
  right
  refine ⟨o, ?_, ?_⟩
  · rw [outcomeOf, returned]
    exact outcome
  · rw [move, inForce_of_ready returned]
    simp only [held]

end MovesBy

/-- A turn in a call about something else than a half leads to no call about it, and leaves its hold
set as it is for the thread. -/
theorem Turn.stays_of_other {A : Activity K} (turn : s.Turn L t A e A')
    (busy : ∀ last, A ≠ .ready last) (other : A.half? ≠ some h) :
    A'.half? ≠ some h ∧ ((s.after L t e A').IsHeldBy h t ↔ s.IsHeldBy h t) := by
  have quiet : e.changesHolds = false → ((s.after L t e A').IsHeldBy h t ↔ s.IsHeldBy h t) :=
    fun quiet => Effect.isHeldBy_apply_of_changesHolds quiet
  cases A with
  | ready last => exact absurd rfl (busy last)
  | acquiring a stage =>
    have hh : a.half ≠ h := fun same => other (congrArg some same)
    cases turn.acquireMove with
    | begins => exact ⟨other, quiet rfl⟩
    | finds holder => exact ⟨by simp [Activity.half?], quiet rfl⟩
    | goesOn _ stage' _ still => exact ⟨other, quiet still⟩
    | joins =>
      refine ⟨other, ?_⟩
      rw [isHeldBy_after, Effect.isHeldBy_apply]
      simp [Ne.symm hh]
    | returns v =>
      refine ⟨by simp [Activity.half?], quiet ?_⟩
      cases v <;> rfl
  | releasing r stage =>
    have hh : r.half ≠ h := fun same => other (congrArg some same)
    cases turn with
    | release turn =>
      cases turn with
      | part holder =>
        refine ⟨other, ?_⟩
        rw [isHeldBy_after, Effect.isHeldBy_apply]
        simp [Ne.symm hh]
      | begin | enter | clear | leave => exact ⟨other, quiet rfl⟩
      | notHeld | dropFailed | conclude => exact ⟨by simp [Activity.half?], quiet rfl⟩
  | asking q stage =>
    cases turn with
    | ask turn => cases turn <;> exact ⟨by simp [Activity.half?], quiet rfl⟩

/-- **The turns of an acquisition** move the machine by its outcome when it returns. -/
theorem Turn.movesBy_of_acquiring {stage : AcquireStage} (reachable : Reachable L s)
    (here : s.activity t = .acquiring a stage) (turn : s.Turn L t (.acquiring a stage) e A') :
    s.MovesBy a.half t (s.after L t e A') := by
  have inv := reachable.invariant
  have hactivity : (s.after L t e A').activity t = A' := activity_after_self ..
  have quiet : e.changesHolds = false →
      ((s.after L t e A').IsHeldBy a.half t ↔ s.IsHeldBy a.half t) :=
    fun quiet => Effect.isHeldBy_apply_of_changesHolds quiet
  cases turn.acquireMove with
  | begins =>
    refine .of_busy (by simp) ?_ (quiet rfl)
    rw [hactivity, here]
    rfl
  | finds holder =>
    refine .of_returns (o := .alreadyHeld) hactivity (quiet rfl) ?_ ?_
    · rw [here]
      simp [Activity.outcome?, Reply.grants]
    · rw [inForce_of_found? (by rw [here]; rfl)]
      simp [Outcome.move?, holder]
  | goesOn _ stage' _ still known absent' =>
    have before : (Activity.acquiring a stage : Activity K).found? a.half = none := by
      obtain absent | ⟨rfl, -⟩ := known
      · exact Activity.found?_of_isAbsent absent
      · rfl
    refine .of_busy (by simp) ?_ (quiet still)
    rw [hactivity, here, before, Activity.found?_of_isAbsent absent']
  | joins =>
    have absent : ¬ s.IsHeldBy a.half t := inv.absent a.half t (by rw [here]; rfl)
    refine .inl ⟨by simp [outcomeOf], ?_⟩
    rw [inForce_of_found? (s := s) (by rw [here]; rfl)]
    simp [inForce, Activity.found?, absent]
  | returns v =>
    have still : (Effect.conclude a.half v).changesHolds = false := by
      cases v <;> rfl
    have candid := reachable.candid t
    rw [here] at candid
    by_cases acquired : v = .acquired
    · subst acquired
      have joined : s.IsHeldBy a.half t := inv.joined a.half t (by rw [here]; rfl)
      refine .of_returns (o := .acquired) hactivity (quiet still) ?_ ?_
      · rw [here]
        simp [Activity.outcome?, a.grants_reply_acquired]
      · simp [inForce, here, Activity.found?, Outcome.move?, joined]
    · have stageAbsent : (AcquireStage.concluding v).isAbsent = true := by
        cases v with
        | acquired => exact absurd rfl acquired
        | _ => rfl
      have absent : ¬ s.IsHeldBy a.half t :=
        inv.absent a.half t (by rw [here, Activity.absent?, if_pos stageAbsent])
      have denied : (a.reply v).grants = false := by
        rw [Bool.eq_false_iff]
        exact fun grants => acquired (candid.grants_reply.1 grants)
      refine .of_returns (o := .notAcquired) hactivity (quiet still) ?_ ?_
      · rw [here]
        simp [Activity.outcome?, denied, a.reply_ne_alreadyHeld]
      · rw [inForce_of_found? (by rw [here, Activity.found?_of_isAbsent stageAbsent])]
        simp [Outcome.move?, absent]

/-- **The turns of a release** move the machine by its outcome when it returns. -/
theorem Turn.movesBy_of_releasing {stage : ReleaseStage} (inv : s.Invariant L)
    (here : s.activity t = .releasing r stage) (turn : ReleaseTurn L s t r stage e A') :
    s.MovesBy r.half t (s.after L t e A') := by
  have hactivity : (s.after L t e A').activity t = A' := activity_after_self ..
  have quiet : e.changesHolds = false →
      ((s.after L t e A').IsHeldBy r.half t ↔ s.IsHeldBy r.half t) :=
    fun quiet => Effect.isHeldBy_apply_of_changesHolds quiet
  -- Until the thread has parted, what is in force is what the hold set says.
  have early : stage.hasParted = false → s.inForce r.half t = decide (s.IsHeldBy r.half t) :=
    fun early => inForce_of_found? (by rw [here]; simp [Activity.found?, early])
  cases turn with
  | begin | enter | clear | leave =>
    refine .of_busy (by simp) ?_ (quiet rfl)
    rw [hactivity, here]
    rfl
  | part holder =>
    refine .inl ⟨by simp [outcomeOf], ?_⟩
    rw [early rfl]
    simp [inForce, Activity.found?, ReleaseStage.hasParted, holder]
  | notHeld absent direct =>
    refine .of_returns (o := .notHeld) hactivity (quiet rfl) ?_ ?_
    · rw [here]
      simp [Activity.outcome?, direct]
    · rw [early rfl]
      simp [Outcome.move?, absent]
  | dropFailed absent dropped =>
    refine .of_returns (o := .notHeld) hactivity (quiet rfl) ?_ ?_
    · rw [here]
      simp [Activity.outcome?, dropped]
    · rw [early rfl]
      simp [Outcome.move?, absent]
  | conclude =>
    have absent : ¬ s.IsHeldBy r.half t := inv.absent r.half t (by rw [here]; rfl)
    refine .of_returns (o := .released) hactivity (quiet rfl) ?_ ?_
    · rw [here]
      simp [Activity.outcome?]
    · simp [inForce, here, Activity.found?, ReleaseStage.hasParted, Outcome.move?, absent]

/-- **Whatever happens moves the machine** by the outcome of the call that returns, if one does. -/
theorem Reachable.movesBy (reachable : Reachable L s) (next : s.next? L α = some s') :
    s.MovesBy h t s' := by
  obtain ⟨e, A', -, -, turn, rfl⟩ | bystands := turn_or_bystands next t
  · by_cases mine : (s.activity t).half? = some h
    · cases here : s.activity t with
      | acquiring a stage =>
        rw [here] at turn mine
        cases mine
        exact turn.movesBy_of_acquiring reachable here
      | releasing r stage =>
        rw [here] at turn mine
        cases mine
        cases turn with
        | release turn => exact Turn.movesBy_of_releasing reachable.invariant here turn
      | ready last | asking q stage =>
        rw [here] at mine
        cases mine
    · by_cases busy : ∀ last, s.activity t ≠ .ready last
      · obtain ⟨other', held⟩ := turn.stays_of_other busy mine
        exact .of_other mine (by rwa [activity_after_self]) held
      · push Not at busy
        obtain ⟨last, ready⟩ := busy
        rw [ready] at turn
        cases turn with
        | call _ c =>
          refine .of_busy ?_ ?_ Iff.rfl
          · intro last'
            rw [activity_after_self]
            cases c <;> simp [Call.start]
          · rw [activity_after_self, ready]
            cases c <;> simp [Call.start, Activity.found?, ReleaseStage.hasParted]
  · refine .inl ⟨bystands.outcomeOf_eq_none, ?_⟩
    unfold inForce
    simp only [bystands.alike.found?, bystands.held h]

/-! ## Every run -/

/-- **The machine accepts the calls of every run.** It starts where the hold set says, and is where
the hold set says whenever the thread is between two calls. -/
theorem Reachable.outcomes_accepted {last : Option Reply} (reachable : Reachable L s)
    (ready : s.activity t = .ready last) (run : s.run? L αs = some s') :
    Outcome.after? (decide (s.IsHeldBy h t)) (outcomes L h t s αs) = some (s'.inForce h t) := by
  refine run?_snoc_induction (P := fun αs u => Outcome.after? (decide (s.IsHeldBy h t))
    (outcomes L h t s αs) = some (u.inForce h t)) ?_ ?_ run
  · rw [inForce_of_ready ready]
    rfl
  · intro αs α u v before next ih
    rw [outcomes_concat before next, Outcome.after?_append, ih]
    have moves : u.MovesBy h t v := (reachable.run before).movesBy next
    obtain ⟨none, same⟩ | ⟨o, outcome, move⟩ := moves
    · rw [none, same]
      rfl
    · rw [outcome]
      exact Outcome.after?_cons_eq_some.2 ⟨_, move, rfl⟩

/-! ## Calls and hold sets -/

/-- What is to be said of a release. -/
structure ReleaseAgrees (L : Layout K) (s : State b K) (t : ThreadId) (r : Release)
    (βs : List (Action K)) (s' : State b K) : Prop where
  /-- A half that is held is released: the thread loses this hold, and nothing else. -/
  ends : s.IsHeldBy r.half t → ∀ reply, s'.activity t = .ready (some reply) →
    reply = .done ∧ s.EndsHold L t r.half s'
  /-- A half that is not held is not released, and the caller is told so, except that the dropping
  of a guard hides it. -/
  fails : ¬ s.IsHeldBy r.half t → ∀ reply, s'.activity t = .ready (some reply) →
    reply = r.failure ∧ s.KeepsFor t s'
  /-- None of the steps of such a release changes a ledger, a hold set or a flag. -/
  idle : ¬ s.IsHeldBy r.half t → ∀ βs₁ α βs₂ u v, βs = βs₁ ++ α :: βs₂ →
    s.run? L (.call t r.call :: βs₁) = some u → u.next? L α = some v → α.turnOf? = some t →
    u.SameRecords v ∧ ∀ w, v.isInterrupted w = u.isInterrupted w
  /-- No step of the release changes what other threads have. -/
  others : ∀ βs₁ α βs₂ u v, βs = βs₁ ++ α :: βs₂ →
    s.run? L (.call t r.call :: βs₁) = some u → u.next? L α = some v → α.turnOf? = some t →
    ∀ w, w ≠ t → u.KeepsFor w v
  /-- The release returns after six steps, and until then it can take the next one unless another
  thread is inside the monitor or the mutex that it asks for. -/
  goesOn : (∀ last, s'.activity t ≠ .ready last) →
    βs.count (.step t) < 6 ∧ (s'.CanStep L t ∨ ∃ w, s'.QueuesBehind L t w)

/-- Calls and hold sets agree. -/
structure CallsAgree (L : Layout K) (s : State b K) : Prop where
  /-- An acquisition returns that the half is held already exactly where it is. -/
  alreadyHeld : ∀ t h entry αs s' reply, s.Attempt L t h entry αs s' reply →
    (reply = .failed (.alreadyHeld h.kind) ↔ s.IsHeldBy h t)
  /-- It does so at once, and changes nothing. -/
  atOnce : ∀ t h entry αs s', s.Calling L t (.acquire h entry) αs s' → s.IsHeldBy h t →
    s.RefusesAtOnce L t h entry αs s'
  /-- An acquisition reports success exactly when it has gained the hold: the thread, which did not
  hold the half, is in its hold set and recorded for every resource of it. Otherwise the thread
  keeps what it has. -/
  success : ∀ t h entry αs s' reply, s.Attempt L t h entry αs s' reply →
    (reply.grants = true ↔ s.GainsHold L t h s') ∧
      (reply.grants = true → reply = entry.reply true) ∧
      (reply.grants = false → s.KeepsFor t s')
  /-- In a manner without an end, be it that the clock cannot represent its deadline, an acquisition
  succeeds or returns an error. -/
  endless : ∀ t h entry αs s' reply, s.Attempt L t h entry αs s' reply →
    entry.manner.IsEndless s.now →
    reply.grants = true ∨ reply = .failed (.alreadyHeld h.kind) ∨
      entry.manner.heedsInterrupts = true ∧ reply = .failed .interrupted
  /-- A release ends the hold of the thread if there is one, and changes nothing otherwise. -/
  release : ∀ t r βs s', s.Calling L t r.call βs s' → s.ReleaseAgrees L t r βs s'
  /-- A direct release succeeds exactly where the half is held, and fails otherwise because it is
  not. -/
  unlock : ∀ t h βs s' reply, s.Calling L t (.unlock h) βs s' →
    s'.activity t = .ready (some reply) →
    (reply = .done ↔ s.IsHeldBy h t) ∧ (reply = .failed (.notHeld h.kind) ↔ ¬ s.IsHeldBy h t)
  /-- The calls of a thread about a half in a run are what the machine accepts that starts where the
  hold set says, and at the end of the run, between two calls, is there again. -/
  accepted : ∀ t h αs s' last last', s.activity t = .ready last → s.run? L αs = some s' →
    s'.activity t = .ready last' →
    Outcome.after? (decide (s.IsHeldBy h t)) (outcomes L h t s αs) =
      some (decide (s'.IsHeldBy h t))
  /-- So acquisitions and releases that succeed alternate, starting with an acquisition if the half
  is not held and with a release if it is. -/
  alternate : ∀ t h αs s' last, s.activity t = .ready last → s.run? L αs = some s' →
    ((outcomes L h t s αs).filter Outcome.isSuccess).IsChain (· ≠ ·) ∧
      ∀ o ∈ ((outcomes L h t s αs).filter Outcome.isSuccess).head?,
        o = if s.IsHeldBy h t then .released else .acquired

/-- **What a release comes to.** -/
theorem Calling.releaseAgrees (calling : s.Calling L t r.call βs s') :
    s.ReleaseAgrees L t r βs s' where
  ends := by
    intro holder reply returned
    obtain ⟨done, ends, -⟩ := calling.endsHold holder returned
    exact ⟨done, ends⟩
  fails := by
    intro absent reply returned
    refine ⟨(calling.fails absent returned).1, ?_⟩
    obtain ⟨last, -, ready, -⟩ := calling.start
    refine .of_held calling.reachable.invariant calling.reachable'.invariant ready returned ?_
    cases calling.releasing with
    | before stage here =>
      rw [returned] at here
      cases here
    | parted _ _ _ _ holder | done _ holder => exact absurd holder absent
    | failed _ _ held => exact held
  idle := by
    intro absent βs₁ α βs₂ u v split before next mine
    have part := calling.take split before
    refine ⟨calling.touchesNothing absent βs₁ α βs₂ u v split before next mine, ?_⟩
    refine part.reachable'.flags_of_calm next mine ?_
    obtain ⟨stage, here, -⟩ | ⟨reply, here⟩ := part.releasing.cases_activity
    · rw [here]
      rfl
    · rw [here]
      rfl
  others := by
    intro βs₁ α βs₂ u v split before next mine w hw
    refine keepsFor_of_next? (calling.reachable.run before).invariant next ?_
    rw [mine]
    rintro ⟨⟩
    exact hw rfl
  goesOn := calling.goesOn

/-- A direct release tells whether the half was held. -/
theorem Calling.unlock_iff (calling : s.Calling L t (.unlock h) βs s')
    (returned : s'.activity t = .ready (some reply)) :
    (reply = .done ↔ s.IsHeldBy h t) ∧
      (reply = .failed (.notHeld h.kind) ↔ ¬ s.IsHeldBy h t) := by
  have calling' : s.Calling L t (Release.call ⟨h, false⟩) βs s' := calling
  by_cases holder : s.IsHeldBy h t
  · obtain ⟨rfl, -⟩ := calling'.endsHold holder returned
    exact ⟨iff_of_true rfl holder, iff_of_false nofun (not_not_intro holder)⟩
  · obtain ⟨rfl, -⟩ := calling'.fails holder returned
    exact ⟨iff_of_false nofun holder, iff_of_true rfl holder⟩

/-- **Calls and hold sets agree** in every reachable state, whatever other threads do. An
acquisition returns that the half is held exactly where it is, at once and without a change; it
reports success exactly when it has gained the hold; and where its manner has no end it does not
return without the half and without an error. A release succeeds exactly where the half is held, and
ends this one hold. So successful acquisitions and successful releases of a half by a thread
alternate. -/
theorem Reachable.callsAgree (reachable : Reachable L s) : s.CallsAgree L where
  alreadyHeld _ _ _ _ _ _ attempt := attempt.alreadyHeld_iff
  atOnce _ _ _ _ _ calling holder := calling.refusesAtOnce holder
  success _ _ _ _ _ _ attempt := attempt.grants_iff
  endless _ _ _ _ _ _ attempt isEndless := attempt.endless isEndless
  release _ _ _ _ calling := calling.releaseAgrees
  unlock _ _ _ _ _ calling returned := calling.unlock_iff returned
  accepted := by
    intro t h αs s' last last' ready run ready'
    rw [reachable.outcomes_accepted ready run, inForce_of_ready ready']
  alternate := by
    intro t h αs s' last ready run
    have accepted := reachable.outcomes_accepted (h := h) ready run
    obtain ⟨chain, first, -⟩ := Outcome.alternate accepted
    refine ⟨chain, fun o ho => ?_⟩
    simpa using first o ho

/-- What happens when a reader asks for the half again that it holds, releases it, and acquires it
once more, while a writer tries for a resource of it. -/
def heldAndReleased : List (Action Nat) :=
  Action.follow 0 (.acquire ⟨0, .read⟩ { manner := .lockInterruptibly }) 2
    ++ Action.follow 1 (.acquire ⟨1, .write⟩ { manner := .tryLock }) 18
    ++ Action.follow 0 (.unlock ⟨0, .read⟩) 6
    ++ Action.follow 0 (.acquire ⟨0, .read⟩ { manner := .lock, guarded := true }) 13

/-- A reader that locks again, releases and locks, and a writer that is refused. -/
theorem callsAgree_oneReader :
    (finish .threeLocks oneReader : State .hash Nat).CallsAgree .threeLocks ∧
      outcomes .threeLocks ⟨0, .read⟩ 0 (finish .threeLocks oneReader : State .hash Nat)
        heldAndReleased = [.alreadyHeld, .released, .acquired] ∧
      outcomes .threeLocks ⟨1, .write⟩ 1 (finish .threeLocks oneReader : State .hash Nat)
        heldAndReleased = [.notAcquired] ∧
      Outcome.after? true [.alreadyHeld, .released, .acquired] = some true := by
  have agree := (reachable_finish (b := .hash) (L := .threeLocks) oneReader).callsAgree
  have reader : outcomes .threeLocks ⟨0, .read⟩ 0 (finish .threeLocks oneReader : State .hash Nat)
      heldAndReleased = [.alreadyHeld, .released, .acquired] := by
    decide +kernel
  have held : (finish .threeLocks oneReader : State .hash Nat).IsHeldBy ⟨0, .read⟩ 0 := by
    decide +kernel
  have held' : (finish .threeLocks (oneReader ++ heldAndReleased) :
      State .hash Nat).IsHeldBy ⟨0, .read⟩ 0 := by
    decide +kernel
  refine ⟨agree, reader, by decide +kernel, ?_⟩
  have accepted := agree.accepted 0 ⟨0, .read⟩ heldAndReleased
    (finish .threeLocks (oneReader ++ heldAndReleased)) (some .done) (some .guard)
    (by decide +kernel) (by decide +kernel) (by decide +kernel)
  rw [reader, decide_eq_true held, decide_eq_true held'] at accepted
  exact accepted

end State

end ResourceLocks.Protocol
