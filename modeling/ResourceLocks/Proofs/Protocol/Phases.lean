import ResourceLocks.Proofs.Protocol.Run
import ResourceLocks.Proofs.Protocol.Verdict

/-!
# The protocol in phases

The **coarse protocol** knows no monitors, no sleep and no wake-ups. A call that takes effect does
so in one atomic step, except for a write acquisition, which takes two:

* a read acquisition checks that its resources have no owner, adds its holds and joins the hold set;
* a write acquisition checks the same and claims its resources; in a second step it checks that
  nobody holds any of them, and joins the hold set;
* a release takes the holds or the claim back and parts from the hold set.

A thread whose check fails cannot take its step (`Phases.step?`). That is all the coarse protocol
says of waiting.

`State.shadow` reads off a run of the protocol which coarse steps it takes, and when: a coarse step
is the shadow of the step that reads or changes the ledger, or the hold set where the call fails
(`State.takesEffect`). `State.Mirrors` relates the states of both: all ledgers are equal, and every
thread is in the phase that its activity stands for (`Activity.phase`).
-/

namespace ResourceLocks.Protocol

/-! ## The coarse protocol -/

/-- A call that waits as long as it takes, or releases. -/
inductive PlainCall where
  /-- Acquire a half. -/
  | lock (h : Half)
  /-- Release a half. -/
  | unlock (h : Half)
  deriving DecidableEq

/-- What a thread is doing, as far as ledgers tell. -/
inductive Phase where
  /-- Nothing; the last call returned this. -/
  | ready (last : Option Reply)
  /-- Waiting for the resources of a half to have no owner. -/
  | acquiring (h : Half)
  /-- Having claimed the resources of a write half, waiting for its readers to leave. -/
  | draining (h : Half)
  /-- Releasing a half. -/
  | releasing (h : Half)
  deriving DecidableEq

/-- The phase with which a call starts. -/
def PlainCall.phase : PlainCall → Phase
  | lock h => .acquiring h
  | unlock h => .releasing h

/-- Something that happens in the coarse protocol. -/
inductive PhaseAction where
  /-- A thread that is doing nothing makes a call. -/
  | call (t : ThreadId) (c : PlainCall)
  /-- A thread takes its step. -/
  | step (t : ThreadId)
  deriving DecidableEq

/-- The states of the coarse protocol. -/
structure Phases (b : Backing) (K : Type) [Key K] where
  /-- The ledgers of owners. -/
  owners : Table RegistryId (Owners b K) := .const .empty
  /-- The ledgers of holders. -/
  holders : Table RegistryId (Holders b K) := .const .empty
  /-- Which half is held by which thread. -/
  held : Table (Half × ThreadId) Bool := .const false
  /-- The phase of every thread. -/
  phase : Table ThreadId Phase := .const (.ready none)

variable {b : Backing} {K : Type} [Key K]

namespace Phases

/-- Nothing is held, no thread is doing anything. -/
def initial : Phases b K := {}

/-- A thread in another phase. -/
def goTo (p : Phases b K) (t : ThreadId) (phase : Phase) : Phases b K :=
  { p with phase := p.phase.set t phase }

/-- A half held by a thread, or not. -/
def setHeld (p : Phases b K) (h : Half) (t : ThreadId) (held : Bool) : Phases b K :=
  { p with held := p.held.set (h, t) held }

/-- The ledger in which the acquisitions of a half are recorded changed. -/
def change (L : Layout K) (p : Phases b K) (h : Half) (owners : Owners b K → Owners b K)
    (holders : Holders b K → Holders b K) : Phases b K :=
  let g := L.registry h
  match h.kind with
  | .read => { p with holders := p.holders.set g (holders (p.holders.get g)) }
  | .write => { p with owners := p.owners.set g (owners (p.owners.get g)) }

/-- An acquisition of a half recorded in its ledger. -/
def record (L : Layout K) (p : Phases b K) (h : Half) (t : ThreadId) : Phases b K :=
  p.change L h (·.claim (L.resources h).items t) (·.hold (L.resources h).items t)

/-- An acquisition of a half taken out of its ledger again. -/
def clear (L : Layout K) (p : Phases b K) (h : Half) (t : ThreadId) : Phases b K :=
  p.change L h (·.withdraw (L.resources h).items) (·.release (L.resources h).items t)

/-- The step that a thread can take, or `none` where it has no call under way or its resources are
taken. -/
def step? (L : Layout K) (p : Phases b K) (t : ThreadId) : Option (Phases b K) :=
  match p.phase.get t with
  | .ready _ => none
  | .acquiring h =>
    if p.held.get (h, t) then some (p.goTo t (.ready (some (.failed (.alreadyHeld h.kind)))))
    else if (p.owners.get (L.registry h)).isFree (L.resources h).items then
      match h.kind with
      | .read => some (((p.record L h t).setHeld h t true).goTo t (.ready (some .done)))
      | .write => some ((p.record L h t).goTo t (.draining h))
    else none
  | .draining h =>
    if (p.holders.get (L.registry h)).isFree (L.resources h).items then
      some ((p.setHeld h t true).goTo t (.ready (some .done)))
    else none
  | .releasing h =>
    if p.held.get (h, t) then
      some (((p.clear L h t).setHeld h t false).goTo t (.ready (some .done)))
    else some (p.goTo t (.ready (some (.failed (.notHeld h.kind)))))

/-- What a state becomes when something happens, or `none` where it cannot happen. -/
def next? (L : Layout K) (p : Phases b K) : PhaseAction → Option (Phases b K)
  | .call t c =>
    match p.phase.get t with
    | .ready _ => some (p.goTo t c.phase)
    | _ => none
  | .step t => p.step? L t

/-- The state after a list of actions, or `none` if one of them cannot happen. -/
def run? (L : Layout K) (p : Phases b K) : List PhaseAction → Option (Phases b K)
  | [] => some p
  | β :: βs => (p.next? L β).bind fun p' => run? L p' βs

variable {L : Layout K} {p p' : Phases b K} {h h' : Half} {t u : ThreadId} {g : RegistryId}

/-- Actions of phases are carried out one after the other. -/
theorem run?_append (βs γs : List PhaseAction) :
    p.run? L (βs ++ γs) = (p.run? L βs).bind fun q => q.run? L γs := by
  induction βs generalizing p with
  | nil => rfl
  | cons β βs ih =>
    simp only [List.cons_append, run?]
    rw [Option.bind_assoc]
    exact congrArg _ (funext fun q => ih)

/-- **An acquisition takes its first step** where its resources have no owner, or where it fails
because the half is held. -/
theorem free_of_acquiring (step : p.step? L t = some p') (acquiring : p.phase.get t = .acquiring h)
    (absent : ¬ p.held.get (h, t) = true) :
    (p.owners.get (L.registry h)).isFree (L.resources h).items = true := by
  by_contra taken
  simp [step?, acquiring, absent, taken] at step

/-- **A write acquisition takes its second step** where its resources have no holders. -/
theorem free_of_draining (step : p.step? L t = some p') (draining : p.phase.get t = .draining h) :
    (p.holders.get (L.registry h)).isFree (L.resources h).items = true := by
  by_contra taken
  simp [step?, draining, taken] at step

/-! ### What the changes do -/

/-- A thread goes to its next phase, and all others stay in theirs. -/
theorem phase_goTo (phase : Phase) :
    (p.goTo t phase).phase.get u = if u = t then phase else p.phase.get u :=
  Table.get_set ..

/-- Whether a thread holds a half is set for that half and that thread only. -/
theorem held_setHeld (held : Bool) :
    (p.setHeld h t held).held.get (h', u) =
      if h' = h ∧ u = t then held else p.held.get (h', u) := by
  simp only [setHeld, Table.get_set, Prod.mk.injEq]

/-- Going to another phase changes no hold set. -/
@[simp] theorem held_goTo (phase : Phase) : (p.goTo t phase).held = p.held := rfl

/-- Going to another phase changes no owners. -/
@[simp] theorem owners_goTo (phase : Phase) : (p.goTo t phase).owners = p.owners := rfl

/-- Going to another phase changes no holders. -/
@[simp] theorem holders_goTo (phase : Phase) : (p.goTo t phase).holders = p.holders := rfl

/-- Holding a half changes no owners by itself. -/
@[simp] theorem owners_setHeld (held : Bool) : (p.setHeld h t held).owners = p.owners := rfl

/-- Holding a half changes no holders by itself. -/
@[simp] theorem holders_setHeld (held : Bool) : (p.setHeld h t held).holders = p.holders := rfl

/-- Holding a half leaves every thread in its phase. -/
@[simp] theorem phase_setHeld (held : Bool) : (p.setHeld h t held).phase = p.phase := rfl

section change

variable {owners : Owners b K → Owners b K} {holders : Holders b K → Holders b K}

/-- A change of ledgers changes no hold set. -/
@[simp] theorem held_change : (p.change L h owners holders).held = p.held := by
  unfold change
  cases h.kind <;> rfl

/-- A change of ledgers leaves every thread in its phase. -/
@[simp] theorem phase_change : (p.change L h owners holders).phase = p.phase := by
  unfold change
  cases h.kind <;> rfl

/-- The ledger of owners changes for a write half. -/
theorem owners_change :
    (p.change L h owners holders).owners.get g = if h.kind = .write ∧ L.registry h = g
      then owners (p.owners.get g) else p.owners.get g := by
  unfold change
  cases h.kind with
  | read => simp
  | write =>
    by_cases hg : L.registry h = g
    · simp [hg]
    · simp [hg, Table.get_set, Ne.symm hg]

/-- The ledger of holders changes for a read half. -/
theorem holders_change :
    (p.change L h owners holders).holders.get g = if h.kind = .read ∧ L.registry h = g
      then holders (p.holders.get g) else p.holders.get g := by
  unfold change
  cases h.kind with
  | write => simp
  | read =>
    by_cases hg : L.registry h = g
    · simp [hg]
    · simp [hg, Table.get_set, Ne.symm hg]

end change

end Phases

/-! ## Shadows -/

/-- The phase that an activity stands for. A call that has come to a verdict, or has cleared its
ledger, has returned in the coarse protocol. -/
def Activity.phase : Activity K → Phase
  | .ready last => .ready last
  | .acquiring a stage =>
    match stage.verdict? with
    | some v => .ready (some (a.reply v))
    | none => if stage.isPending a.half.kind then .draining a.half else .acquiring a.half
  | .releasing r stage =>
    match stage with
    | .begin | .looking | .entering | .clearing => .releasing r.half
    | .leaving | .concluding => .ready (some .done)
  | .asking _ _ => .ready none

/-- The coarse call of a call that waits as long as it takes, or releases. -/
def Call.plain? : Call K → Option PlainCall
  | .acquire h entry => if entry = { manner := .lock } then some (.lock h) else none
  | .unlock h => some (.unlock h)
  | .dropGuard _ | .ask _ => none

namespace State

variable (L : Layout K)

/-- The call of the thread takes effect with its next step: it is about to record an acquisition,
or, for a writer with its claim, has just to look at the holders and finds none; or it is about to
clear its half; or it fails because of what the hold set says. -/
def takesEffect (s : State b K) (t : ThreadId) : Bool :=
  match s.activity t with
  | .acquiring a .looking => decide (s.IsHeldBy a.half t)
  | .acquiring _ (.recordingIn _) => true
  | .acquiring a (.testing .holder) =>
    (s.registries.get (L.registry a.half)).isFree .holder (L.resources a.half).items
  | .releasing r .looking => decide (¬ s.IsHeldBy r.half t)
  | .releasing _ .clearing => true
  | _ => false

/-- What happens in the coarse protocol when something happens. -/
def shadow? (s : State b K) : Action K → Option PhaseAction
  | .call t c => c.plain?.map (.call t)
  | .step t => if s.takesEffect L t then some (.step t) else none
  | _ => none

/-- What happens in the coarse protocol in a run. -/
def shadow (s : State b K) : List (Action K) → List PhaseAction
  | [] => []
  | α :: αs =>
    match s.next? L α with
    | none => []
    | some s' => (s.shadow? L α).toList ++ shadow s' αs

variable {L} in
/-- A run casts its shadow piece by piece. -/
theorem shadow_append {s u : State b K} {αs : List (Action K)} (run : s.run? L αs = some u)
    (βs : List (Action K)) : s.shadow L (αs ++ βs) = s.shadow L αs ++ u.shadow L βs := by
  induction αs generalizing s with
  | nil =>
    cases run
    rfl
  | cons α αs ih =>
    obtain ⟨v, first, rest⟩ := run?_cons_eq_some.1 run
    simp only [List.cons_append, shadow, first, ih rest, List.append_assoc]

/-- A state of the coarse protocol mirrors one of the protocol. -/
structure Mirrors (s : State b K) (p : Phases b K) : Prop where
  /-- The ledgers of owners are the same. -/
  owners : ∀ g, p.owners.get g = (s.registries.get g).owners
  /-- The ledgers of holders are the same. -/
  holders : ∀ g, p.holders.get g = (s.registries.get g).holders
  /-- A half is held that is on record and not being drained. -/
  held : ∀ h t, p.held.get (h, t) = true ↔
    s.OnRecord h t ∧ (s.activity t).phase ≠ .draining h
  /-- Every thread is in the phase that its activity stands for. So a call that has returned has
  returned the same. -/
  phase : ∀ t, p.phase.get t = (s.activity t).phase

end State

end ResourceLocks.Protocol
