import ResourceLocks.Protocol.State

/-!
# Steps of the protocol

`State.step L s t` is the one step that thread `t` can take in state `s`, or `none` where it has no
call under way or waits for somebody else: at a monitor that another thread is inside, or asleep.
`State.next` adds what comes from outside: a thread makes a call, a bounded wait for a monitor ends,
a sleeper's time is up, a flag is set or cleared, time passes.

**The two phases.** A reader waits in the owner monitor until no resource has an owner, then enters
the holder monitor from there and adds its holds. A writer waits for the same, claims its resources,
leaves, and waits in the holder monitor until nobody holds any of them. Whatever ends the second
wait other than success, the claim is withdrawn after the holder monitor has been left.

**Waking.** The step that takes holds or a claim out of a ledger also notifies everyone asleep at
the monitor of that ledger. A thread that is asleep unnotified moves only when its time is up.
-/

namespace ResourceLocks.Protocol

variable {b : Backing} {K : Type} [Key K]

/-! ## Waking -/

/-- A thread asleep at a monitor of a registry notified; every other thread as it is. -/
def Thread.notify (L : Layout K) (g : RegistryId) (m : Monitor) (th : Thread K) : Thread K :=
  match th.activity with
  | .acquiring a (.asleep m' _ wakeAt) =>
    if m' = m ∧ L.registry a.half = g then
      { th with activity := .acquiring a (.asleep m' true wakeAt) }
    else th
  | _ => th

/-- Everyone asleep at a monitor of a registry notified. -/
def State.notifyAll (L : Layout K) (s : State b K) (g : RegistryId) (m : Monitor) : State b K :=
  { s with threads := s.threads.map (Thread.notify L g m) }

/-! ## The order of the stages -/

namespace AcquireStage

/-- Where an acquisition goes that gives up outside the monitor it was about to enter. -/
def givingUp (k : Kind) (m : Monitor) (v : Verdict) : AcquireStage :=
  match m, k with
  | .owner, _ => concluding v
  | .holder, .read => leaving .owner v
  | .holder, .write => withdrawing v

/-- Where an acquisition goes once it has entered a monitor. -/
def entered (k : Kind) (m : Monitor) : AcquireStage :=
  match m, k with
  | .holder, .read => recordingIn .holder
  | m, _ => testing m

/-- Where an acquisition goes once it has found its resources free. -/
def free (k : Kind) (m : Monitor) : AcquireStage :=
  match m, k with
  | .owner, .read => approaching .holder
  | .owner, .write => recordingIn .owner
  | .holder, .read => recordingIn .holder
  | .holder, .write => leaving .holder .acquired

/-- Where an acquisition goes once it is recorded in a ledger. -/
def recorded : Monitor → AcquireStage
  | .owner => claimed
  | .holder => leaving .holder .acquired

/-- Where an acquisition goes once it has left a monitor with a verdict. -/
def left (k : Kind) (m : Monitor) (v : Verdict) : AcquireStage :=
  match m, k, v with
  | .holder, .read, v => leaving .owner v
  | .holder, .write, .acquired => joining
  | .holder, .write, v => withdrawing v
  | .owner, _, .acquired => joining
  | .owner, _, v => concluding v

end AcquireStage

/-- What the caller of an acquisition is told. -/
def Acquisition.reply (a : Acquisition) : Verdict → Reply
  | .acquired => a.entry.reply true
  | .refused => a.entry.reply false
  | .interrupted => .failed .interrupted

namespace State

/-! ## Steps of the three kinds of call -/

/-- The step of a thread that acquires a half. -/
def acquireStep? (L : Layout K) (s : State b K) (t : ThreadId) (a : Acquisition)
    (stage : AcquireStage) : Option (State b K) :=
  let g := L.registry a.half
  let rs := (L.resources a.half).items
  let k := a.half.kind
  let goto (s : State b K) (stage : AcquireStage) := s.setActivity t (.acquiring a stage)
  let heeded := a.patience.heedsInterrupts && s.isInterrupted t
  match stage with
  | .begin => (s.enterMutex? a.half t).map (goto · .looking)
  | .looking =>
    let s' := s.exitMutex a.half (s.holds.get a.half)
    if s.IsHeldBy a.half t then some (s'.setActivity t (.ready (some (.failed (.alreadyHeld k)))))
    else some (goto s' (.approaching .owner))
  | .approaching m =>
    if heeded then some (goto (s.setInterrupted t false) (.givingUp k m .interrupted))
    else some (goto s (.entering m))
  | .entering m =>
    match s.enter? g m t with
    | some s' => some (goto s' (.entered k m))
    | none => if a.patience = .immediate then some (goto s (.givingUp k m .refused)) else none
  | .testing m => some (goto s (if (s.registries.get g).isFree m rs then .free k m else .taken m))
  | .taken m =>
    if heeded then some (goto (s.setInterrupted t false) (.leaving m .interrupted))
    else some (goto s (.settling m))
  | .settling m =>
    match a.patience.sleep? s.now (L.interval g) with
    | none => some (goto s (.leaving m .refused))
    | some length => some (goto (s.exit g m) (.asleep m false (length.map (s.now + ·))))
  | .asleep m notified _ => if notified then some (goto s (.woken m)) else none
  | .woken m => (s.enter? g m t).map (goto · (.testing m))
  | .recordingIn m =>
    some (goto (s.setRegistry g ((s.registries.get g).record m rs t)) (.recorded m))
  | .claimed => some (goto (s.exit g .owner) (.approaching .holder))
  | .leaving m v => some (goto (s.exit g m) (.left k m v))
  | .withdrawing v => some (goto (s.note t (.rolledBack a.half false)) (.returning v))
  | .returning v => (s.enter? g .owner t).map (goto · (.unclaiming v))
  | .unclaiming v =>
    let s' := s.setRegistry g ((s.registries.get g).clear .owner rs t)
    some (goto (s'.notifyAll L g .owner) (.leaving .owner v))
  | .joining => (s.enterMutex? a.half t).map (goto · .noting)
  | .noting =>
    some (goto (s.exitMutex a.half ((s.holds.get a.half).insert t)) (.concluding .acquired))
  | .concluding v =>
    let s' := match v with
      | .acquired => s.note t (.finished a.half true)
      | .refused => s.note t (.finished a.half false)
      | .interrupted => s
    some (s'.setActivity t (.ready (some (a.reply v))))

/-- The step of a thread that releases a half. -/
def releaseStep? (L : Layout K) (s : State b K) (t : ThreadId) (r : Release)
    (stage : ReleaseStage) : Option (State b K) :=
  let g := L.registry r.half
  let rs := (L.resources r.half).items
  let m := Monitor.ofKind r.half.kind
  let goto (s : State b K) (stage : ReleaseStage) := s.setActivity t (.releasing r stage)
  match stage with
  | .begin => (s.enterMutex? r.half t).map (goto · .looking)
  | .looking =>
    if s.IsHeldBy r.half t then
      some (goto (s.exitMutex r.half ((s.holds.get r.half).erase t)) .entering)
    else
      let s' := s.exitMutex r.half (s.holds.get r.half)
      if r.byGuard then
        some ((s'.note t (.guardFailed r.half)).setActivity t (.ready (some .done)))
      else
        some (s'.setActivity t (.ready (some (.failed (.notHeld r.half.kind)))))
  | .entering => (s.enter? g m t).map (goto · .clearing)
  | .clearing =>
    let s' := s.setRegistry g ((s.registries.get g).clear m rs t)
    some (goto (s'.notifyAll L g m) .leaving)
  | .leaving => some (goto (s.exit g m) .concluding)
  | .concluding =>
    some ((s.note t (.released r.half)).setActivity t (.ready (some .done)))

/-- The answer to a question, as the asking thread reads it off. -/
def answer (s : State b K) (t : ThreadId) : Query K → Reply
  | .status g r => .status ((s.registries.get g).status r t)
  | .isExclusiveFree g rs => .answer ((s.registries.get g).isFree .owner rs)
  | .isSharedFree g rs => .answer ((s.registries.get g).isFree .holder rs)
  | .counts g => .counts (s.registries.get g).counts
  | .isHeld h => .answer (decide (s.IsHeldBy h t))

/-- The step of a thread that asks a question. -/
def queryStep? (s : State b K) (t : ThreadId) (q : Query K) (stage : QueryStage) :
    Option (State b K) :=
  let goto (s : State b K) (stage : QueryStage) := s.setActivity t (.asking q stage)
  let finish (s : State b K) (answer : Reply) := s.setActivity t (.ready (some answer))
  match q, stage with
  | .status g _, .begin | .counts g, .begin => (s.enter? g .owner t).map (goto · .descending)
  | .status g _, .descending | .counts g, .descending =>
    (s.enter? g .holder t).map (goto · .reading)
  | .status .., .reading | .counts _, .reading => some (goto s (.leavingHolder (s.answer t q)))
  | .status g _, .leavingHolder a | .counts g, .leavingHolder a =>
    some (goto (s.exit g .holder) (.leavingOwner a))
  | .status g _, .leavingOwner a | .counts g, .leavingOwner a =>
    some (finish (s.exit g .owner) a)
  | .isExclusiveFree g _, .begin => (s.enter? g .owner t).map (goto · .reading)
  | .isExclusiveFree .., .reading => some (goto s (.leavingOwner (s.answer t q)))
  | .isExclusiveFree g _, .leavingOwner a => some (finish (s.exit g .owner) a)
  | .isSharedFree g _, .begin => (s.enter? g .holder t).map (goto · .reading)
  | .isSharedFree .., .reading => some (goto s (.leavingHolder (s.answer t q)))
  | .isSharedFree g _, .leavingHolder a => some (finish (s.exit g .holder) a)
  | .isHeld h, .begin => (s.enterMutex? h t).map (goto · .reading)
  | .isHeld h, .reading => some (finish (s.exitMutex h (s.holds.get h)) (s.answer t q))
  | _, _ => none

/-- The step that a thread can take. -/
def step? (L : Layout K) (s : State b K) (t : ThreadId) : Option (State b K) :=
  match s.activity t with
  | .ready _ => none
  | .acquiring a stage => s.acquireStep? L t a stage
  | .releasing r stage => s.releaseStep? L t r stage
  | .asking q stage => s.queryStep? t q stage

end State

/-! ## Everything that can happen -/

/-- The activity with which a call starts. -/
def Call.start (now : Instant) : Call K → Activity K
  | .acquire half entry => .acquiring ⟨half, entry, entry.manner.patience now⟩ .begin
  | .unlock half => .releasing ⟨half, false⟩ .begin
  | .dropGuard half => .releasing ⟨half, true⟩ .begin
  | .ask query => .asking query .begin

/-- Something that happens. -/
inductive Action (K : Type) where
  /-- A thread that is doing nothing makes a call. -/
  | call (t : ThreadId) (c : Call K)
  /-- A thread takes its step. -/
  | step (t : ThreadId)
  /-- A thread stops waiting for a monitor because its deadline has come. -/
  | expire (t : ThreadId)
  /-- A thread stops sleeping because its time is up. -/
  | rouse (t : ThreadId)
  /-- The interrupt flag of a thread is set. -/
  | interrupt (t : ThreadId)
  /-- A thread that is doing nothing clears its interrupt flag. -/
  | clearFlag (t : ThreadId)
  /-- Time passes. -/
  | pass (nanos : Nat)
  deriving DecidableEq

namespace State

/-- A thread that waits for a monitor beyond its deadline gives up. -/
def expire? (s : State b K) (t : ThreadId) : Option (State b K) :=
  match s.activity t with
  | .acquiring a (.entering m) =>
    match a.patience with
    | .bounded deadline =>
      if deadline ≤ s.now then
        some (s.setActivity t (.acquiring a (.givingUp a.half.kind m .refused)))
      else none
    | _ => none
  | _ => none

/-- A thread that has slept long enough wakes. -/
def rouse? (s : State b K) (t : ThreadId) : Option (State b K) :=
  match s.activity t with
  | .acquiring a (.asleep m _ (some wakeAt)) =>
    if wakeAt ≤ s.now then some (s.setActivity t (.acquiring a (.woken m))) else none
  | _ => none

/-- What a state becomes when something happens, or `none` where it cannot happen. -/
def next? (L : Layout K) (s : State b K) : Action K → Option (State b K)
  | .call t c =>
    match s.activity t with
    | .ready _ => some (s.setActivity t (c.start s.now))
    | _ => none
  | .step t => s.step? L t
  | .expire t => s.expire? t
  | .rouse t => s.rouse? t
  | .interrupt t => some (s.setInterrupted t true)
  | .clearFlag t =>
    match s.activity t with
    | .ready _ => some (s.setInterrupted t false)
    | _ => none
  | .pass nanos => some { s with now := s.now + nanos }

/-- The states that a program over a layout can reach. -/
inductive Reachable (L : Layout K) : State b K → Prop where
  /-- The start. -/
  | initial : Reachable L initial
  /-- One more thing that happens. -/
  | next {s s' : State b K} (a : Action K) : Reachable L s → s.next? L a = some s' → Reachable L s'

end State

end ResourceLocks.Protocol
