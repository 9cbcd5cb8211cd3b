import ResourceLocks.Protocol.Call
import ResourceLocks.Protocol.Registry

/-!
# States of the protocol

A state says what is in every ledger, who is inside every monitor, which threads hold every half,
and where every thread is in the call it has made. Every call is cut into **stages**, small enough
that each touches one shared thing: a monitor is entered, a ledger is read or changed, a monitor
is left, each in a stage of its own. The stages of an acquisition in their order:

* `begin`, `looking`: enter the mutex of the hold set, look whether the half is held, leave it;
* `approaching m`, `entering m`: look at the interrupt flag, enter the monitor `m`;
* `testing m`: look whether the resources are free in the ledger of `m`;
* `taken m`, `settling m`, `asleep m`, `woken m`: they are not; look at the flag, look at the clock
  and fall asleep, be woken, enter again;
* `recordingIn m`: enter the holds (a reader, in the holder monitor) or the claim (a writer, in the
  owner monitor) into the ledger of `m`; `claimed`: a writer leaves the owner monitor to drain;
* `leaving m v`: leave the monitor `m` with the verdict `v`;
* `withdrawing v`, `returning v`, `unclaiming v`: a writer that could not drain reports it, enters
  the owner monitor again and clears its claim;
* `joining`, `noting`: enter the mutex of the hold set, add the thread, leave it;
* `concluding v`: write the log and reply.

**Monitors and readers.** A reader stays inside the owner monitor until it has left the holder
monitor. A writer is inside one monitor at a time.
-/

namespace ResourceLocks.Protocol

/-! ## Stages -/

/-- How an acquisition ends. -/
inductive Verdict where
  /-- The half is acquired. -/
  | acquired
  /-- The wait was not long enough. -/
  | refused
  /-- The interrupt flag was set. -/
  | interrupted
  deriving DecidableEq, Repr

/-- Where an acquisition is. -/
inductive AcquireStage where
  /-- About to enter the mutex of the hold set. -/
  | begin
  /-- Inside the mutex, about to look for the thread and leave. -/
  | looking
  /-- About to look at the interrupt flag before entering a monitor. -/
  | approaching (m : Monitor)
  /-- About to enter a monitor. -/
  | entering (m : Monitor)
  /-- Inside, about to look at the ledger. -/
  | testing (m : Monitor)
  /-- Inside, the resources being taken, about to look at the interrupt flag. -/
  | taken (m : Monitor)
  /-- Inside, about to look at the clock and fall asleep. -/
  | settling (m : Monitor)
  /-- Asleep on the condition of a monitor, with the time at which to wake at the latest. -/
  | asleep (m : Monitor) (notified : Bool) (wakeAt : Option Instant)
  /-- Awake, about to enter the monitor again. -/
  | woken (m : Monitor)
  /-- Inside, the resources being free, about to record the acquisition in the ledger. -/
  | recordingIn (m : Monitor)
  /-- Inside the owner monitor with the claim recorded, about to leave and drain. -/
  | claimed
  /-- Inside, about to leave. -/
  | leaving (m : Monitor) (v : Verdict)
  /-- About to report that the claim is withdrawn. -/
  | withdrawing (v : Verdict)
  /-- About to enter the owner monitor to withdraw the claim. -/
  | returning (v : Verdict)
  /-- Inside the owner monitor, about to clear the claim. -/
  | unclaiming (v : Verdict)
  /-- About to enter the mutex of the hold set. -/
  | joining
  /-- Inside the mutex, about to add the thread and leave. -/
  | noting
  /-- About to write the log and reply. -/
  | concluding (v : Verdict)
  deriving DecidableEq, Repr

/-- Where a release is. -/
inductive ReleaseStage where
  /-- About to enter the mutex of the hold set. -/
  | begin
  /-- Inside the mutex, about to remove the thread and leave. -/
  | looking
  /-- About to enter the monitor of the half. -/
  | entering
  /-- Inside, about to take the holds or the claim back and wake the sleepers. -/
  | clearing
  /-- Inside, about to leave. -/
  | leaving
  /-- About to write the log and reply. -/
  | concluding
  deriving DecidableEq, Repr

/-- Where a question is. -/
inductive QueryStage where
  /-- About to enter the first monitor, or the mutex of the hold set. -/
  | begin
  /-- Inside the owner monitor, about to enter the holder monitor. -/
  | descending
  /-- Inside, about to read. -/
  | reading
  /-- Inside, about to leave the holder monitor with the answer. -/
  | leavingHolder (answer : Reply)
  /-- Inside, about to leave the owner monitor with the answer. -/
  | leavingOwner (answer : Reply)
  deriving DecidableEq

/-- An acquisition under way. -/
structure Acquisition where
  /-- The half. -/
  half : Half
  /-- The way it was asked for. -/
  entry : EntryPoint
  /-- How its waits may end. -/
  patience : Patience
  deriving DecidableEq

/-- A release under way. -/
structure Release where
  /-- The half. -/
  half : Half
  /-- The release is the dropping of a guard, which hides failure. -/
  byGuard : Bool
  deriving DecidableEq

/-- What a thread is doing. -/
inductive Activity (K : Type) where
  /-- Nothing; the last call returned this. -/
  | ready (last : Option Reply)
  /-- Acquiring a half. -/
  | acquiring (a : Acquisition) (stage : AcquireStage)
  /-- Releasing a half. -/
  | releasing (r : Release) (stage : ReleaseStage)
  /-- Asking a question. -/
  | asking (q : Query K) (stage : QueryStage)
  deriving DecidableEq

/-- A thread. -/
structure Thread (K : Type) where
  /-- The interrupt flag. -/
  interrupted : Bool := false
  /-- What it is doing. -/
  activity : Activity K := .ready none
  deriving DecidableEq

/-! ## Hold sets and the log -/

/-- The threads that hold a half, and the thread inside the mutex that guards them. -/
structure HoldSet where
  /-- The threads, each once. -/
  members : List ThreadId := []
  /-- No thread is listed twice. -/
  nodup : members.Nodup := by exact List.nodup_nil
  /-- The thread inside the mutex. -/
  mutex : Option ThreadId := none
  deriving DecidableEq

namespace HoldSet

/-- A thread added. -/
def insert (s : HoldSet) (t : ThreadId) : HoldSet :=
  if h : t ∈ s.members then s
  else { s with members := t :: s.members, nodup := List.nodup_cons.2 ⟨h, s.nodup⟩ }

/-- A thread taken out. -/
def erase (s : HoldSet) (t : ThreadId) : HoldSet :=
  { s with members := s.members.erase t, nodup := s.nodup.erase t }

/-- Who joins a hold set is a member, with all who were. -/
theorem mem_insert {s : HoldSet} {t u : ThreadId} :
    u ∈ (s.insert t).members ↔ u = t ∨ u ∈ s.members := by
  unfold insert
  split <;> simp_all

/-- Who parts from a hold set is no member, and all others are who were. -/
theorem mem_erase {s : HoldSet} {t u : ThreadId} :
    u ∈ (s.erase t).members ↔ u ≠ t ∧ u ∈ s.members := s.nodup.mem_erase_iff

end HoldSet

/-- Something that is written to the log. -/
inductive Event where
  /-- A lock was made. -/
  | created (lock : LockId)
  /-- An acquisition ended without an error. -/
  | finished (half : Half) (acquired : Bool)
  /-- A half was released. -/
  | released (half : Half)
  /-- The claim of a write half is withdrawn because its readers did not leave. -/
  | rolledBack (half : Half) (panicking : Bool)
  /-- A guard was dropped whose half the thread does not hold. -/
  | guardFailed (half : Half)
  deriving DecidableEq, Repr

/-- An event and the thread on which it happened. -/
structure LogEntry where
  /-- The thread. -/
  thread : ThreadId
  /-- The event. -/
  event : Event
  deriving DecidableEq, Repr

/-! ## States -/

/-- The state of all registries, halves and threads. -/
structure State (b : Backing) (K : Type) [Key K] where
  /-- The registries. -/
  registries : Table RegistryId (Registry b K) := .const {}
  /-- Who holds which half. -/
  holds : Table Half HoldSet := .const {}
  /-- The threads. -/
  threads : Table ThreadId (Thread K) := .const {}
  /-- The log, the newest entry first. -/
  log : List LogEntry := []
  /-- The reading of the clock. -/
  now : Instant := 0
  deriving DecidableEq

namespace State

variable {b : Backing} {K : Type} [Key K]

/-- Nothing is held, no thread is doing anything. -/
def initial : State b K := {}

/-- The thread holds the half. -/
def IsHeldBy (s : State b K) (h : Half) (t : ThreadId) : Prop := t ∈ (s.holds.get h).members

instance (s : State b K) (h : Half) (t : ThreadId) : Decidable (s.IsHeldBy h t) :=
  inferInstanceAs (Decidable (_ ∈ _))

/-- What a thread is doing. -/
def activity (s : State b K) (t : ThreadId) : Activity K := (s.threads.get t).activity

/-- The interrupt flag of a thread. -/
def isInterrupted (s : State b K) (t : ThreadId) : Bool := (s.threads.get t).interrupted

/-! ### Changes to one part of a state -/

/-- A thread doing something else. -/
def setActivity (s : State b K) (t : ThreadId) (activity : Activity K) : State b K :=
  { s with threads := s.threads.set t { s.threads.get t with activity } }

/-- The interrupt flag of a thread set or cleared. -/
def setInterrupted (s : State b K) (t : ThreadId) (interrupted : Bool) : State b K :=
  { s with threads := s.threads.set t { s.threads.get t with interrupted } }

/-- A registry changed. -/
def setRegistry (s : State b K) (g : RegistryId) (r : Registry b K) : State b K :=
  { s with registries := s.registries.set g r }

/-- A hold set changed. -/
def setHolds (s : State b K) (h : Half) (hs : HoldSet) : State b K :=
  { s with holds := s.holds.set h hs }

/-- An event written to the log. -/
def note (s : State b K) (t : ThreadId) (e : Event) : State b K :=
  { s with log := ⟨t, e⟩ :: s.log }

/-- The thread inside a monitor that nobody is inside. -/
def enter? (s : State b K) (g : RegistryId) (m : Monitor) (t : ThreadId) : Option (State b K) :=
  match (s.registries.get g).inside m with
  | none => some (s.setRegistry g ((s.registries.get g).setInside m (some t)))
  | some _ => none

/-- Nobody inside a monitor. -/
def exit (s : State b K) (g : RegistryId) (m : Monitor) : State b K :=
  s.setRegistry g ((s.registries.get g).setInside m none)

/-- The thread inside a mutex that nobody is inside. -/
def enterMutex? (s : State b K) (h : Half) (t : ThreadId) : Option (State b K) :=
  match (s.holds.get h).mutex with
  | none => some (s.setHolds h { s.holds.get h with mutex := some t })
  | some _ => none

/-- A hold set changed and nobody inside its mutex. -/
def exitMutex (s : State b K) (h : Half) (hs : HoldSet) : State b K :=
  s.setHolds h { hs with mutex := none }

end State

end ResourceLocks.Protocol
