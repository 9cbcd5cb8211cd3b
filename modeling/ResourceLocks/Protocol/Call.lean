import ResourceLocks.Ledger.Owners
import ResourceLocks.Protocol.Layout
import ResourceLocks.Status

/-!
# Calls and replies

What a thread can ask of a lock or a provider, and what it can get as an answer.

There are eight ways to acquire a half (`EntryPoint`): four **manners** of waiting, each with or
without a guard as its result. The manner fixes the **patience** of the acquisition, that is how
its waits may end; a bounded manner whose end the clock cannot represent waits like one that has no
bound but can be interrupted. What the caller is told is `EntryPoint.reply`: the unbounded manners
do not look at whether the half was acquired.
-/

namespace ResourceLocks.Protocol

/-- How an acquisition may wait. -/
inductive Manner where
  /-- As long as it takes; interrupts are ignored. -/
  | lock
  /-- As long as it takes, or until interrupted. -/
  | lockInterruptibly
  /-- Not at all. -/
  | tryLock
  /-- For some time, or until interrupted. -/
  | tryLockFor (timeout : Duration)
  deriving DecidableEq

/-- How the waits of an acquisition may end. -/
inductive Patience where
  /-- Only when the resources are free. -/
  | endless
  /-- Also by an interrupt. -/
  | interruptible
  /-- Also by an interrupt, or when the clock reaches an instant. -/
  | bounded (deadline : Instant)
  /-- There are no waits. -/
  | immediate
  deriving DecidableEq, Repr

/-- Interrupts are heeded. -/
def Patience.heedsInterrupts : Patience → Bool
  | interruptible | bounded _ => true
  | endless | immediate => false

/-- The patience of a manner for an acquisition that starts at an instant. -/
def Manner.patience (now : Instant) : Manner → Patience
  | lock => .endless
  | lockInterruptibly => .interruptible
  | tryLock => .immediate
  | tryLockFor timeout =>
    match Instant.add? now timeout with
    | some deadline => .bounded deadline
    | none => .interruptible

/-- How long to sleep at most: `some none` without limit, `none` not at all, because there is no
time left. -/
def Patience.sleep? (now : Instant) (interval : Nat) : Patience → Option (Option Nat)
  | endless => some none
  | interruptible => some (some interval)
  | bounded deadline => if deadline ≤ now then none else some (some (min (deadline - now) interval))
  | immediate => none

/-- A way to acquire a half. -/
structure EntryPoint where
  /-- How to wait. -/
  manner : Manner
  /-- Whether a guard is wanted. -/
  guarded : Bool := false
  deriving DecidableEq

/-- A question about a registry or a half. -/
inductive Query (K : Type) where
  /-- The status of a resource. -/
  | status (registry : RegistryId) (r : K)
  /-- Whether no resource of a list has an owner. -/
  | isExclusiveFree (registry : RegistryId) (rs : List K)
  /-- Whether no resource of a list has a holder. -/
  | isSharedFree (registry : RegistryId) (rs : List K)
  /-- The counts of a registry. -/
  | counts (registry : RegistryId)
  /-- Whether the calling thread holds a half. -/
  | isHeld (half : Half)
  deriving DecidableEq

/-- Something a thread asks for. -/
inductive Call (K : Type) where
  /-- Acquire a half. -/
  | acquire (half : Half) (entry : EntryPoint)
  /-- Release a half, directly or through a guard that reports failure. -/
  | unlock (half : Half)
  /-- Release a half by dropping a guard of it. -/
  | dropGuard (half : Half)
  /-- Ask a question. -/
  | ask (query : Query K)
  deriving DecidableEq

/-- What a call returns. -/
inductive Reply where
  /-- Success without further news. -/
  | done
  /-- A yes or a no. -/
  | answer (yes : Bool)
  /-- A guard of the half that was asked for. -/
  | guard
  /-- No guard, because the half was not acquired. -/
  | noGuard
  /-- Failure. -/
  | failed (e : LockError)
  /-- The status of a resource. -/
  | status (s : ResourceStatus)
  /-- The counts of a registry. -/
  | counts (c : RegistryCounts)
  deriving DecidableEq

/-- What the caller of an acquisition is told once it has ended without an error. -/
def EntryPoint.reply (e : EntryPoint) (acquired : Bool) : Reply :=
  match e.manner, e.guarded with
  | .lock, false | .lockInterruptibly, false => .done
  | .lock, true | .lockInterruptibly, true => .guard
  | .tryLock, false | .tryLockFor _, false => .answer acquired
  | .tryLock, true | .tryLockFor _, true => if acquired then .guard else .noGuard

end ResourceLocks.Protocol
