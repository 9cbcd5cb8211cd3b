import ResourceLocks.Protocol.State

/-!
# Commands of a session

In a **session** named threads act one after the other on named providers, locks and guards. An
`Act` is what one of them does itself; a `Command` is an act of a thread, or something that happens
to a thread whatever it is doing; an `Outcome` is what comes of it.

Commands are written down before it is known what the names in them stand for, and parts of them
may be unreadable: such a part is `none`. The session complains about the first thing that it
misses (`Complaint`): a name before the parts that follow it, and those before the command as a
whole.
-/

namespace ResourceLocks.Session

open Protocol

/-! ## Commands -/

/-- What is done with a provider. -/
inductive ProviderUse (K : Type) where
  /-- Make another provider of the same registry. -/
  | clone (name : String)
  /-- Make a lock over the identifiers that are given. -/
  | newLock (name : String) (request : Option (List (Option K)))
  /-- Ask for the status of a resource. -/
  | status (r : Option K)
  /-- Ask whether no resource has an owner. -/
  | isExclusiveFree (rs : Option (List K))
  /-- Ask whether no resource has a holder. -/
  | isSharedFree (rs : Option (List K))
  /-- Ask for the counts of the registry. -/
  | counts

/-- What is done with one half of a lock. -/
inductive HalfUse where
  /-- Acquire it. A guard is kept under a name; in the background nobody waits for the end. -/
  | acquire (entry : EntryPoint) (guardName : String) (inBackground : Bool)
  /-- Release it. -/
  | unlock
  /-- Ask whether the thread holds it. -/
  | isHeld
  /-- Ask for its state. -/
  | state
  /-- Ask for a condition to wait on. -/
  | newCondition
  /-- Ask for its description. -/
  | describe

/-- What is done with a guard. -/
inductive GuardUse where
  /-- Drop it. -/
  | drop
  /-- Give it up and release its half. -/
  | unlock
  /-- Release its half and keep it. -/
  | unlockHalf
  /-- Ask for its description. -/
  | describe

/-- What a thread does itself. -/
inductive Act (K : Type) where
  /-- Make a provider with a registry of its own. -/
  | newProvider (name : String) (config : Option Config)
  /-- Use a provider. -/
  | withProvider (name : String) (use : ProviderUse K)
  /-- Use one half of a lock. -/
  | withHalf (lock : String) (kind : Option Kind) (use : Option HalfUse)
  /-- Use a guard of the thread. -/
  | withGuard (name : String) (use : GuardUse)
  /-- Set the thread's own interrupt flag. -/
  | interruptSelf
  /-- Ask for the thread's own interrupt flag. -/
  | isSelfInterrupted
  /-- Ask for the thread's own interrupt flag and clear it. -/
  | takeInterrupt
  /-- Ask whether a name is the thread's own. -/
  | isSelf (target : String)
  /-- Fail, dropping all guards of the thread. -/
  | panic
  /-- End, dropping all guards of the thread, and let another thread take the name. -/
  | respawn
  /-- Set or clear the trip wire. -/
  | setWire (armed : Bool)

/-- One command of a session. -/
inductive Command (K : Type) where
  /-- A thread does something itself. -/
  | act (thread : String) (a : Act K)
  /-- Set the interrupt flag of a thread, and see it take effect unless told otherwise. -/
  | interrupt (target : String) (awaited : Bool)
  /-- Ask for the interrupt flag of a thread. -/
  | isInterrupted (target : String)
  /-- Wait until a thread has finished what it is doing. -/
  | await (target : String)

/-! ## Outcomes -/

/-- What a session misses in a command. -/
inductive Complaint where
  /-- There is no such provider. -/
  | provider
  /-- There is no such lock. -/
  | lock
  /-- It is not said which half of the lock is meant. -/
  | kind
  /-- The resources of a new lock cannot be read. -/
  | resources
  /-- The thread has no such guard. -/
  | guard
  /-- There is no such thread. -/
  | thread
  /-- The command cannot be read. -/
  | command
  deriving DecidableEq, Repr

/-- Why a thread failed. -/
inductive Panic where
  /-- It was told to. -/
  | scripted
  /-- A comparison of keys failed. -/
  | comparison
  deriving DecidableEq, Repr

/-- The text of a failure. -/
def Panic.message : Panic → String
  | scripted => "scripted"
  | comparison => "comparison tripped"

/-- What comes of a command. -/
inductive Outcome (K : Type) [Key K] where
  /-- What a call returned. -/
  | reply (r : Reply)
  /-- The failure of the thread. -/
  | panicked (p : Panic)
  /-- The call goes on in the background. -/
  | waiting
  /-- The thread is still waiting for an earlier call to return. -/
  | busy
  /-- The command cannot be carried out. -/
  | complaint (c : Complaint)
  /-- A provider, with its settings. -/
  | provider (settings : Settings)
  /-- A new lock. -/
  | lock (plan : LockPlan K)
  /-- The state of a half. -/
  | state (s : LockState)
  /-- The description of a half. -/
  | half (plan : LockPlan K) (kind : Kind)
  /-- The description of a guard. -/
  | guard (plan : LockPlan K) (kind : Kind)

namespace Outcome

variable {K : Type} [Key K]

/-- Success without further news. -/
def done : Outcome K := .reply .done

/-- A yes or a no. -/
def answer (yes : Bool) : Outcome K := .reply (.answer yes)

/-- A failure that the caller is told of. -/
def failed (e : LockError) : Outcome K := .reply (.failed e)

end Outcome

end ResourceLocks.Session
