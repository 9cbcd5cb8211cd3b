/-!
# Kinds of lock and what can go wrong with one

A lock is a pair of halves: a **read** half for shared access and a **write** half for exclusive
access. `LockError` lists the causes of failure; each has a code, a message and the mark whether
it is a mistake of the caller (`isUsage`).
-/

namespace ResourceLocks

/-- Which half of a lock is meant. -/
inductive Kind where
  /-- Shared access. -/
  | read
  /-- Exclusive access. -/
  | write
  deriving DecidableEq, Repr

namespace Kind

/-- The word for a kind in messages and data. -/
def name : Kind → String
  | read => "read"
  | write => "write"

/-- The kind that a word stands for. -/
def ofName? : String → Option Kind
  | "read" => some read
  | "write" => some write
  | _ => none

/-- The kind as a constructor name. -/
def describe : Kind → String
  | read => "Read"
  | write => "Write"

end Kind

/-- Whether a thread holds a half. -/
inductive LockState where
  /-- The thread does not hold it. -/
  | unlocked
  /-- The thread holds it. -/
  | locked
  deriving DecidableEq, Repr

namespace LockState

/-- The word for a state in messages and data. -/
def name : LockState → String
  | unlocked => "unlocked"
  | locked => "locked"

/-- The state that a word stands for. -/
def ofName? : String → Option LockState
  | "unlocked" => some unlocked
  | "locked" => some locked
  | _ => none

/-- The state as a constructor name. -/
def describe : LockState → String
  | unlocked => "Unlocked"
  | locked => "Locked"

/-- The state that a membership test stands for. -/
def ofHeld (held : Bool) : LockState := if held then locked else unlocked

end LockState

/-- Why an operation on a lock failed. -/
inductive LockError where
  /-- The thread locks a half that it holds. -/
  | alreadyHeld (kind : Kind)
  /-- The thread unlocks a half that it does not hold. -/
  | notHeld (kind : Kind)
  /-- The thread's interrupt flag was set. -/
  | interrupted
  /-- A condition was asked of a lock over several resources. -/
  | conditionUnsupported
  /-- A configuration is out of range or cannot be read. -/
  | invalidConfig (text : String)
  deriving DecidableEq, Repr

namespace LockError

/-- The stable code of an error. -/
def code : LockError → String
  | alreadyHeld _ => "E300"
  | notHeld _ => "E301"
  | interrupted => "E302"
  | conditionUnsupported => "E303"
  | invalidConfig _ => "E304"

/-- The cause of an error as a constructor name. -/
def name : LockError → String
  | alreadyHeld _ => "AlreadyHeld"
  | notHeld _ => "NotHeld"
  | interrupted => "Interrupted"
  | conditionUnsupported => "ConditionUnsupported"
  | invalidConfig _ => "InvalidConfig"

/-- The message of an error. -/
def message : LockError → String
  | alreadyHeld kind =>
    kind.name ++ " lock is already held by the current thread; unlock it before locking again"
  | notHeld kind => kind.name ++ " lock is not held by the current thread"
  | interrupted => "Lock acquisition interrupted"
  | conditionUnsupported => "Conditions are not supported by multi-resource locks"
  | invalidConfig text => "Invalid lock configuration: " ++ text

/-- The error is a mistake of the caller. -/
def isUsage : LockError → Bool
  | alreadyHeld _ | notHeld _ => true
  | _ => false

end LockError

end ResourceLocks
