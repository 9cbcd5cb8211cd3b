import ResourceLocks.Session.Basic

/-!
# How a session comes to rest

After every command the session **settles**: the workers take their steps, one worker after the
other, each until it has ended its task or waits, and round by round until none of them moves. The
clock stands still meanwhile.

Time passes only while somebody waits for a worker that will not wait for ever (`limit?`). It jumps
to the next instant at which a sleeper's time is up, all whose time is up then wake, and the
session settles again.

The rounds are bounded. A round in which nobody is notified is followed by at most one more before
everybody waits, and a worker notifies others at most once for every guard it drops, once for the
release it was told to make, and once for a claim it withdraws.
-/

namespace ResourceLocks.Session

open Protocol

variable {b : Backing} {K : Type} [Key K]

/-! ## Settling -/

/-- One move of a worker that has a task: it goes on after a call that has returned, or takes a
step of the call under way, which fails if the wire is armed and different keys are compared. -/
def move? (s : Session b K) (name : String) (w : Worker K) : Option (Session b K) :=
  w.task.bind fun task =>
    match s.state.activity w.id with
    | .ready last => some (s.resume name w task last)
    | _ =>
      match (if s.armed && s.fragile then s.state.trip? s.layout w.id else none) with
      | some state => some { s with state, armed := false }
      | none => (s.state.step? s.layout w.id).map fun state => { s with state }

/-- The moves of a worker until it has none, and whether it had any. -/
def run (name : String) : Nat → Session b K → Session b K × Bool
  | 0, s => (s, false)
  | fuel + 1, s =>
    match (s.workers.get? name).bind (s.move? name) with
    | none => (s, false)
    | some s => ((run name fuel s).1, true)

/-- The number of guards that all workers keep or are about to drop. -/
def guardCount (s : Session b K) : Nat := s.workers.sumBy Worker.guardCount

/-- One round: every worker runs until it has no move. -/
def round (s : Session b K) : Session b K × Bool :=
  s.workers.keys.foldl (fun (s, moved) name =>
    let (s, moves) := s.run name (32 * (s.guardCount + 2))
    (s, moved || moves)) (s, false)

/-- Rounds until nobody moves. -/
def rounds : Nat → Session b K → Session b K
  | 0, s => s
  | fuel + 1, s =>
    match s.round with
    | (s, true) => rounds fuel s
    | (s, false) => s

/-- The session at rest. -/
def settle (s : Session b K) : Session b K :=
  s.rounds (4 * (s.workers.size + s.guardCount + 1))

/-! ## Time -/

/-- The instant at which a worker wakes at the latest. -/
def wakeAt? (s : Session b K) (w : Worker K) : Option Instant :=
  match s.state.activity w.id with
  | .acquiring _ (.asleep _ _ wakeAt) => wakeAt
  | _ => none

/-- The first instant at which the time of a sleeper is up. -/
def nextWake? (s : Session b K) : Option Instant := (s.workers.values.filterMap s.wakeAt?).min?

/-- The instant by which a worker has surely ended its wait, if there is one: its deadline, or the
time at which it finds its interrupt flag set. -/
def limit? (s : Session b K) (w : Worker K) : Option Instant :=
  match s.state.activity w.id with
  | .acquiring a (.asleep _ _ wakeAt) =>
    if a.patience.heedsInterrupts && s.state.isInterrupted w.id then wakeAt
    else match a.patience with
      | .bounded deadline => some deadline
      | _ => none
  | _ => none

/-- The session at a later instant, with everybody awake whose time is up. -/
def elapse (s : Session b K) (instant : Instant) : Session b K :=
  let state := { s.state with now := max s.state.now instant }
  let state := s.workers.values.foldl (fun st w => (st.rouse? w.id).getD st) state
  ({ s with state } : Session b K).settle

/-- The session when a worker has ended its task, or at a limit. -/
def waitUntil (name : String) (limit : Instant) : Nat → Session b K → Session b K
  | 0, s => s
  | fuel + 1, s =>
    match (s.workers.get? name).bind Worker.task, s.nextWake? with
    | some _, some wake => if wake ≤ limit then waitUntil name limit fuel (s.elapse wake) else s
    | _, _ => s

/-- The session when a worker has ended its task, if it will not wait for ever. Between two jumps
of the clock lies a millisecond, unless a deadline comes first, of which each worker has one. -/
def waitFor (s : Session b K) (name : String) : Session b K :=
  match (s.workers.get? name).bind s.limit? with
  | none => s
  | some limit =>
    s.waitUntil name limit
      ((limit - s.state.now) / nanosPerMilli * s.workers.size + 2 * s.workers.size + 2)

end ResourceLocks.Session
