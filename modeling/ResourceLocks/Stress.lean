import ResourceLocks.Protocol.Step

/-!
# Threads under load

A **load** is a thread that acquires and releases one half a number of times, trying again where it
was refused. `Stress.run` lets loads share one registry and take turns: in its turn a thread makes
its next call, or goes on with the call under way, until the call returns or waits.

The `Tally` counts the acquisitions and the **overlaps**: the times a thread acquired a resource
while another thread held it and one of the two was a writer. It also says whether the registry is
idle in the end.

In every round some thread acquires or releases: where nobody holds anything and nobody waits for
readers to leave, the first thread whose turn comes is not refused.
-/

namespace ResourceLocks.Stress

open Protocol

/-- A thread that acquires and releases one half again and again. -/
structure Load where
  /-- The half. -/
  half : Half
  /-- How it is acquired. -/
  manner : Manner
  /-- How many times it is still to be acquired. -/
  left : Nat
  /-- The thread holds the half. -/
  holding : Bool := false

/-- What came of all loads together. -/
structure Tally where
  /-- Acquisitions. -/
  acquired : Nat := 0
  /-- Acquisitions of a resource that was in conflicting use. -/
  overlaps : Nat := 0
  /-- Nothing is recorded in the registry in the end. -/
  idle : Bool := true
  deriving DecidableEq

/-- A registry and the threads that use it. -/
structure Arena (b : Backing) (K : Type) [Key K] where
  /-- The locks. -/
  layout : Layout K
  /-- The state of the protocol. -/
  state : State b K := .initial
  /-- The threads; the identity of a thread is its place. -/
  loads : List Load
  /-- The counts so far. -/
  tally : Tally := {}

namespace Arena

variable {b : Backing} {K : Type} [Key K]

/-- The steps of a call until it has returned or waits. No call has as many stages as the fuel. -/
def follow (L : Layout K) (t : ThreadId) : Nat → State b K → State b K
  | 0, s => s
  | fuel + 1, s =>
    match s.step? L t with
    | some s => follow L t fuel s
    | none => s

/-- A call made, if none is under way, and followed. -/
def advance (A : Arena b K) (t : ThreadId) (c : Call K) : State b K :=
  follow A.layout t 64 ((A.state.next? A.layout (.call t c)).getD A.state)

/-- The call of a thread has returned with success. -/
def succeeded (s : State b K) (t : ThreadId) : Bool :=
  match s.activity t with
  | .ready (some .done) | .ready (some (.answer true)) => true
  | _ => false

/-- Two loads use a common resource and one of them writes. -/
def conflicting (L : Layout K) (x y : Load) : Bool :=
  (x.half.kind = .write || y.half.kind = .write)
    && (L.resources x.half).items.any fun r => decide (r ∈ L.resources y.half)

/-- The turn of a thread. -/
def turn (A : Arena b K) (t : ThreadId) : Arena b K :=
  match A.loads[t]? with
  | none => A
  | some load =>
    if load.holding then
      { A with
        state := A.advance t (.unlock load.half)
        loads := A.loads.set t { load with holding := false } }
    else if load.left = 0 then A
    else
      let state := A.advance t (.acquire load.half { manner := load.manner })
      if succeeded state t then
        let others := A.loads.filter fun other => other.holding && conflicting A.layout load other
        { A with
          state
          loads := A.loads.set t { load with holding := true, left := load.left - 1 }
          tally := { A.tally with
            acquired := A.tally.acquired + 1, overlaps := A.tally.overlaps + others.length } }
      else { A with state }

/-- A number of rounds, in each of which every thread has its turn. -/
def rounds : Nat → Arena b K → Arena b K
  | 0, A => A
  | n + 1, A => rounds n ((List.range A.loads.length).foldl turn A)

end Arena

/-- What comes of loads on locks over the given resources. -/
def run {K : Type} [Key K] (b : Backing) (locks : List (List K)) (loads : List Load) : Tally :=
  let layout : Layout K :=
    { locks := locks.zipIdx.foldl (fun ls e => ls.set e.2 ⟨0, .ofList b e.1⟩) (.const ⟨0, .empty⟩) }
  let total := loads.foldr (fun load n => load.left + n) 0
  let arena := Arena.rounds (2 * total + loads.length + 1) ({ layout, loads } : Arena b K)
  { arena.tally with idle := (arena.state.registries.get 0).counts.isIdle }

end ResourceLocks.Stress
