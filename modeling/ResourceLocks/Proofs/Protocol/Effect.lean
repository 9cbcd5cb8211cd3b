import ResourceLocks.Proofs.Ledger.Counting
import ResourceLocks.Proofs.Protocol.Position

/-!
# What a step does to what threads share

Every step of a thread touches one shared thing: a monitor, a ledger, the mutex of a hold set, a
hold set, the thread's interrupt flag or the log. An `Effect` names it, and `Effect.apply` is the
change.

It changes one registry or one hold set at most (`Effect.registry_apply`, `Effect.holds_apply`). The
rest of a state is seen through a few **views**: who is inside a monitor or a mutex, who owns a
resource (`State.owner?`), how many holds a thread has on it (`State.holdCount`), who holds a half.
For each there is one lemma that says what an effect does to it (`inside_apply`, `mutex_apply`,
`owner?_apply`, `holdCount_apply`, `isHeldBy_apply`), as for the ledgers as a whole (`owners_apply`,
`holders_apply`), the interrupt flags (`isInterrupted_apply`) and the log (`log_apply`), and effects
are not unfolded elsewhere.
-/

namespace ResourceLocks.Protocol

/-- What a step does to what threads share. -/
inductive Effect where
  /-- Nothing. -/
  | nothing
  /-- The interrupt flag of the thread is cleared. -/
  | heed
  /-- An event is written to the log. -/
  | note (e : Event)
  /-- The thread enters a monitor. -/
  | enter (g : RegistryId) (m : Monitor)
  /-- The thread leaves a monitor. -/
  | exit (g : RegistryId) (m : Monitor)
  /-- An acquisition of a half is recorded in the ledger of a monitor. -/
  | record (m : Monitor) (h : Half)
  /-- An acquisition of a half is taken out of the ledger of a monitor, and its sleepers notified.
  -/
  | clear (m : Monitor) (h : Half)
  /-- The thread enters the mutex of a hold set. -/
  | enterMutex (h : Half)
  /-- The thread leaves the mutex of a hold set, perhaps with an event for the log. -/
  | exitMutex (h : Half) (noted : Option Event)
  /-- The thread joins a hold set and leaves its mutex. -/
  | join (h : Half)
  /-- The thread parts from a hold set and leaves its mutex. -/
  | part (h : Half)
  deriving DecidableEq

variable {b : Backing} {K : Type} [Key K]

/-- The state after an effect of a thread's step. -/
def Effect.apply (L : Layout K) (t : ThreadId) (s : State b K) : Effect → State b K
  | .nothing => s
  | .heed => s.setInterrupted t false
  | .note e => s.note t e
  | .enter g m => s.setRegistry g ((s.registries.get g).setInside m (some t))
  | .exit g m => s.exit g m
  | .record m h =>
    s.setRegistry (L.registry h)
      ((s.registries.get (L.registry h)).record m (L.resources h).items t)
  | .clear m h =>
    (s.setRegistry (L.registry h)
      ((s.registries.get (L.registry h)).clear m (L.resources h).items t)).notifyAll
        L (L.registry h) m
  | .enterMutex h => s.setHolds h { s.holds.get h with mutex := some t }
  | .exitMutex h none => s.exitMutex h (s.holds.get h)
  | .exitMutex h (some e) => (s.exitMutex h (s.holds.get h)).note t e
  | .join h => s.exitMutex h ((s.holds.get h).insert t)
  | .part h => s.exitMutex h ((s.holds.get h).erase t)

/-- The hold set whose mutex an effect leaves. -/
def Effect.mutexLeft? : Effect → Option Half
  | .exitMutex h _ | .join h | .part h => some h
  | _ => none

/-- The effect records an acquisition. -/
def Effect.isRecord : Effect → Bool
  | .record .. => true
  | _ => false

/-- The effect joins a hold set. -/
def Effect.isJoin : Effect → Bool
  | .join _ => true
  | _ => false

/-- The event that an effect writes to the log. -/
def Effect.noted? : Effect → Option Event
  | .note e => some e
  | .exitMutex _ noted => noted
  | _ => none

/-! ## Views of a state -/

namespace State

/-- The owner of a resource in a registry. -/
def owner? (s : State b K) (g : RegistryId) (r : K) : Option ThreadId :=
  (s.registries.get g).owners.get? r

/-- The number of holds that a thread has on a resource in a registry. -/
def holdCount (s : State b K) (g : RegistryId) (r : K) (t : ThreadId) : Nat :=
  (s.registries.get g).holders.count r t

/-- What a thread has written to the log, the newest event first. -/
def logOf (s : State b K) (t : ThreadId) : List Event :=
  (s.log.filter (·.thread = t)).map (·.event)

section setActivity

variable (s : State b K) (t u : ThreadId) (A : Activity K)

/-- A thread does what it was set to do. -/
@[simp] theorem activity_setActivity_self : (s.setActivity t A).activity t = A := by
  simp [activity, setActivity]

/-- All other threads do what they did. -/
theorem activity_setActivity_of_ne {t u : ThreadId} (h : u ≠ t) :
    (s.setActivity t A).activity u = s.activity u := by
  simp [activity, setActivity, Table.get_set_of_ne _ h]

/-- A flag does not change what threads do. -/
@[simp] theorem activity_setInterrupted (f : Bool) :
    (s.setInterrupted t f).activity u = s.activity u := by
  unfold activity setInterrupted
  rw [Table.get_set]
  by_cases hu : u = t
  · simp [hu]
  · simp [hu]

/-- What threads do does not change a flag. -/
@[simp] theorem isInterrupted_setActivity :
    (s.setActivity t A).isInterrupted u = s.isInterrupted u := by
  unfold isInterrupted setActivity
  rw [Table.get_set]
  by_cases hu : u = t
  · simp [hu]
  · simp [hu]

/-- A flag that is set or cleared is that of one thread. -/
theorem isInterrupted_setInterrupted (f : Bool) :
    (s.setInterrupted t f).isInterrupted u = if u = t then f else s.isInterrupted u := by
  unfold isInterrupted setInterrupted
  rw [Table.get_set]
  by_cases hu : u = t
  · simp [hu]
  · simp [hu]

end setActivity

/-- A notification changes no flag. -/
@[simp] theorem isInterrupted_notifyAll (L : Layout K) (s : State b K) (g : RegistryId)
    (m : Monitor) (t : ThreadId) : (s.notifyAll L g m).isInterrupted t = s.isInterrupted t := by
  simp only [isInterrupted, notifyAll, Table.get_map, Thread.notify]
  split
  · split <;> rfl
  · rfl

/-- A notification changes an activity only in being notified. -/
theorem alike_notifyAll (L : Layout K) (s : State b K) (g : RegistryId) (m : Monitor)
    (t : ThreadId) : (s.activity t).Alike ((s.notifyAll L g m).activity t) := by
  simp only [activity, notifyAll, Table.get_map, Thread.notify]
  split
  · split
    · rename_i a m' n w hA _
      exact .inr ⟨a, m', n, w, hA, rfl⟩
    · exact .refl _
  · exact .refl _

end State

/-! ## What an effect does to the views -/

namespace Effect

variable (L : Layout K) (t : ThreadId) (s : State b K)

/-- **Activities**: an effect changes none, but for notifications. -/
theorem alike_apply (e : Effect) (u : ThreadId) :
    (s.activity u).Alike ((e.apply L t s).activity u) := by
  cases e with
  | heed =>
    rw [apply, State.activity_setInterrupted]
    exact .refl _
  | clear m h => exact State.alike_notifyAll L _ _ m u
  | exitMutex h noted => cases noted <;> exact .refl _
  | _ => exact .refl _

/-- **Registries**: an effect changes one at most. -/
theorem registry_apply (e : Effect) (g : RegistryId) :
    (e.apply L t s).registries.get g =
      match e with
      | .enter g' m =>
        if g = g' then (s.registries.get g).setInside m (some t) else s.registries.get g
      | .exit g' m => if g = g' then (s.registries.get g).setInside m none else s.registries.get g
      | .record m h =>
        if g = L.registry h then (s.registries.get g).record m (L.resources h).items t
        else s.registries.get g
      | .clear m h =>
        if g = L.registry h then (s.registries.get g).clear m (L.resources h).items t
        else s.registries.get g
      | _ => s.registries.get g := by
  cases e with
  | enter g' m | exit g' m | record m h | clear m h =>
    simp only [apply, State.exit, State.notifyAll, State.setRegistry, Table.get_set]
    split
    · rename_i hg
      rw [hg]
    · rfl
  | exitMutex h noted => cases noted <;> rfl
  | _ => rfl

/-- **Monitors**: one that is entered has the thread inside, one that is left has nobody. -/
theorem inside_apply (e : Effect) (g : RegistryId) (m : Monitor) :
    ((e.apply L t s).registries.get g).inside m =
      if e = .enter g m then some t
      else if e = .exit g m then none
      else (s.registries.get g).inside m := by
  rw [registry_apply]
  cases e with
  | enter g' m' | exit g' m' =>
    by_cases hg : g = g'
    · subst hg
      cases m <;> cases m' <;> simp [Registry.inside, Registry.setInside]
    · simp [hg, Ne.symm hg]
  | record m' h | clear m' h =>
    by_cases hg : g = L.registry h
    · cases m <;> cases m' <;> simp [hg, Registry.inside, Registry.record, Registry.clear]
    · simp [hg]
  | _ => rfl

/-- **The ledger of owners** changes when a claim is recorded or cleared in it. -/
theorem owners_apply (e : Effect) (g : RegistryId) :
    ((e.apply L t s).registries.get g).owners =
      match e with
      | .record .owner h =>
        if L.registry h = g then (s.registries.get g).owners.claim (L.resources h).items t
        else (s.registries.get g).owners
      | .clear .owner h =>
        if L.registry h = g then (s.registries.get g).owners.withdraw (L.resources h).items
        else (s.registries.get g).owners
      | _ => (s.registries.get g).owners := by
  rw [registry_apply]
  cases e with
  | enter g' m | exit g' m => by_cases hg : g = g' <;> cases m <;> simp [hg, Registry.setInside]
  | record m h | clear m h =>
    by_cases hg : g = L.registry h
    · cases m <;> simp [hg, Registry.record, Registry.clear]
    · cases m <;> simp [hg, Ne.symm hg]
  | _ => rfl

/-- **The ledger of holders** changes when holds are recorded or cleared in it. -/
theorem holders_apply (e : Effect) (g : RegistryId) :
    ((e.apply L t s).registries.get g).holders =
      match e with
      | .record .holder h =>
        if L.registry h = g then (s.registries.get g).holders.hold (L.resources h).items t
        else (s.registries.get g).holders
      | .clear .holder h =>
        if L.registry h = g then (s.registries.get g).holders.release (L.resources h).items t
        else (s.registries.get g).holders
      | _ => (s.registries.get g).holders := by
  rw [registry_apply]
  cases e with
  | enter g' m | exit g' m => by_cases hg : g = g' <;> cases m <;> simp [hg, Registry.setInside]
  | record m h | clear m h =>
    by_cases hg : g = L.registry h
    · cases m <;> simp [hg, Registry.record, Registry.clear]
    · cases m <;> simp [hg, Ne.symm hg]
  | _ => rfl

/-- **Owners**: recording a claim makes the thread the owner of every resource of the half, clearing
it leaves none of them with an owner. -/
theorem owner?_apply (e : Effect) (g : RegistryId) (r : K) :
    (e.apply L t s).owner? g r =
      match e with
      | .record .owner h =>
        if L.registry h = g ∧ r ∈ L.resources h then some t else s.owner? g r
      | .clear .owner h =>
        if L.registry h = g ∧ r ∈ L.resources h then none else s.owner? g r
      | _ => s.owner? g r := by
  unfold State.owner?
  rw [owners_apply]
  cases e with
  | record m h | clear m h =>
    cases m with
    | owner =>
      by_cases hg : L.registry h = g
      · simp [hg, Owners.get?_claim, Owners.get?_withdraw, ResourceSet.mem_def]
      · simp [hg]
    | holder => rfl
  | _ => rfl

/-- **Holds**: recording adds one hold of the thread on every resource of the half, clearing takes
one back. -/
theorem holdCount_apply (e : Effect) (g : RegistryId) (r : K) (u : ThreadId) :
    (e.apply L t s).holdCount g r u =
      match e with
      | .record .holder h =>
        s.holdCount g r u + if L.registry h = g ∧ r ∈ L.resources h ∧ u = t then 1 else 0
      | .clear .holder h =>
        s.holdCount g r u - if L.registry h = g ∧ r ∈ L.resources h ∧ u = t then 1 else 0
      | _ => s.holdCount g r u := by
  unfold State.holdCount
  rw [holders_apply]
  cases e with
  | record m h | clear m h =>
    -- A resource set lists every resource once.
    have hcount : (L.resources h).items.count r = if r ∈ L.resources h then 1 else 0 :=
      (L.resources h).nodup.count
    cases m with
    | owner => rfl
    | holder =>
      by_cases hg : L.registry h = g
      · by_cases hu : u = t <;> simp [hg, hu, Holders.count_hold, Holders.count_release, hcount]
      · simp [hg]
  | _ => rfl

/-- An effect keeps the ledger of holders tidy. -/
theorem tidy_apply {s : State b K} (tidy : ∀ g, (s.registries.get g).holders.Tidy) (e : Effect)
    (g : RegistryId) : ((e.apply L t s).registries.get g).holders.Tidy := by
  rw [holders_apply]
  cases e with
  | record m h =>
    cases m with
    | owner => exact tidy g
    | holder =>
      dsimp only
      split
      · exact (tidy g).hold _ t
      · exact tidy g
  | clear m h =>
    cases m with
    | owner => exact tidy g
    | holder =>
      dsimp only
      split
      · exact (tidy g).release _ t
      · exact tidy g
  | _ => exact tidy g

/-- **Hold sets**: an effect changes one at most. -/
theorem holds_apply (e : Effect) (h : Half) :
    (e.apply L t s).holds.get h =
      match e with
      | .enterMutex h' =>
        if h = h' then { s.holds.get h with mutex := some t } else s.holds.get h
      | .exitMutex h' _ => if h = h' then { s.holds.get h with mutex := none } else s.holds.get h
      | .join h' =>
        if h = h' then { (s.holds.get h).insert t with mutex := none } else s.holds.get h
      | .part h' =>
        if h = h' then { (s.holds.get h).erase t with mutex := none } else s.holds.get h
      | _ => s.holds.get h := by
  cases e with
  | enterMutex h' | join h' | part h' =>
    simp only [apply, State.exitMutex, State.setHolds, Table.get_set]
    split
    · rename_i hh
      rw [hh]
    · rfl
  | exitMutex h' noted =>
    have hnoted : (apply L t s (exitMutex h' noted)).holds =
        (s.exitMutex h' (s.holds.get h')).holds := by
      cases noted <;> rfl
    simp only [hnoted, State.exitMutex, State.setHolds, Table.get_set]
    split
    · rename_i hh
      rw [hh]
    · rfl
  | _ => rfl

/-- **Mutexes**: one that is entered has the thread inside, one that is left has nobody. -/
theorem mutex_apply (e : Effect) (h : Half) :
    ((e.apply L t s).holds.get h).mutex =
      if e = .enterMutex h then some t
      else if e.mutexLeft? = some h then none
      else (s.holds.get h).mutex := by
  rw [holds_apply]
  cases e with
  | enterMutex h' | exitMutex h' noted | join h' | part h' =>
    by_cases hh : h = h'
    · simp [mutexLeft?, hh]
    · simp [mutexLeft?, hh, Ne.symm hh]
  | _ => rfl

/-- **Members**: only joining and parting change them, for the thread alone. -/
theorem isHeldBy_apply (e : Effect) (h : Half) (u : ThreadId) :
    (e.apply L t s).IsHeldBy h u ↔
      match e with
      | .join h' => (h = h' ∧ u = t) ∨ s.IsHeldBy h u
      | .part h' => ¬ (h = h' ∧ u = t) ∧ s.IsHeldBy h u
      | _ => s.IsHeldBy h u := by
  unfold State.IsHeldBy
  rw [holds_apply]
  cases e with
  | enterMutex h' | exitMutex h' noted => by_cases hh : h = h' <;> simp [hh]
  | join h' => by_cases hh : h = h' <;> simp [hh, HoldSet.mem_insert]
  | part h' => by_cases hh : h = h' <;> simp [hh, HoldSet.mem_erase]
  | _ => exact Iff.rfl

/-- **Flags**: only that of a thread which heeds it is cleared. -/
theorem isInterrupted_apply (e : Effect) (u : ThreadId) :
    (e.apply L t s).isInterrupted u = if e = .heed ∧ u = t then false else s.isInterrupted u := by
  cases e with
  | heed => simp [apply, State.isInterrupted_setInterrupted]
  | clear m h =>
    rw [if_neg (by simp), apply, State.isInterrupted_notifyAll]
    rfl
  | exitMutex h noted =>
    rw [if_neg (by simp)]
    cases noted <;> rfl
  | _ =>
    rw [if_neg (by simp)]
    rfl

/-- **The log** grows by what an effect notes. -/
theorem log_apply (e : Effect) :
    (e.apply L t s).log = (e.noted?.map fun event => ⟨t, event⟩).toList ++ s.log := by
  cases e with
  | exitMutex h noted => cases noted <;> rfl
  | _ => rfl

/-- Who is a member after an effect that is no joining was one before. -/
theorem isHeldBy_of_apply {e : Effect} {h : Half} {u : ThreadId} (nojoin : e.isJoin = false)
    (held : (e.apply L t s).IsHeldBy h u) : s.IsHeldBy h u := by
  rw [isHeldBy_apply] at held
  cases e with
  | join h' => cases nojoin
  | part h' => exact held.2
  | _ => exact held

end Effect

/-! ## The state after a turn -/

/-- The state after an effect of a thread that then does something else. -/
def State.after (L : Layout K) (s : State b K) (t : ThreadId) (e : Effect) (A' : Activity K) :
    State b K :=
  (e.apply L t s).setActivity t A'

namespace State

variable (L : Layout K) (s : State b K) (t u : ThreadId) (e : Effect) (A' : Activity K)

/-- After a turn the registries are what the effect has made of them. -/
@[simp] theorem registries_after : (s.after L t e A').registries = (e.apply L t s).registries := rfl

/-- After a turn the hold sets are what the effect has made of them. -/
@[simp] theorem holds_after : (s.after L t e A').holds = (e.apply L t s).holds := rfl

/-- After a turn halves are held as the effect has left them. -/
@[simp] theorem isHeldBy_after (h : Half) :
    (s.after L t e A').IsHeldBy h u ↔ (e.apply L t s).IsHeldBy h u := Iff.rfl

/-- After a turn resources are owned as the effect has left them. -/
@[simp] theorem owner?_after (g : RegistryId) (r : K) :
    (s.after L t e A').owner? g r = (e.apply L t s).owner? g r := rfl

/-- After a turn there are the holds that the effect has left. -/
@[simp] theorem holdCount_after (g : RegistryId) (r : K) :
    (s.after L t e A').holdCount g r u = (e.apply L t s).holdCount g r u := rfl

/-- After its turn a thread is in its next activity. -/
@[simp] theorem activity_after_self : (s.after L t e A').activity t = A' :=
  activity_setActivity_self _ t A'

/-- After a turn flags are set as the effect has left them. -/
@[simp] theorem isInterrupted_after :
    (s.after L t e A').isInterrupted u = (e.apply L t s).isInterrupted u :=
  isInterrupted_setActivity _ t u A'

/-- A turn adds to the log of its thread what its effect notes. -/
theorem logOf_after :
    (s.after L t e A').logOf u = if u = t then e.noted?.toList ++ s.logOf t else s.logOf u := by
  have hlog : (s.after L t e A').log =
      (e.noted?.map fun event => ⟨t, event⟩).toList ++ s.log := Effect.log_apply L t s e
  unfold logOf
  rw [hlog]
  by_cases hu : u = t
  · cases e.noted? <;> simp [hu]
  · cases e.noted? <;> simp [hu, Ne.symm hu]

variable {u t} in
/-- A turn changes no hold set for another thread. -/
theorem isHeldBy_after_of_ne (h : Half) (hu : u ≠ t) :
    (s.after L t e A').IsHeldBy h u ↔ s.IsHeldBy h u := by
  rw [isHeldBy_after, Effect.isHeldBy_apply]
  cases e with
  | _ => simp [hu]

variable {u t} in
/-- A turn of another thread notifies a thread at most. -/
theorem alike_after (h : u ≠ t) : (s.activity u).Alike ((s.after L t e A').activity u) := by
  rw [after, activity_setActivity_of_ne _ _ h]
  exact Effect.alike_apply L t s e u

end State

end ResourceLocks.Protocol
