import ResourceLocks.Proofs.Ledger.Undoing
import ResourceLocks.Proofs.Protocol.Layouts
import ResourceLocks.Session.Perform
import ResourceLocks.Stress

/-!
# Sessions and loads conform to the protocol

A session carries out commands by letting threads make calls and take their steps. Its states are
states of the protocol: whatever the commands, **the state of a session is one that the protocol
reaches under its layout** (`Session.conforms_steps`, `Session.exists_run`), so that everything
proved of reachable states holds between any two commands of any session. The log is the exception,
because a session forgets it at every command and notes in it which locks were made
(`State.Conforms`).

* `Session.Sound` is what every command keeps. Its state conforms to the protocol under every layout
  that extends the present one, since more locks may be made later; calls, names and guards are
  about locks and registries that were made; and a thread is the bearer of one name and does nothing
  without a task.
* Within a command there is one lemma for every function that the command goes through: a call that
  is made (`Sound.call`), its end (`Sound.resume`), one move of a worker (`Sound.move`), then rounds
  of moves (`Sound.settle`), time that passes (`Sound.waitFor`), and each kind of use.
* `Sound.step` is the step lemma for commands and `Sound.steps` the run lemma.

A comparison of keys that fails ends a call in a way the protocol does not know. So the commands
must not set the trip wire where comparisons can fail (`Command.arms`).

Loads make no locks and forget no log, and all their states are reachable as they are
(`Stress.Arena.reachable_rounds`).
-/

namespace ResourceLocks

open Protocol

/-- What holds of all recorded values holds of those that are listed. -/
theorem Ledger.All.of_mem_values {b : Backing} {K V : Type} [Key K] {P : V → Prop}
    {l : Ledger b K V} (all : l.All P) {v : V} (here : v ∈ l.values) : P v := by
  obtain ⟨⟨k, v⟩, entry, rfl⟩ := List.mem_map.1 here
  exact all k v (Ledger.get?_eq_some_iff.2 entry)

namespace Session

variable {b : Backing} {K : Type} [Key K]

/-! ## What commands keep -/

/-- A half of a lock that was made. -/
def HalfMade (locks : Nat) (h : Half) : Prop := h.lock < locks

/-- The guards that a task is about are of locks that were made. -/
def Task.Made (locks : Nat) : Task K → Prop
  | .calling keep => ∀ p ∈ keep, HalfMade locks p.2
  | .dropping rest _ => ∀ h ∈ rest, HalfMade locks h

/-- A worker bears a name, given the names of all threads and the number of locks. -/
structure Bears (bearers : List String) (locks : Nat) (name : String) (w : Worker K) : Prop where
  /-- Its identity has the name. -/
  borne : bearers[w.id]? = some name
  /-- Its guards are of locks that were made. -/
  guards : w.guards.All (HalfMade locks)

/-- What a worker is under a name between two moves, in a state of the protocol. -/
structure Employs (bearers : List String) (locks : Nat) (state : State b K) (name : String)
    (w : Worker K) : Prop extends Bears bearers locks name w where
  /-- The guards that its task is about are of locks that were made. -/
  task : ∀ task ∈ w.task, task.Made locks
  /-- Without a task it does nothing. -/
  idle : w.task = none → ∃ last, state.activity w.id = .ready last

/-- What every command keeps in a session whose comparisons of keys can fail or not. -/
structure Sound (fragile : Bool) (s : Session b K) : Prop where
  /-- The state conforms to the protocol, also if more locks are made later. -/
  conforms : ∀ L, L.Extends s.layout s.lockCount s.registryCount → s.state.Conforms L
  /-- The locks are coordinated by registries that were made. -/
  founded : s.layout.Founded s.lockCount s.registryCount
  /-- The calls are about locks that were made. -/
  within : s.state.Within s.lockCount
  /-- The names of locks stand for locks that were made. -/
  locks : s.locks.All (· < s.lockCount)
  /-- The names of providers stand for registries that were made. -/
  providers : s.providers.All (· < s.registryCount)
  /-- The names of threads stand for workers. -/
  workers : ∀ name w, s.workers.get? name = some w →
    Employs s.bearers s.lockCount s.state name w
  /-- The identities that are not given yet do nothing. -/
  fresh : ∀ t, s.bearers.length ≤ t → ∃ last, s.state.activity t = .ready last
  /-- Whether comparisons can fail does not change. -/
  constant : s.fragile = fragile
  /-- The wire is not set where comparisons can fail. -/
  safe : (s.armed && s.fragile) = false

namespace Sound

variable {fragile : Bool} {s : Session b K} {name : String} {w : Worker K} {c : Call K}
  {α : Action K} {st : State b K}

/-- A session starts soundly. -/
theorem start (fragile : Bool) : Sound fragile ({ fragile } : Session b K) where
  conforms _ _ := State.conforms_initial
  founded _ := nofun
  within := State.within_initial 0
  locks _ _ := by simp
  providers _ _ := by simp
  workers _ _ := by simp
  fresh _ _ := ⟨none, rfl⟩
  constant := rfl
  safe := rfl

/-- Two names are not borne by one thread. -/
theorem id_ne {bearers : List String} {name' : String} {w' : Worker K}
    (borne : bearers[w.id]? = some name) (borne' : bearers[w'.id]? = some name')
    (other : name' ≠ name) : w'.id ≠ w.id := by
  intro same
  rw [same, borne] at borne'
  exact other (Option.some.inj borne').symm

/-! ### What happens in the protocol -/

/-- **What is no call keeps a session sound.** -/
theorem next (sound : Sound fragile s) (next : s.state.next? s.layout α = some st)
    (nocall : ∀ t c, α ≠ .call t c) : Sound fragile { s with state := st } where
  conforms L more :=
    (sound.conforms L more).next
      ((State.next?_of_extends more sound.founded sound.within α).trans next)
  founded := sound.founded
  within := sound.within.next? next fun t c here => absurd here (nocall t c)
  locks := sound.locks
  providers := sound.providers
  workers name w here := by
    have employs := sound.workers name w here
    refine ⟨employs.toBears, employs.task, fun done => ?_⟩
    obtain ⟨last, ready⟩ := employs.idle done
    exact ⟨last, State.next?_of_ready next ready (nocall w.id)⟩
  fresh t unused := by
    obtain ⟨last, ready⟩ := sound.fresh t unused
    exact ⟨last, State.next?_of_ready next ready (nocall t)⟩
  constant := sound.constant
  safe := sound.safe

/-- What is reported is of no account. -/
theorem setFinished (sound : Sound fragile s) (finished : List (String × Outcome K)) :
    Sound fragile { s with finished } :=
  { sound with }

/-- A worker takes the place of the one that had its name. -/
theorem setWorker (sound : Sound fragile s)
    (employs : Employs s.bearers s.lockCount s.state name w) : Sound fragile (s.setWorker name w) :=
  { sound with
    workers := fun name' w' here => by
      rw [Session.setWorker, Ledger.get?_insert] at here
      split at here
      · rename_i same
        cases here
        rw [same]
        exact employs
      · exact sound.workers name' w' here }

/-- The name is given to a new thread, which does nothing. -/
theorem employs_spawn (sound : Sound fragile s) (name : String) :
    Employs (s.bearers ++ [name]) s.lockCount s.state name { id := s.bearers.length } where
  borne := List.getElem?_concat_length
  guards _ _ := by simp
  task _ none := by cases none
  idle _ := sound.fresh _ (Nat.le_refl _)

/-- A new thread may take a name. -/
theorem spawn (sound : Sound fragile s) (name : String) : Sound fragile (s.spawn name) :=
  { sound with
    workers := fun name' w' here => by
      rw [Session.spawn, Session.setWorker, Ledger.get?_insert] at here
      split at here
      · rename_i same
        cases here
        rw [same]
        exact sound.employs_spawn name
      · have employs := sound.workers name' w' here
        obtain ⟨known, -⟩ := List.getElem?_eq_some_iff.1 employs.borne
        refine ⟨⟨?_, employs.guards⟩, employs.task, employs.idle⟩
        exact (List.getElem?_append_left known).trans employs.borne
    fresh := fun t unused => by
      refine sound.fresh t (Nat.le_trans ?_ unused)
      rw [Session.spawn, List.length_append]
      exact Nat.le_add_right .. }

/-- The thread of a name is one of the workers, also if it is started only now. -/
theorem summon (sound : Sound fragile s) (name : String) :
    Sound fragile (s.summon name).1 ∧
      (s.summon name).1.workers.get? name = some (s.summon name).2 := by
  unfold Session.summon
  split
  · rename_i w here
    exact ⟨sound, here⟩
  · refine ⟨sound.spawn name, ?_⟩
    rw [Session.spawn, Session.setWorker, Ledger.get?_insert, if_pos rfl]

/-! ### Calls and tasks -/

/-- **A call is made** by a thread that does nothing, for a lock that was made. -/
theorem call (sound : Sound fragile s) {task : Task K}
    (bears : Bears s.bearers s.lockCount name w) (made : c.subject.Within s.lockCount)
    (tasked : task.Made s.lockCount) :
    Sound fragile (s.call name w c task) := by
  unfold Session.call
  split
  · rename_i st next
    obtain ⟨last, ready, rfl⟩ := State.next?_call next
    have kept : ∀ t, t ≠ w.id → (s.state.after s.layout w.id .nothing
        (c.start s.state.now)).activity t = s.state.activity t :=
      fun t other => State.activity_setActivity_of_ne s.state _ other
    exact
      { sound with
        conforms := fun L more =>
          (sound.conforms L more).next
            ((State.next?_of_extends more sound.founded sound.within _).trans next)
        within := sound.within.next? next fun t c' here => by
          cases here
          exact made
        workers := fun name' w' here => by
          rw [Session.setWorker, Ledger.get?_insert] at here
          split at here
          · rename_i same
            cases here
            refine ⟨⟨same ▸ bears.borne, bears.guards⟩, fun task' here => ?_, nofun⟩
            cases here
            exact tasked
          · rename_i other
            have employs' := sound.workers name' w' here
            refine ⟨employs'.toBears, employs'.task, fun done => ?_⟩
            obtain ⟨last', ready'⟩ := employs'.idle done
            have distinct := id_ne bears.borne employs'.borne other
            exact ⟨last', (kept _ distinct).trans ready'⟩
        fresh := fun t unused => by
          obtain ⟨last', ready'⟩ := sound.fresh t unused
          obtain ⟨known, -⟩ := List.getElem?_eq_some_iff.1 bears.borne
          exact ⟨last', (kept t (Nat.ne_of_gt (Nat.lt_of_lt_of_le known unused))).trans ready'⟩ }
  · exact sound

/-- A worker that does nothing reports an outcome, or gives its name away. -/
theorem finish (sound : Sound fragile s) (bears : Bears s.bearers s.lockCount name w)
    (ready : ∃ last, s.state.activity w.id = .ready last) (ending : Ending K) :
    Sound fragile (s.finish name w ending) := by
  cases ending with
  | report o =>
    have employs : Employs s.bearers s.lockCount s.state name { w with task := none } :=
      ⟨⟨bears.borne, bears.guards⟩, nofun, fun _ => ready⟩
    exact (sound.setWorker employs).setFinished _
  | respawn => exact (sound.spawn name).setFinished _

/-- A worker that does nothing drops some guards. -/
theorem dropAll (sound : Sound fragile s) (bears : Bears s.bearers s.lockCount name w)
    (ready : ∃ last, s.state.activity w.id = .ready last) (ending : Ending K) {hs : List Half}
    (made : ∀ h ∈ hs, HalfMade s.lockCount h) : Sound fragile (s.dropAll name w ending hs) := by
  cases hs with
  | nil => exact sound.finish bears ready ending
  | cons h rest =>
    exact sound.call bears (made h (.head _)) fun h' here => made h' (.tail _ here)

/-- **A worker goes on** when its call has returned. -/
theorem resume (sound : Sound fragile s) (bears : Bears s.bearers s.lockCount name w)
    (ready : ∃ last, s.state.activity w.id = .ready last) {task : Task K}
    (tasked : task.Made s.lockCount) (last : Option Reply) :
    Sound fragile (s.resume name w task last) := by
  unfold Session.resume
  split
  · exact sound.finish bears ready _
  · rename_i guardName half
    have kept : Bears s.bearers s.lockCount name
        { w with guards := w.guards.insert guardName half } :=
      ⟨bears.borne, bears.guards.insert guardName (tasked _ rfl)⟩
    refine sound.dropAll kept ready _ fun h here => ?_
    exact bears.guards guardName h (Option.mem_toList.1 here)
  · exact sound.finish bears ready _
  · exact sound.dropAll bears ready _ tasked
  · exact sound.dropAll bears ready _ tasked

/-! ### Moves and rounds -/

/-- **One move of a worker.** No comparison fails. -/
theorem move (sound : Sound fragile s) (here : s.workers.get? name = some w) {s' : Session b K}
    (move : s.move? name w = some s') : Sound fragile s' := by
  have employs := sound.workers name w here
  obtain ⟨task, tasked, move⟩ := Option.bind_eq_some_iff.1 move
  split at move
  · rename_i last ready
    cases move
    exact sound.resume employs.toBears ⟨last, ready⟩ (employs.task task tasked) last
  · rw [sound.safe] at move
    obtain ⟨st, step, rfl⟩ := Option.map_eq_some_iff.1 move
    exact sound.next (α := .step w.id) step nofun

/-- A worker runs until it has no move. -/
theorem run (sound : Sound fragile s) (name : String) (fuel : Nat) :
    Sound fragile (s.run name fuel).1 := by
  induction fuel generalizing s with
  | zero => exact sound
  | succ fuel ih =>
    unfold Session.run
    split
    · exact sound
    · rename_i s' moved
      obtain ⟨w, here, move⟩ := Option.bind_eq_some_iff.1 moved
      exact ih (sound.move here move)

/-- Every worker runs until it has no move. -/
theorem round (sound : Sound fragile s) : Sound fragile s.round.1 := by
  unfold Session.round
  apply List.foldlRecOn (motive := fun p : Session b K × Bool => Sound fragile p.1)
  · exact sound
  · intro p sound name _
    exact sound.run name _

/-- Rounds follow one another. -/
theorem rounds (sound : Sound fragile s) (fuel : Nat) : Sound fragile (s.rounds fuel) := by
  induction fuel generalizing s with
  | zero => exact sound
  | succ fuel ih =>
    have next := sound.round
    unfold Session.rounds
    split
    · rename_i s' round
      rw [round] at next
      exact ih next
    · rename_i s' round
      rw [round] at next
      exact next

/-- **The session comes to rest.** -/
theorem settle (sound : Sound fragile s) : Sound fragile s.settle := sound.rounds _

/-! ### Time -/

/-- Time passes, and sleepers wake whose time is up. -/
theorem elapse (sound : Sound fragile s) (instant : Instant) :
    Sound fragile (s.elapse instant) := by
  have later :
      Sound fragile { s with state := { s.state with now := max s.state.now instant } } := by
    refine sound.next (α := .pass (instant - s.state.now)) ?_ (by rintro t c ⟨⟩)
    have passed : s.state.now + (instant - s.state.now) = max s.state.now instant := by
      rw [Nat.add_comm, Nat.sub_add_eq_max, Nat.max_comm]
    simp only [State.next?, passed]
  refine settle ?_
  apply List.foldlRecOn (motive := fun st : State b K => Sound fragile { s with state := st })
  · exact later
  · intro st sound w _
    cases roused : st.rouse? w.id with
    | none => exact sound
    | some st' => exact sound.next (α := .rouse w.id) roused (by rintro t c ⟨⟩)

/-- Time passes until a worker has ended its task, or up to a limit. -/
theorem waitUntil (sound : Sound fragile s) (name : String) (limit : Instant) (fuel : Nat) :
    Sound fragile (s.waitUntil name limit fuel) := by
  induction fuel generalizing s with
  | zero => exact sound
  | succ fuel ih =>
    unfold Session.waitUntil
    split
    · split
      · exact ih (sound.elapse _)
      · exact sound
    · exact sound

/-- **Time passes** until a worker has ended its task, unless it would wait for ever. -/
theorem waitFor (sound : Sound fragile s) (name : String) : Sound fragile (s.waitFor name) := by
  unfold Session.waitFor
  split
  · exact sound
  · exact sound.waitUntil name _ _

/-! ### Commands -/

/-- An outcome is reported. -/
theorem collect (sound : Sound fragile s) (name : String) : Sound fragile (s.collect name).2 := by
  unfold Session.collect
  split
  · exact sound.setFinished _
  · exact sound

/-- A call is made and followed. -/
theorem follow (sound : Sound fragile s) (bears : Bears s.bearers s.lockCount name w)
    (made : c.subject.Within s.lockCount) : Sound fragile (s.follow name w c).2 := by
  have unkept : (Task.calling none : Task K).Made s.lockCount := by
    rintro p ⟨⟩
  exact (sound.call bears made unkept).settle.collect name

/-- All guards of a worker are dropped. -/
theorem dropGuards (sound : Sound fragile s) (bears : Bears s.bearers s.lockCount name w)
    (ready : ∃ last, s.state.activity w.id = .ready last) (ending : Ending K) :
    Sound fragile (s.dropGuards name w ending).2 := by
  have bare : Bears s.bearers s.lockCount name { w with guards := .empty } :=
    ⟨bears.borne, fun _ _ => by simp⟩
  refine (sound.dropAll bare ready ending fun h here => ?_).settle.collect name
  exact bears.guards.of_mem_values here

/-- A provider is made, with a registry that no lock belongs to yet. -/
theorem newProvider (sound : Sound fragile s) (name : String) (settings : Settings) :
    Sound fragile (s.newProvider name settings) :=
  { sound with
    conforms := fun L more => by
      have before := Layout.extends_setSettings s.layout s.lockCount s.registryCount settings
      exact sound.conforms L (more.trans before (Nat.le_refl _) (Nat.le_succ _))
    founded := fun l made => Nat.lt_succ_of_lt (sound.founded l made)
    providers := by
      refine Ledger.All.insert ?_ name (Nat.lt_succ_self _)
      exact fun other g here => Nat.lt_succ_of_lt (sound.providers other g here) }

/-- A lock is made, after which more halves can be called for. -/
theorem newLock (sound : Sound fragile s) (w : Worker K) {g : RegistryId}
    (made : g < s.registryCount) (name : String) (request : List (Option K)) :
    Sound fragile (s.newLock w g name request).2 := by
  have safe := sound.safe
  unfold Session.newLock
  rw [safe, Bool.false_and, if_neg Bool.false_ne_true]
  have more : s.lockCount ≤ s.lockCount + 1 := Nat.le_succ _
  have stays : ∀ {h : Half}, HalfMade s.lockCount h → HalfMade (s.lockCount + 1) h :=
    fun made => Nat.lt_succ_of_lt made
  exact
    { sound with
      conforms := fun L extends' => by
        have before :=
          s.layout.extends_setLock s.lockCount s.registryCount ⟨g, .ofOptions b request⟩
        exact (sound.conforms L (extends'.trans before more (Nat.le_refl _))).noteCreated _ _
      founded := fun l below => by
        obtain below | rfl := Nat.lt_succ_iff_lt_or_eq.1 below
        · rw [Table.get_set_of_ne _ (Nat.ne_of_lt below)]
          exact sound.founded l below
        · rw [Table.get_set_self]
          exact made
      within := sound.within.mono more
      locks := by
        refine Ledger.All.insert ?_ name (Nat.lt_succ_self _)
        exact fun other l here => Nat.lt_succ_of_lt (sound.locks other l here)
      workers := fun name w here => by
        have employs := sound.workers name w here
        refine ⟨⟨employs.borne, fun k h found => stays (employs.guards k h found)⟩, ?_,
          employs.idle⟩
        intro task here
        have tasked := employs.task task here
        cases task with
        | calling keep => exact fun p kept => stays (tasked p kept)
        | dropping rest ending => exact fun h mem => stays (tasked h mem) }

/-- A provider is used. -/
theorem useProvider (sound : Sound fragile s) (bears : Bears s.bearers s.lockCount name w)
    {g : RegistryId} (made : g < s.registryCount) (use : ProviderUse K) :
    Sound fragile (s.useProvider name w g use).2 := by
  unfold Session.useProvider
  split
  · rename_i other
    exact { sound with providers := sound.providers.insert other made }
  · exact sound.newLock w made _ _
  all_goals first | exact sound.follow bears trivial | exact sound

/-- A half is used. -/
theorem useHalf (sound : Sound fragile s) (bears : Bears s.bearers s.lockCount name w)
    {h : Half} (made : HalfMade s.lockCount h) (use : HalfUse) :
    Sound fragile (s.useHalf name w h use).2 := by
  cases use with
  | acquire entry guardName inBackground =>
    have kept : (Task.calling (some (guardName, h)) : Task K).Made s.lockCount := by
      rintro p ⟨⟩
      exact made
    have settled := (sound.call bears (c := .acquire h entry) made kept).settle
    simp only [Session.useHalf]
    split
    · exact settled.collect name
    · exact (settled.waitFor name).collect name
  | unlock => exact sound.follow bears made
  | isHeld => exact sound.follow bears made
  | state =>
    have asked := sound.follow bears (c := .ask (.isHeld h)) made
    simp only [Session.useHalf]
    split
    · rename_i held s' followed
      rw [followed] at asked
      exact asked
    · exact asked
  | newCondition => exact sound
  | describe => exact sound

/-- A guard is used. -/
theorem useGuard (sound : Sound fragile s) (bears : Bears s.bearers s.lockCount name w)
    {h : Half} (made : HalfMade s.lockCount h) (guardName : String) (use : GuardUse) :
    Sound fragile (s.useGuard name w guardName h use).2 := by
  have given : Bears s.bearers s.lockCount name { w with guards := w.guards.erase guardName } :=
    ⟨bears.borne, bears.guards.erase guardName⟩
  cases use with
  | drop => exact sound.follow given made
  | unlock => exact sound.follow given made
  | unlockHalf => exact sound.follow bears made
  | describe => exact sound

/-- Interrupt flags may be set. -/
theorem interrupt (sound : Sound fragile s) (t : ThreadId) :
    Sound fragile { s with state := s.state.setInterrupted t true } :=
  sound.next (α := .interrupt t) rfl nofun

end Sound

/-- The act sets the trip wire. -/
def Act.arms : Act K → Bool
  | .setWire armed => armed
  | _ => false

/-- The command sets the trip wire. -/
def Command.arms : Command K → Bool
  | .act _ a => a.arms
  | _ => false

namespace Sound

variable {fragile : Bool} {s : Session b K} {name : String} {w : Worker K}

/-- **A thread acts** that has no task. -/
theorem enact (sound : Sound fragile s) (here : s.workers.get? name = some w)
    (free : w.task = none) (a : Act K) (unarmed : a.arms = true → fragile = false) :
    Sound fragile (s.enact name w a).2 := by
  have employs := sound.workers name w here
  have bears := employs.toBears
  have ready := employs.idle free
  cases a with
  | newProvider provider config =>
    simp only [Session.enact]
    split
    · exact sound
    · exact sound.newProvider provider _
  | withProvider provider use =>
    simp only [Session.enact]
    split
    · exact sound
    · rename_i g found
      exact sound.useProvider bears (sound.providers _ _ found) use
  | withHalf lock kind use =>
    simp only [Session.enact]
    split
    · exact sound
    · exact sound
    · exact sound
    · rename_i l kind use found
      exact sound.useHalf bears (sound.locks _ _ found) use
  | withGuard guardName use =>
    simp only [Session.enact]
    split
    · exact sound
    · rename_i h found
      exact sound.useGuard bears (bears.guards _ _ found) guardName use
  | interruptSelf => exact sound.interrupt w.id
  | isSelfInterrupted => exact sound
  | takeInterrupt =>
    obtain ⟨last, ready⟩ := ready
    refine sound.next (α := .clearFlag w.id) ?_ nofun
    simp only [State.next?, ready]
  | isSelf target => exact (sound.summon target).1
  | panic => exact sound.dropGuards bears ready _
  | respawn => exact sound.dropGuards bears ready _
  | setWire armed =>
    refine { sound with safe := ?_ }
    cases armed with
    | false => rfl
    | true => exact sound.constant.trans (unarmed rfl)

/-- A command is carried out. -/
theorem perform (sound : Sound fragile s) (c : Command K)
    (unarmed : c.arms = true → fragile = false) : Sound fragile (s.perform c).2 := by
  cases c with
  | act name a =>
    obtain ⟨summoned, here⟩ := sound.summon name
    simp only [Session.perform]
    split
    · exact summoned
    · rename_i free
      exact summoned.enact here (Option.not_isSome_iff_eq_none.1 free) a unarmed
  | interrupt target awaited =>
    obtain ⟨summoned, -⟩ := sound.summon target
    simp only [Session.perform]
    split
    · exact (summoned.interrupt _).waitFor target
    · exact summoned.interrupt _
  | isInterrupted target => exact (sound.summon target).1
  | await target =>
    simp only [Session.perform]
    split
    · exact sound
    · exact sound.waitFor target

/-- **Every command keeps a session sound.** -/
theorem step (sound : Sound fragile s) (c : Command K)
    (unarmed : c.arms = true → fragile = false) : Sound fragile (s.step c).2 := by
  refine perform ?_ c unarmed
  exact
    { sound with
      conforms := fun L more => (sound.conforms L more).clearLog
      workers := fun name w here => by
        have employs := sound.workers name w here
        exact ⟨employs.toBears, employs.task, employs.idle⟩ }

end Sound

/-! ## Sessions -/

/-- The session after some commands, one after the other. -/
def steps (s : Session b K) (cs : List (Command K)) : Session b K :=
  cs.foldl (fun s c => (s.step c).2) s

/-- **Commands keep a session sound**, as many as there are. -/
theorem Sound.steps {fragile : Bool} {s : Session b K} (sound : Sound fragile s)
    {cs : List (Command K)} (unarmed : ∀ c ∈ cs, c.arms = true → fragile = false) :
    Sound fragile (s.steps cs) := by
  induction cs generalizing s with
  | nil => exact sound
  | cons c cs ih =>
    have first := sound.step c (unarmed c (.head _))
    exact ih first fun c' here => unarmed c' (.tail _ here)

variable {fragile : Bool} {cs : List (Command K)}

/-- **The state of a session is one that the protocol reaches under its layout**, whatever the
commands were. -/
theorem conforms_steps (unarmed : ∀ c ∈ cs, c.arms = true → fragile = false) :
    (steps ({ fragile } : Session b K) cs).state.Conforms
      (steps ({ fragile } : Session b K) cs).layout := by
  have sound := (Sound.start (b := b) (K := K) fragile).steps unarmed
  exact sound.conforms _ (.refl _ _ _)

/-- **A session can be replayed as one run of the protocol**, which knows all its locks from the
start. In the log of that run, what the session has logged since the last command comes last. -/
theorem exists_run (unarmed : ∀ c ∈ cs, c.arms = true → fragile = false) :
    ∃ αs past, State.initial.run? (steps ({ fragile } : Session b K) cs).layout αs =
      some ((steps ({ fragile } : Session b K) cs).state.withLog
        ((steps ({ fragile } : Session b K) cs).state.log.filter (fun e => !e.event.isCreated) ++
          past)) := by
  obtain ⟨past, reachable⟩ := conforms_steps (b := b) unarmed
  obtain ⟨αs, run⟩ := State.reachable_iff.1 reachable
  exact ⟨αs, past, run⟩

end Session

/-! ## Loads -/

namespace Stress.Arena

variable {b : Backing} {K : Type} [Key K] {L : Layout K} {s : State b K} {A : Arena b K}

/-- A call that is followed goes from one reachable state to another. -/
theorem reachable_follow (reachable : State.Reachable L s) (t : ThreadId) (fuel : Nat) :
    State.Reachable L (follow L t fuel s) := by
  induction fuel generalizing s with
  | zero => exact reachable
  | succ fuel ih =>
    unfold follow
    split
    · rename_i s' step
      exact ih (reachable.next (.step t) step)
    · exact reachable

/-- So does a call that is made, or goes on if one is under way. -/
theorem reachable_advance (reachable : State.Reachable A.layout A.state) (t : ThreadId)
    (c : Call K) : State.Reachable A.layout (A.advance t c) := by
  refine reachable_follow ?_ t 64
  cases next : A.state.next? A.layout (.call t c) with
  | none => exact reachable
  | some s' => exact reachable.next (.call t c) next

/-- The turn of a thread keeps the layout and leads to a reachable state. -/
theorem reachable_turn (reachable : State.Reachable A.layout A.state) (t : ThreadId) :
    State.Reachable (A.turn t).layout (A.turn t).state := by
  unfold turn
  split
  · exact reachable
  · split
    · exact reachable_advance reachable t _
    · split
      · exact reachable
      · simp only
        split
        all_goals exact reachable_advance reachable t _

/-- **Loads lead to reachable states**, round after round. -/
theorem reachable_rounds (reachable : State.Reachable A.layout A.state) (n : Nat) :
    State.Reachable (rounds n A).layout (rounds n A).state := by
  induction n generalizing A with
  | zero => exact reachable
  | succ n ih =>
    refine ih ?_
    apply List.foldlRecOn (motive := fun A : Arena b K => State.Reachable A.layout A.state)
    · exact reachable
    · intro A reachable t _
      exact reachable_turn reachable t

end Stress.Arena

end ResourceLocks
