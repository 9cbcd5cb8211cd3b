import ResourceLocks.Proofs.Protocol.Isolation
import ResourceLocks.Proofs.Protocol.LogReplay

/-!
# Programs that make locks as they go

A layout lists all registries and locks of a program, and a run takes place under one layout. A
program makes them one after the other, though, and its log may be taken away and be added to.

* `Layout.Extends`: one layout agrees with another one on the first locks and registries, which are
  those made so far. A call is about one half, so what happens to it depends on the plan of that
  lock and on its registry. **What happens under a layout also happens under one that extends it**,
  as long as all calls are about locks made so far (`State.next?_of_extends`).
* `State.withLog`: **what happens does not depend on the log** and adds the same to any log
  (`State.next?_withLog`), and never that a lock was made.
* `State.Conforms`: a state is one that the protocol reaches, but for its log: what was logged
  lately is there, among notes of locks that were made, and what was logged before may be missing.
-/

namespace ResourceLocks.Protocol

variable {b : Backing} {K : Type} [Key K]

/-! ## Layouts -/

/-- A layout agrees with another one on the first locks and registries. -/
structure Layout.Extends (L' L : Layout K) (locks registries : Nat) : Prop where
  /-- The first locks are planned alike. -/
  locks : ∀ l < locks, L'.locks.get l = L.locks.get l
  /-- The first registries have the same settings. -/
  settings : ∀ g < registries, L'.settings.get g = L.settings.get g

/-- The first locks belong to the first registries. -/
def Layout.Founded (L : Layout K) (locks registries : Nat) : Prop :=
  ∀ l < locks, (L.locks.get l).registry < registries

/-- The subject is one of the first locks, or no lock. -/
def Subject.Within (locks : Nat) : Subject → Prop
  | half h => h.lock < locks
  | registry _ => True

/-- A call under way is about one of the first locks, or about no lock. -/
def Activity.Within (locks : Nat) (A : Activity K) : Prop := ∀ x ∈ A.subject?, x.Within locks

/-- All calls under way are about the first locks, or about no lock. -/
def State.Within (locks : Nat) (s : State b K) : Prop :=
  s.threads.All fun th => th.activity.Within locks

section layouts

variable {L L' L'' : Layout K} {n n' m m' : Nat}

/-- Every layout extends itself. -/
theorem Layout.Extends.refl (L : Layout K) (n m : Nat) : L.Extends L n m :=
  ⟨fun _ _ => rfl, fun _ _ => rfl⟩

/-- What extends a layout with more locks and registries extends the layout before. -/
theorem Layout.Extends.trans (later : L''.Extends L' n' m') (earlier : L'.Extends L n m)
    (locks : n ≤ n') (registries : m ≤ m') : L''.Extends L n m where
  locks l made := (later.locks l (made.trans_le locks)).trans (earlier.locks l made)
  settings g made := (later.settings g (made.trans_le registries)).trans (earlier.settings g made)

/-- One more lock leaves the first ones as they are. -/
theorem Layout.extends_setLock (L : Layout K) (n m : Nat) (plan : LockPlan K) :
    ({ L with locks := L.locks.set n plan } : Layout K).Extends L n m :=
  ⟨fun _ made => Table.get_set_of_ne _ made.ne _, fun _ _ => rfl⟩

/-- One more registry leaves the first ones as they are. -/
theorem Layout.extends_setSettings (L : Layout K) (n m : Nat) (settings : Settings) :
    ({ L with settings := L.settings.set m settings } : Layout K).Extends L n m :=
  ⟨fun _ _ => rfl, fun _ made => Table.get_set_of_ne _ made.ne _⟩

variable {h : Half}

/-- One of the first locks is in the same registry. -/
theorem Layout.Extends.registry (more : L'.Extends L n m) (made : h.lock < n) :
    L'.registry h = L.registry h :=
  congrArg LockPlan.registry (more.locks h.lock made)

/-- One of the first locks covers the same resources. -/
theorem Layout.Extends.resources (more : L'.Extends L n m) (made : h.lock < n) :
    L'.resources h = L.resources h :=
  congrArg LockPlan.resources (more.locks h.lock made)

/-- Whoever waits for one of the first locks looks at its flag at the same intervals. -/
theorem Layout.Extends.interval (more : L'.Extends L n m) (founded : L.Founded n m)
    (made : h.lock < n) : L'.interval (L.registry h) = L.interval (L.registry h) := by
  have same := more.settings (L.registry h) (founded h.lock made)
  unfold Layout.interval
  rw [same]

/-- Whoever waits for one of the first locks is notified alike. -/
theorem Layout.Extends.notify (more : L'.Extends L n m) {th : Thread K}
    (within : th.activity.Within n) (g : RegistryId) (mon : Monitor) :
    th.notify L' g mon = th.notify L g mon := by
  unfold Thread.notify
  split
  · rename_i a mon' notified wakeAt here
    have made : a.half.lock < n := within (.half a.half) (by rw [here]; rfl)
    rw [more.registry made]
  · rfl

/-! ### Steps under a layout that extends another one -/

namespace State

variable {s s' : State b K} {t : ThreadId} {α : Action K}

/-- All sleepers are notified alike. -/
theorem notifyAll_of_extends (more : L'.Extends L n m) (within : s.Within n) (g : RegistryId)
    (mon : Monitor) : s.notifyAll L' g mon = s.notifyAll L g mon := by
  have same : s.threads.map (Thread.notify L' g mon) = s.threads.map (Thread.notify L g mon) :=
    Table.All.map_congr within fun th here => more.notify here g mon
  unfold notifyAll
  rw [same]

/-- So they are when the records of a registry have changed. -/
theorem notifyAll_setRegistry_of_extends (more : L'.Extends L n m) (within : s.Within n)
    (g' : RegistryId) (r : Registry b K) (g : RegistryId) (mon : Monitor) :
    (s.setRegistry g' r).notifyAll L' g mon = (s.setRegistry g' r).notifyAll L g mon :=
  notifyAll_of_extends (s := s.setRegistry g' r) more within g mon

/-- The step of an acquisition is the same. -/
theorem acquireStep?_of_extends (more : L'.Extends L n m) (founded : L.Founded n m)
    (within : s.Within n) {a : Acquisition} (made : a.half.lock < n) (stage : AcquireStage) :
    s.acquireStep? L' t a stage = s.acquireStep? L t a stage := by
  have registry := more.registry made
  have resources := more.resources made
  have interval := more.interval founded made
  have notified := notifyAll_setRegistry_of_extends more within
  cases stage <;> simp only [acquireStep?, registry, resources, interval, notified]

/-- The step of a release is the same. -/
theorem releaseStep?_of_extends (more : L'.Extends L n m) (within : s.Within n) {r : Release}
    (made : r.half.lock < n) (stage : ReleaseStage) :
    s.releaseStep? L' t r stage = s.releaseStep? L t r stage := by
  have registry := more.registry made
  have resources := more.resources made
  have notified := notifyAll_setRegistry_of_extends more within
  cases stage <;> simp only [releaseStep?, registry, resources, notified]

/-- **What happens under a layout happens alike under one that extends it**, if all calls are about
locks that were made. -/
theorem next?_of_extends (more : L'.Extends L n m) (founded : L.Founded n m)
    (within : s.Within n) (α : Action K) : s.next? L' α = s.next? L α := by
  cases α with
  | step t =>
    have here : (s.activity t).Within n := Table.All.get within t
    simp only [State.next?, step?]
    split
    · rfl
    · rename_i a stage doing
      rw [doing] at here
      exact acquireStep?_of_extends more founded within (here _ rfl) stage
    · rename_i r stage doing
      rw [doing] at here
      exact releaseStep?_of_extends more within (here _ rfl) stage
    · rfl
  | _ => rfl

end State

/-! ### Calls stay with their locks -/

/-- One of the first locks is one of the first when more are made. -/
theorem Subject.Within.mono {x : Subject} (within : x.Within n) (more : n ≤ n') :
    x.Within n' := by
  cases x with
  | half h => exact Nat.lt_of_lt_of_le within more
  | registry g => trivial

/-- A notification leaves a call with its subject. -/
theorem Thread.subject?_notify (L : Layout K) (g : RegistryId) (mon : Monitor) (th : Thread K) :
    (th.notify L g mon).activity.subject? = th.activity.subject? := by
  unfold Thread.notify
  split
  · rename_i here
    split
    · rw [here]
      rfl
    · rfl
  · rfl

omit [Key K] in
/-- A call under way is about something. -/
theorem Activity.eq_ready_of_subject? {A : Activity K} (none : A.subject? = none) :
    ∃ last, A = .ready last := by
  cases A with
  | ready last => exact ⟨last, rfl⟩
  | _ => cases none

namespace State

variable {s s' : State b K} {t : ThreadId} {α : Action K}

/-- At the start no call is under way. -/
theorem within_initial (n : Nat) : (initial : State b K).Within n :=
  Table.all_const fun _ none => by cases none

/-- A lock that was made stays made. -/
theorem Within.mono (within : s.Within n) (more : n ≤ n') : s.Within n' where
  rest x about := (within.rest x about).mono more
  entries e here x about := (within.entries e here x about).mono more

/-- A thread goes on with a call about a lock that was made. -/
theorem Within.setActivity (within : s.Within n) {A : Activity K} (made : A.Within n) :
    (s.setActivity t A).Within n :=
  Table.All.set within t made

/-- Interrupt flags are about no lock. -/
theorem Within.setInterrupted (within : s.Within n) (t : ThreadId) (flag : Bool) :
    (s.setInterrupted t flag).Within n := by
  have here : (s.activity t).Within n := Table.All.get within t
  exact Table.All.set within t here

/-- No effect makes a call be about something else. -/
theorem Within.apply (within : s.Within n) (L : Layout K) (t : ThreadId) (e : Effect) :
    (e.apply L t s).Within n := by
  cases e with
  | heed => exact within.setInterrupted t false
  | clear mon h =>
    refine Table.All.map within fun th here => ?_
    unfold Activity.Within
    rw [Thread.subject?_notify]
    exact here
  | exitMutex h noted => cases noted <;> exact within
  | _ => exact within

/-- A call goes on about the lock that it was about. -/
theorem Within.after (within : s.Within n) {A A' : Activity K} {e : Effect} {x : Subject}
    (turn : s.Turn L t A e A') (about : A.subject? = some x) (made : x.Within n) :
    (s.after L t e A').Within n := by
  refine (within.apply L t e).setActivity fun y about' => ?_
  obtain same | ⟨last, rfl⟩ := (turn.staysAt about).2
  · rw [same] at about'
    exact Option.some.inj about' ▸ made
  · cases about'

/-- **A program that only calls for locks that were made** goes on to be about these. -/
theorem Within.next? (within : s.Within n) (next : s.next? L α = some s')
    (made : ∀ t c, α = .call t c → c.subject.Within n) : s'.Within n := by
  by_cases called : ∃ t c, α = .call t c
  · obtain ⟨t, c, rfl⟩ := called
    obtain ⟨last, -, rfl⟩ := next?_call next
    refine within.setActivity fun x about => ?_
    rw [Call.subject?_start] at about
    exact Option.some.inj about ▸ made t c rfl
  · obtain ⟨t, e, A', hα, -, turn, rfl⟩ | ⟨hα, -⟩ := next?_cases next
    · have here : (s.activity t).Within n := Table.All.get within t
      cases about : (s.activity t).subject? with
      | none =>
        obtain ⟨last, ready⟩ := Activity.eq_ready_of_subject? about
        exact absurd hα (turnOf?_ne_of_ready next ready fun c hc => called ⟨t, c, hc⟩)
      | some x => exact within.after turn about (here x about)
    · cases α with
      | interrupt u =>
        cases next
        exact within.setInterrupted u true
      | clearFlag u =>
        simp only [State.next?] at next
        split at next
        · cases next
          exact within.setInterrupted u false
        · cases next
      | pass nanos =>
        cases next
        exact within
      | _ => cases hα

end State

end layouts

/-! ## Logs -/

/-- The event is that a lock was made. -/
def Event.isCreated : Event → Bool
  | .created _ => true
  | _ => false

/-- The entries that an effect of a thread adds to the log. -/
def Effect.entries (e : Effect) (t : ThreadId) : List LogEntry :=
  (e.noted?.map fun event => ⟨t, event⟩).toList

/-- A state with another log. -/
def State.withLog (s : State b K) (log : List LogEntry) : State b K := { s with log }

/-- The state conforms to the protocol: it is one that the protocol reaches, but for its log; what
was logged lately is there, among notes of locks that were made, and what was logged before may be
missing. -/
def State.Conforms (L : Layout K) (s : State b K) : Prop :=
  ∃ past, Reachable L (s.withLog (s.log.filter (fun entry => !entry.event.isCreated) ++ past))

section logs

variable {L : Layout K} {s s' : State b K} {t : ThreadId} {e : Effect} {A A' : Activity K}
  {α : Action K} {log : List LogEntry}

/-! ### What happens whatever the log -/

/-- The turns of an acquisition are the same for every log. -/
theorem AcquireTurn.withLog {a : Acquisition} {stage : AcquireStage}
    (turn : AcquireTurn L s t a stage e A') : AcquireTurn L (s.withLog log) t a stage e A' := by
  cases turn <;> constructor <;> assumption

/-- The turns of a release are the same for every log. -/
theorem ReleaseTurn.withLog {r : Release} {stage : ReleaseStage}
    (turn : ReleaseTurn L s t r stage e A') : ReleaseTurn L (s.withLog log) t r stage e A' := by
  cases turn <;> constructor <;> assumption

/-- The turns of a question are the same for every log, since no question is about the log. -/
theorem AskTurn.withLog {q : Query K} {stage : QueryStage}
    (turn : AskTurn s t q stage e A') : AskTurn (s.withLog log) t q stage e A' := by
  have answer : (s.withLog log).answer t q = s.answer t q := by cases q <;> rfl
  cases turn with
  | readHolders g looks =>
    rw [← answer]
    exact .readHolders g looks
  | readOwners g looks other =>
    rw [← answer]
    exact .readOwners g looks other
  | leaveMutex h asked =>
    rw [← answer]
    exact .leaveMutex h asked
  | _ => constructor <;> assumption

namespace State

/-- The steps of a thread are the same for every log. -/
theorem StepTurn.withLog (turn : s.StepTurn L t A e A') :
    (s.withLog log).StepTurn L t A e A' := by
  cases A with
  | ready last => cases turn
  | acquiring a stage => exact AcquireTurn.withLog turn
  | releasing r stage => exact ReleaseTurn.withLog turn
  | asking q stage => exact AskTurn.withLog turn

/-- What a turn leads to is the same for every log, to which it adds what its effect notes. -/
theorem after_withLog (L : Layout K) (t : ThreadId) (s : State b K) (e : Effect)
    (A' : Activity K) (log : List LogEntry) :
    (s.withLog log).after L t e A' = (s.after L t e A').withLog (e.entries t ++ log) := by
  have apply : e.apply L t (s.withLog log) = (e.apply L t s).withLog (e.entries t ++ log) := by
    cases e with
    | exitMutex h noted => cases noted <;> rfl
    | _ => rfl
  unfold after
  rw [apply]
  rfl

/-- What is no step is the same for every log and leaves it as it is. -/
theorem next?_withLog_of_ne_step (nostep : ∀ t, α ≠ .step t) :
    (s.withLog log).next? L α = (s.next? L α).map (·.withLog log) := by
  have activity : ∀ t, (s.withLog log).activity t = s.activity t := fun _ => rfl
  have now : (s.withLog log).now = s.now := rfl
  cases α with
  | step t => exact absurd rfl (nostep t)
  | call t c | clearFlag t =>
    simp only [State.next?, activity, now]
    split <;> rfl
  | expire t =>
    simp only [State.next?, expire?, activity, now]
    split
    · split
      · split <;> rfl
      · rfl
    · rfl
  | rouse t =>
    simp only [State.next?, rouse?, activity, now]
    split
    · split <;> rfl
    · rfl
  | interrupt t | pass nanos => rfl

/-- No turn is to make a lock. -/
theorem Turn.not_isCreated (turn : s.Turn L t A e A') :
    ∀ entry ∈ e.entries t, entry.event.isCreated = false := by
  intro entry here
  obtain ⟨event, noted, rfl⟩ := Option.map_eq_some_iff.1 (Option.mem_toList.1 here)
  rw [turn.noted?_eq] at noted
  unfold Activity.writes at noted
  split at noted
  case h_4 =>
    split at noted
    · cases noted
      rfl
    · cases noted
  all_goals cases noted
  all_goals rfl

/-- **What happens does not depend on the log**, and adds the same to any log. -/
theorem next?_withLog (next : s.next? L α = some s') :
    ∃ news : List LogEntry, (∀ entry ∈ news, entry.event.isCreated = false) ∧
      s'.log = news ++ s.log ∧
      ∀ log, (s.withLog log).next? L α = some (s'.withLog (news ++ log)) := by
  by_cases stepping : ∃ t, α = .step t
  · obtain ⟨t, rfl⟩ := stepping
    obtain ⟨e, A', turn, rfl⟩ := stepTurn_of_step next
    refine ⟨e.entries t, turn.toTurn.not_isCreated, Effect.log_apply L t s e, fun log => ?_⟩
    rw [← after_withLog]
    exact step?_of_stepTurn turn.withLog
  · have nostep : ∀ t, α ≠ .step t := fun t here => stepping ⟨t, here⟩
    refine ⟨[], nofun, ?_, fun log => ?_⟩
    · obtain ⟨t, e, A', -, step | rfl, -, rfl⟩ | ⟨hα, -⟩ := next?_cases next
      · exact absurd step (nostep t)
      · rfl
      · exact log_of_turnOf?_eq_none next hα
    · rw [next?_withLog_of_ne_step nostep, next]
      rfl

/-! ### States that conform to the protocol -/

/-- The state at the start conforms to the protocol. -/
theorem conforms_initial : (initial : State b K).Conforms L :=
  ⟨[], .initial⟩

/-- **Whatever happens next conforms to the protocol.** -/
theorem Conforms.next (conforms : s.Conforms L) (next : s.next? L α = some s') : s'.Conforms L := by
  obtain ⟨past, reachable⟩ := conforms
  obtain ⟨news, uncreated, grown, same⟩ := next?_withLog next
  have all : news.filter (fun entry => !entry.event.isCreated) = news :=
    List.filter_eq_self.2 fun entry here => by rw [uncreated entry here]; rfl
  refine ⟨past, ?_⟩
  rw [grown, List.filter_append, all, List.append_assoc]
  exact reachable.next α (same _)

/-- The log may be taken away. -/
theorem Conforms.clearLog (conforms : s.Conforms L) : (s.withLog []).Conforms L := by
  obtain ⟨past, reachable⟩ := conforms
  exact ⟨_, reachable⟩

/-- It may be noted that a lock was made. -/
theorem Conforms.noteCreated (conforms : s.Conforms L) (t : ThreadId) (l : LockId) :
    (s.note t (.created l)).Conforms L :=
  conforms

end State

end logs

end ResourceLocks.Protocol
