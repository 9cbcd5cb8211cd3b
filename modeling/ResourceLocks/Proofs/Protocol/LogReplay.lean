import ResourceLocks.Proofs.Protocol.CallsAgree
import ResourceLocks.Proofs.Protocol.Commuting

/-!
# The log replays to the hold sets

Whoever reads the log can tell from it who holds what (`State.LogReplays`).

* What a turn writes is told by the activities before and after it (`Activity.writes`,
  `Turn.noted?_eq`): a withdrawal is reported while the call is under way, everything else when it
  returns.
* An acquisition writes that it has acquired the half, and a release that it has released it,
  exactly when that is its outcome (`Turn.writes_iff_outcome?`). The outcomes of a run are accepted
  by a machine with two states, so the log of one thread **balances** with what it holds
  (`balance`). Since a hold set lists every thread once, so does the log of all of them
  (`total_of_balance`).
* A claim that is withdrawn is reported once (`withdrawals_eq`), and the report comes first: until
  the claim is cleared it is ahead by one.
* A guard that is dropped in vain complains once (`vainDrops_eq`); until it does the complaint is
  owed.
* An acquisition that returns an error does not write that it has finished (`Calling.finishing`).

Comparisons of keys are taken not to fail here, as in everything about `State.next?`.
-/

namespace ResourceLocks.Protocol

variable {b : Backing} {K : Type}

/-! ## What turns write -/

/-- What a thread writes to the log when it goes from one activity to another. -/
def Activity.writes : Activity K → Activity K → Option Event
  | .acquiring a (.withdrawing _), .acquiring _ _ => some (.rolledBack a.half false)
  | .acquiring a (.concluding .acquired), .ready (some _) => some (.finished a.half true)
  | .acquiring a (.concluding .refused), .ready (some _) => some (.finished a.half false)
  | .releasing r .looking, .ready (some _) =>
    if r.byGuard then some (.guardFailed r.half) else none
  | .releasing r .concluding, .ready (some _) => some (.released r.half)
  | _, _ => none

/-- A claim is reported to be withdrawn, and is not withdrawn yet. -/
def AcquireStage.isReported : AcquireStage → Bool
  | returning _ | unclaiming _ => true
  | _ => false

namespace AcquireStage

variable (k : Kind) (m : Monitor) (v : Verdict)

/-- Who gives up has yet to report that it withdraws. -/
@[simp] theorem isReported_givingUp : (givingUp k m v).isReported = false := by
  cases k <;> cases m <;> rfl

/-- Who has entered a monitor to look reports nothing. -/
@[simp] theorem isReported_entered : (entered k m).isReported = false := by
  cases k <;> cases m <;> rfl

/-- Who has found its resources free reports nothing. -/
@[simp] theorem isReported_free : (free k m).isReported = false := by
  cases k <;> cases m <;> rfl

/-- Who has recorded its acquisition reports nothing. -/
@[simp] theorem isReported_recorded : (recorded m).isReported = false := by
  cases m <;> rfl

/-- Who has left a monitor has yet to report that it withdraws. -/
@[simp] theorem isReported_left : (left k m v).isReported = false := by
  cases k <;> cases m <;> cases v <;> rfl

end AcquireStage

/-- The half whose claim is reported to be withdrawn, and is not withdrawn yet. -/
def Activity.reported? : Activity K → Option Half
  | .acquiring a stage => if stage.isReported then some a.half else none
  | _ => none

/-- The half of a guard that is being dropped, before the thread has found out whether it holds the
half. -/
def Activity.dropping? : Activity K → Option Half
  | .releasing r stage => if r.byGuard = true ∧ stage.hasParted = false then some r.half else none
  | _ => none

/-- A notification is no step of a withdrawal. -/
theorem Activity.Alike.reported? {A B : Activity K} (alike : A.Alike B) :
    B.reported? = A.reported? := by
  obtain rfl | ⟨a, m, n, w, rfl, rfl⟩ := alike <;> rfl

/-- A notification is no step of a release. -/
theorem Activity.Alike.dropping? {A B : Activity K} (alike : A.Alike B) :
    B.dropping? = A.dropping? := by
  obtain rfl | ⟨a, m, n, w, rfl, rfl⟩ := alike <;> rfl

/-- The event tells how an acquisition has finished. -/
def Event.isFinished : Event → Bool
  | .finished .. => true
  | _ => false

/-- The reply is an error. -/
def Reply.isError : Reply → Bool
  | .failed _ => true
  | _ => false

/-- The event with which a call is written to the log that changes whether a half is held. -/
def Outcome.event? (h : Half) : Outcome → Option Event
  | acquired => some (.finished h true)
  | released => some (.released h)
  | _ => none

/-- **Successes balance**: where the machine accepts the outcomes, there are as many acquisitions as
releases, up to whether the half is held at the start and at the end. -/
theorem Outcome.count_of_accepted {held held' : Bool} {os : List Outcome}
    (accepted : after? held os = some held') :
    os.count acquired + held.toNat = os.count released + held'.toNat := by
  induction os generalizing held with
  | nil =>
    cases accepted
    rfl
  | cons o os ih =>
    obtain ⟨mid, move, rest⟩ := after?_cons_eq_some.1 accepted
    have balance := ih rest
    cases success : o.isSuccess with
    | false =>
      obtain rfl := move?_eq_of_not_isSuccess success move
      rw [List.count_cons_of_ne, List.count_cons_of_ne]
      · exact balance
      · rintro rfl
        cases success
      · rintro rfl
        cases success
    | true =>
      obtain ⟨rfl, rfl, rfl⟩ | ⟨rfl, rfl, rfl⟩ := move?_eq_of_isSuccess success move
      · rw [List.count_cons_self, List.count_cons_of_ne (by decide)]
        simp only [Bool.toNat_false, Bool.toNat_true] at balance ⊢
        omega
      · rw [List.count_cons_self, List.count_cons_of_ne (by decide)]
        simp only [Bool.toNat_false, Bool.toNat_true] at balance ⊢
        omega

variable [Key K]

namespace State

variable {L : Layout K} {s s' u v : State b K} {t : ThreadId} {h : Half} {α : Action K}
  {αs : List (Action K)} {e : Effect} {A A' : Activity K} {reply : Reply} {entry : EntryPoint}

/-- **What a turn writes** is told by the activities. -/
theorem Turn.noted?_eq (turn : s.Turn L t A e A') : e.noted? = A.writes A' := by
  cases turn with
  | call last c => rfl
  | acquire turn =>
    cases turn with
    | conclude v => cases v <;> rfl
    | _ => rfl
  | release turn =>
    cases turn with
    | notHeld absent direct => simp [Activity.writes, Effect.noted?, direct]
    | dropFailed absent dropped => simp [Activity.writes, Effect.noted?, dropped]
    | _ => rfl
  | ask turn => cases turn <;> rfl
  | expire | rouse => rfl

/-- A turn adds the event that it writes to what its thread has logged. -/
theorem count_logOf_after (turn : s.Turn L t (s.activity t) e A') (event : Event) :
    ((s.after L t e A').logOf t).count event =
      (s.logOf t).count event + if (s.activity t).writes A' = some event then 1 else 0 := by
  rw [logOf_after, if_pos rfl, turn.noted?_eq]
  cases (s.activity t).writes A' with
  | none => simp
  | some event' => simp [List.count_cons]

/-! ## What is held -/

omit [Key K] in
/-- A call that goes on writes no more than that it withdraws its claim. -/
theorem writes_of_busy (busy : ∀ reply, A' ≠ .ready (some reply)) {event : Event}
    (written : A.writes A' = some event) : ∃ h', event = .rolledBack h' false := by
  unfold Activity.writes at written
  split at written
  · exact ⟨_, (Option.some.inj written).symm⟩
  · exact absurd rfl (busy _)
  · exact absurd rfl (busy _)
  · exact absurd rfl (busy _)
  · exact absurd rfl (busy _)
  · cases written

/-- **What a call writes when it returns tells its success**: an acquisition that it has finished
with the half acquired, a release that the half is released. -/
theorem Turn.writes_iff_outcome? (turn : s.Turn L t A e (.ready (some reply))) (candid : A.Candid)
    {o : Outcome} {event : Event} (tells : o.event? h = some event) :
    A.writes (.ready (some reply)) = some event ↔ A.outcome? h reply = some o := by
  have success : o = .acquired ∧ event = .finished h true ∨
      o = .released ∧ event = .released h := by
    cases o with
    | acquired => exact .inl ⟨rfl, (Option.some.inj tells).symm⟩
    | released => exact .inr ⟨rfl, (Option.some.inj tells).symm⟩
    | _ => cases tells
  generalize hA' : Activity.ready (some reply) = A' at turn
  cases turn with
  | call last' c => cases c <;> cases hA'
  | expire | rouse => cases hA'
  | @acquire a stage _ _ turn =>
    obtain ⟨stage', rfl, -⟩ | ⟨rfl, held, rfl⟩ | ⟨v, rfl, rfl, rfl⟩ := turn.outcome
    · cases hA'
    · cases hA'
      refine iff_of_false (by simp [Activity.writes]) ?_
      by_cases half : a.half = h
      · subst half
        obtain ⟨rfl, rfl⟩ | ⟨rfl, rfl⟩ := success <;> simp [Activity.outcome?, Reply.grants]
      · simp [Activity.outcome?, half]
    · cases hA'
      have grants := candid.grants_reply
      obtain ⟨rfl, rfl⟩ | ⟨rfl, rfl⟩ := success <;> cases v <;>
        simp [Activity.writes, Activity.outcome?, grants, a.reply_ne_alreadyHeld]
  | @release r stage _ _ turn =>
    cases turn with
    | begin | part | enter | clear | leave => cases hA'
    | notHeld absent direct =>
      cases hA'
      obtain ⟨rfl, rfl⟩ | ⟨rfl, rfl⟩ := success <;>
        simp [Activity.writes, Activity.outcome?, direct]
    | dropFailed absent dropped =>
      cases hA'
      obtain ⟨rfl, rfl⟩ | ⟨rfl, rfl⟩ := success <;>
        simp [Activity.writes, Activity.outcome?, dropped]
    | conclude =>
      cases hA'
      obtain ⟨rfl, rfl⟩ | ⟨rfl, rfl⟩ := success <;> simp [Activity.writes, Activity.outcome?]
  | ask turn => simp [Activity.writes, Activity.outcome?]

/-- **The log grows with the successes**, whatever happens: what tells of one is written exactly
when it is the outcome of the call that returns. -/
theorem Reachable.count_logOf_next (reachable : Reachable L s) (next : s.next? L α = some s')
    {o : Outcome} {event : Event} (tells : o.event? h = some event) :
    (s'.logOf t).count event =
      (s.logOf t).count event + if s.outcomeOf h t s' = some o then 1 else 0 := by
  obtain ⟨e, A', -, -, turn, rfl⟩ | bystands := turn_or_bystands next t
  · have candid := reachable.candid t
    rw [count_logOf_after turn, outcomeOf, activity_after_self]
    congr 2
    split
    · exact propext (turn.writes_iff_outcome? candid tells)
    · rename_i busy
      refine propext (iff_of_false (fun written => ?_) (Option.some_ne_none o).symm)
      obtain ⟨h', rfl⟩ := writes_of_busy busy written
      cases o <;> cases tells
  · rw [bystands.log, bystands.outcomeOf_eq_none, if_neg (Option.some_ne_none o).symm,
      Nat.add_zero]

/-- So there is an entry for every success of a run. -/
theorem Reachable.count_logOf_run (reachable : Reachable L s) (run : s.run? L αs = some s')
    {o : Outcome} {event : Event} (tells : o.event? h = some event) :
    (s'.logOf t).count event = (s.logOf t).count event + (outcomes L h t s αs).count o := by
  refine run?_snoc_induction (P := fun αs u =>
    (u.logOf t).count event = (s.logOf t).count event + (outcomes L h t s αs).count o) rfl ?_ run
  intro αs α u v before next ih
  rw [(reachable.run before).count_logOf_next next tells, ih, outcomes_concat before next,
    List.count_append, Nat.add_assoc]
  cases u.outcomeOf h t v with
  | none => rfl
  | some o' => simp [List.count_singleton]

/-- **The log of a thread balances with what it holds**: between two calls it has acquired a half as
often as it has released it, and once more if it holds the half. -/
theorem balance {last : Option Reply} (run : (initial : State b K).run? L αs = some s)
    (ready : s.activity t = .ready last) :
    (s.logOf t).count (.finished h true) =
      (s.logOf t).count (.released h) + if s.IsHeldBy h t then 1 else 0 := by
  have acquired := Reachable.initial.count_logOf_run (t := t) (h := h) run (o := .acquired) rfl
  have released := Reachable.initial.count_logOf_run (t := t) (h := h) run (o := .released) rfl
  have accepted := Reachable.initial.outcomes_accepted (t := t) (h := h) rfl run
  have count := Outcome.count_of_accepted accepted
  have nothing : (initial : State b K).logOf t = [] := rfl
  have absent : ¬ (initial : State b K).IsHeldBy h t := nofun
  rw [inForce_of_ready ready] at count
  rw [acquired, released, nothing]
  simp only [List.count_nil, Nat.zero_add, absent, decide_false, Bool.toNat_false,
    Nat.add_zero] at count ⊢
  rw [count]
  by_cases held : s.IsHeldBy h t <;> simp [held]

/-! ## All threads -/

/-- The threads on which an event happened, once for every time. -/
def authors (s : State b K) (event : Event) : List ThreadId :=
  (s.log.filter (·.event = event)).map (·.thread)

/-- A thread has written an event as often as the log of the thread has it. -/
theorem count_authors (s : State b K) (event : Event) (t : ThreadId) :
    (s.authors event).count t = (s.logOf t).count event := by
  unfold authors logOf
  induction s.log with
  | nil => rfl
  | cons entry log ih =>
    by_cases mine : entry.thread = t <;> by_cases same : entry.event = event <;>
      simp [mine, same, ih]

/-- An event was written as often as the whole log has it. -/
theorem length_authors (s : State b K) (event : Event) :
    (s.authors event).length = (s.log.map (·.event)).count event := by
  rw [List.count, List.countP_map, List.countP_eq_length_filter, authors, List.length_map]
  rfl

/-- **The log of all threads balances with a hold set** if that of each of them does. The thread of
every acquisition is the thread of a release, or a member. -/
theorem total_of_balance
    (balance : ∀ t, (s.logOf t).count (.finished h true) =
      (s.logOf t).count (.released h) + if s.IsHeldBy h t then 1 else 0) :
    (s.log.map (·.event)).count (.finished h true) =
      (s.log.map (·.event)).count (.released h) + (s.holds.get h).members.length := by
  have perm : (s.authors (.finished h true)).Perm
      (s.authors (.released h) ++ (s.holds.get h).members) := by
    rw [List.perm_iff_count]
    intro t
    rw [count_authors, List.count_append, count_authors, balance, (s.holds.get h).nodup.count]
    rfl
  rw [← length_authors, ← length_authors, ← List.length_append]
  exact perm.length_eq

/-! ## Counting what happens -/

/-- The number of actions of a run that are of a kind. -/
def occurrences (L : Layout K) (P : State b K → Action K → State b K → Prop)
    [∀ s α s', Decidable (P s α s')] : State b K → List (Action K) → Nat
  | _, [] => 0
  | s, α :: αs =>
    match s.next? L α with
    | none => 0
    | some s' => (if P s α s' then 1 else 0) + occurrences L P s' αs

section occurrences

variable {P : State b K → Action K → State b K → Prop} [∀ s α s', Decidable (P s α s')]

/-- The last action of a run adds one occurrence at most. -/
theorem occurrences_concat (run : s.run? L αs = some u) (next : u.next? L α = some v) :
    occurrences L P s (αs ++ [α]) = occurrences L P s αs + if P u α v then 1 else 0 := by
  induction αs generalizing s with
  | nil =>
    cases run
    simp [occurrences, next]
  | cons β αs ih =>
    obtain ⟨s₁, first, rest⟩ := run?_cons_eq_some.1 run
    simp only [List.cons_append, occurrences, first, ih rest, Nat.add_assoc]

/-- **Every occurrence is logged**, before it or after it: if every action of a run adds to the log
of a thread as many events as it adds occurrences, up to what is owed or ahead, so does the run. -/
theorem count_logOf_eq_occurrences (event : Event) (ahead behind : State b K → Nat)
    (start : ahead (initial : State b K) = behind (initial : State b K))
    (next : ∀ u α v, Reachable L u → u.next? L α = some v →
      (v.logOf t).count event + behind v + ahead u =
        (u.logOf t).count event + behind u + ahead v + if P u α v then 1 else 0)
    (run : (initial : State b K).run? L αs = some s) :
    (s.logOf t).count event + behind s = occurrences L P initial αs + ahead s := by
  refine run?_snoc_induction (P := fun αs u =>
    (u.logOf t).count event + behind u = occurrences L P initial αs + ahead u) ?_ ?_ run
  · rw [start]
    exact (congrArg (· + _) (rfl : 0 = _))
  · intro αs α u v before now ih
    have step := next u α v (Reachable.initial.run before) now
    rw [occurrences_concat before now]
    omega

end occurrences

/-! ## Withdrawn claims -/

/-- A thread withdraws the claim of a half: an acquisition had it on record, and now it is not on
record any more. -/
def Withdraws (s : State b K) (h : Half) (t : ThreadId) (s' : State b K) : Prop :=
  (s.activity t).recorded? = some h ∧ ¬ s'.OnRecord h t

instance (s : State b K) (h : Half) (t : ThreadId) (s' : State b K) :
    Decidable (s.Withdraws h t s') :=
  inferInstanceAs (Decidable (_ ∧ ¬ (_ ∨ _)))

/-- How often a thread withdraws the claim of a half in a run. -/
def withdrawals (L : Layout K) (h : Half) (t : ThreadId) : State b K → List (Action K) → Nat :=
  occurrences L fun s _ s' => s.Withdraws h t s'

/-- A claim is withdrawn by being cleared. -/
theorem Turn.withdraws_iff (turn : s.Turn L t (s.activity t) e A') (inv : s.Invariant L) :
    s.Withdraws h t (s.after L t e A') ↔
      (s.activity t).recorded? = some h ∧ e = .clear .owner h := by
  refine and_congr_right fun recorded => ?_
  have onRecord : s.OnRecord h t := onRecord_iff.2 (.inr (.inl recorded))
  rw [turn.onRecord_after inv]
  have claim : ∀ m h', e = .clear m h' → m = .owner := by
    rintro m h' rfl
    generalize hA : s.activity t = A at turn recorded
    generalize he : Effect.clear m h' = e at turn
    cases turn with
    | acquire turn =>
      cases turn with
      | conclude v => cases v <;> cases he
      | unclaim v =>
        cases he
        rfl
      | _ => cases he
    | release turn => cases recorded
    | ask turn => cases turn <;> cases he
    | _ => cases he
  cases e with
  | record m h' => simp [Effect.onRecordAfter, onRecord]
  | clear m h' =>
    obtain rfl := claim m h' rfl
    simp [Effect.onRecordAfter, onRecord, eq_comm]
  | _ => simp [Effect.onRecordAfter, onRecord]

/-- Who stands by withdraws nothing. -/
theorem Bystands.not_withdraws (bystands : s.Bystands t α s') : ¬ s.Withdraws h t s' := by
  rintro ⟨recorded, cleared⟩
  have onRecord : s.OnRecord h t := onRecord_iff.2 (.inr (.inl recorded))
  refine cleared (onRecord.imp (bystands.held h).2 fun pending => ?_)
  rw [bystands.alike.pending?, pending]

omit [Key K] in
/-- Nothing is reported and nothing withdrawn. -/
theorem reports_of_quiet (writes : A.writes A' ≠ some (.rolledBack h false))
    (before : A.reported? = none) (after : A'.reported? = none) (quiet : e ≠ .clear .owner h) :
    ((if A.writes A' = some (.rolledBack h false) then 1 else 0) +
        if A.reported? = some h then 1 else 0) =
      (if A'.reported? = some h then 1 else 0) +
        if A.recorded? = some h ∧ e = .clear .owner h then 1 else 0 := by
  simp [writes, before, after, quiet]

/-- **A withdrawal is reported, and then made**: the report is ahead from the one to the other. -/
theorem Turn.reports (turn : s.Turn L t A e A') :
    ((if A.writes A' = some (.rolledBack h false) then 1 else 0) +
        if A.reported? = some h then 1 else 0) =
      (if A'.reported? = some h then 1 else 0) +
        if A.recorded? = some h ∧ e = .clear .owner h then 1 else 0 := by
  cases turn with
  | call last c => cases c <;> exact reports_of_quiet (by simp [Activity.writes]) rfl rfl (by simp)
  | acquire turn =>
    cases turn with
    | withdraw v => simp [Activity.writes, Activity.reported?, AcquireStage.isReported]
    | goBack v => simp [Activity.writes, Activity.reported?, AcquireStage.isReported]
    | unclaim v =>
      simp [Activity.writes, Activity.reported?, AcquireStage.isReported, Activity.recorded?,
        AcquireStage.isPending]
    | heed m | enter m | barred m | free m | record m | leave m v =>
      exact reports_of_quiet (by simp [Activity.writes]) rfl (by simp [Activity.reported?])
        (by simp)
    | conclude v =>
      cases v <;>
        exact reports_of_quiet (by simp [Activity.writes]) rfl rfl (by simp [Effect.conclude])
    | _ => exact reports_of_quiet (by simp [Activity.writes]) rfl rfl (by simp)
  | release turn => cases turn <;> simp [Activity.writes, Activity.reported?, Activity.recorded?]
  | ask turn => cases turn <;> exact reports_of_quiet (by simp [Activity.writes]) rfl rfl (by simp)
  | expire =>
    exact reports_of_quiet (by simp [Activity.writes]) rfl (by simp [Activity.reported?]) (by simp)
  | rouse => exact reports_of_quiet (by simp [Activity.writes]) rfl rfl (by simp)

/-- **Every claim that is withdrawn is reported once**, and nothing else is reported so: between two
calls a thread has reported as many withdrawals as it has made. -/
theorem withdrawals_eq {last : Option Reply} (run : (initial : State b K).run? L αs = some s)
    (ready : s.activity t = .ready last) :
    (s.logOf t).count (.rolledBack h false) = withdrawals L h t (initial : State b K) αs := by
  have count := count_logOf_eq_occurrences (t := t) (P := fun u _ v => u.Withdraws h t v)
    (.rolledBack h false) (fun u => if (u.activity t).reported? = some h then 1 else 0)
    (fun _ => 0) rfl ?_ run
  · simp only [ready] at count
    exact count
  · intro u α v reachable next
    obtain ⟨e, A', -, -, turn, rfl⟩ | bystands := turn_or_bystands next t
    · have reports := turn.reports (h := h)
      simp only [count_logOf_after turn, activity_after_self,
        turn.withdraws_iff reachable.invariant]
      omega
    · simp only [bystands.log, bystands.alike.reported?, bystands.not_withdraws, if_false]
      rfl

omit [Key K] in
/-- No turn writes that a claim is withdrawn because of a failure. -/
theorem writes_ne_panicking : A.writes A' ≠ some (.rolledBack h true) := by
  unfold Activity.writes
  split
  · simp
  · simp
  · simp
  · split <;> simp
  · simp
  · simp

/-- No withdrawal is reported as that of a thread that panics. -/
theorem panicking_eq_zero (run : (initial : State b K).run? L αs = some s) :
    (s.logOf t).count (.rolledBack h true) = 0 := by
  refine run?_snoc_induction (P := fun _ u => (u.logOf t).count (.rolledBack h true) = 0) rfl ?_ run
  intro αs α u v before next ih
  obtain ⟨e, A', -, -, turn, rfl⟩ | bystands := turn_or_bystands next t
  · rw [count_logOf_after turn, ih, if_neg writes_ne_panicking]
  · rw [bystands.log, ih]

/-! ## Guards that are dropped in vain -/

/-- How often a thread drops a guard of a half in vain in a run: it does not hold the half when it
makes the call. -/
def vainDrops (L : Layout K) (h : Half) (t : ThreadId) : State b K → List (Action K) → Nat :=
  occurrences L fun s α _ => α = .call t (.dropGuard h) ∧ ¬ s.IsHeldBy h t

omit [Key K] in
/-- Acquisitions write no complaints. -/
theorem writes_acquiring_ne (a : Acquisition) (stage : AcquireStage) (A' : Activity K) :
    (Activity.acquiring a stage).writes A' ≠ some (.guardFailed h) := by
  unfold Activity.writes
  split <;> simp_all

/-- **A guard that is being dropped in vain complains when the call returns**, and no other does. -/
theorem Turn.complains (turn : s.Turn L t A e A') (busy : ∀ last, A ≠ .ready last) :
    ((if A.writes A' = some (.guardFailed h) then 1 else 0) +
        if A'.dropping? = some h ∧ ¬ (s.after L t e A').IsHeldBy h t then 1 else 0) =
      if A.dropping? = some h ∧ ¬ s.IsHeldBy h t then 1 else 0 := by
  cases turn with
  | call last c => exact absurd rfl (busy last)
  | @acquire a stage _ _ turn =>
    have dropping : A'.dropping? = none := by
      obtain ⟨stage', rfl, -⟩ | ⟨-, -, rfl⟩ | ⟨v, -, -, rfl⟩ := turn.outcome <;> rfl
    have before : (Activity.acquiring a stage : Activity K).dropping? = none := rfl
    simp [writes_acquiring_ne, dropping, before]
  | @release r stage _ _ turn =>
    cases turn with
    | begin free =>
      simp [Activity.writes, Activity.dropping?, ReleaseStage.hasParted, Effect.isHeldBy_apply]
    | part held =>
      simp only [Activity.writes, Activity.dropping?, ReleaseStage.hasParted]
      by_cases half : r.half = h
      · subst half
        simp [held]
      · simp [half]
    | notHeld absent direct => simp [Activity.writes, Activity.dropping?, direct]
    | dropFailed absent dropped =>
      simp only [Activity.writes, Activity.dropping?, ReleaseStage.hasParted, dropped]
      by_cases half : r.half = h
      · subst half
        simp [absent]
      · simp [half]
    | _ => simp [Activity.writes, Activity.dropping?, ReleaseStage.hasParted]
  | ask turn => cases turn <;> simp [Activity.writes, Activity.dropping?]
  | expire | rouse => simp [Activity.writes, Activity.dropping?]

/-- A call to drop a guard that the thread makes in vain is a complaint to come. -/
theorem complains_of_call {c : Call K} (next : s.next? L (.call t c) = some s') :
    s'.logOf t = s.logOf t ∧ (s.activity t).dropping? = none ∧
      ((s'.activity t).dropping? = some h ∧ ¬ s'.IsHeldBy h t ↔
        (.call t c : Action K) = .call t (.dropGuard h) ∧ ¬ s.IsHeldBy h t) := by
  obtain ⟨last, ready, rfl⟩ := next?_call next
  refine ⟨?_, by rw [ready]; rfl, and_congr_left' ?_⟩
  · rw [logOf_after, if_pos rfl]
    rfl
  · rw [activity_after_self]
    cases c <;> simp [Call.start, Activity.dropping?, ReleaseStage.hasParted]

/-- **Every guard that is dropped in vain complains once**, and nothing else complains: between two
calls there are as many complaints of a thread as guards that it has dropped in vain. -/
theorem vainDrops_eq {last : Option Reply} (run : (initial : State b K).run? L αs = some s)
    (ready : s.activity t = .ready last) :
    (s.logOf t).count (.guardFailed h) = vainDrops L h t (initial : State b K) αs := by
  have count := count_logOf_eq_occurrences (t := t)
    (P := fun u α _ => α = .call t (.dropGuard h) ∧ ¬ u.IsHeldBy h t) (.guardFailed h)
    (fun _ => 0)
    (fun u => if (u.activity t).dropping? = some h ∧ ¬ u.IsHeldBy h t then 1 else 0)
    (by simp [initial, activity, Activity.dropping?]) ?_ run
  · simp only [ready] at count
    exact count
  · intro u α v reachable next
    by_cases call : ∃ c, α = .call t c
    · obtain ⟨c, rfl⟩ := call
      obtain ⟨log, before, after⟩ := complains_of_call (h := h) next
      simp only [log, before, after]
      simp
    · have nocall : ∀ c, α ≠ .call t c := fun c hα => call ⟨c, hα⟩
      obtain ⟨e, A', mine, -, turn, rfl⟩ | bystands := turn_or_bystands next t
      · have busy : ∀ last, u.activity t ≠ .ready last :=
          fun last ready => turnOf?_ne_of_ready next ready nocall mine
        have complains := turn.complains (h := h) busy
        simp only [count_logOf_after turn, activity_after_self, nocall, false_and, if_false]
        omega
      · simp only [bystands.log, bystands.alike.dropping?, bystands.held, nocall, false_and,
          if_false]

/-- **What a release has written** when it returns. -/
theorem Calling.logOf_eq {r : Release} (calling : s.Calling L t r.call αs s')
    (returned : s'.activity t = .ready (some reply)) :
    s'.logOf t = (if s.IsHeldBy r.half t then [.released r.half]
      else if r.byGuard then [.guardFailed r.half] else []) ++ s.logOf t := by
  by_cases holder : s.IsHeldBy r.half t
  · rw [if_pos holder, (calling.endsHold holder returned).2.2]
    rfl
  · rw [if_neg holder, (calling.fails holder returned).2]
    rfl

/-! ## Errors -/

omit [Key K] in
/-- An acquisition returns an error exactly when it is interrupted, once it has not found the half
held. -/
theorem isError_reply (a : Acquisition) (v : Verdict) :
    (a.reply v).isError = decide (v = .interrupted) := by
  cases v with
  | interrupted => rfl
  | acquired | refused =>
    unfold Acquisition.reply EntryPoint.reply
    cases a.entry.manner <;> cases a.entry.guarded <;> rfl

/-- What a turn of an acquisition writes of its having finished. -/
theorem Turn.finished_of_acquiring {a : Acquisition} {stage : AcquireStage}
    (turn : s.Turn L t (.acquiring a stage) e A')
    (candid : (Activity.acquiring a stage : Activity K).Candid) :
    (∃ stage', A' = .acquiring a stage' ∧ e.noted?.toList.filter Event.isFinished = []) ∨
      ∃ reply, A' = .ready (some reply) ∧ e.noted?.toList.filter Event.isFinished =
        if reply.isError then [] else [.finished a.half reply.grants] := by
  rw [turn.noted?_eq]
  have goesOn : ∀ stage', A' = .acquiring a stage' →
      ((Activity.acquiring a stage).writes A').toList.filter Event.isFinished = [] := by
    intro stage' hA'
    have busy : ∀ reply, A' ≠ .ready (some reply) := by simp [hA']
    cases written : (Activity.acquiring a stage).writes A' with
    | none => rfl
    | some event =>
      obtain ⟨h', rfl⟩ := writes_of_busy busy written
      rfl
  cases turn with
  | acquire turn =>
    obtain ⟨stage', rfl, -⟩ | ⟨rfl, -, rfl⟩ | ⟨v, rfl, -, rfl⟩ := turn.outcome
    · exact .inl ⟨stage', rfl, goesOn stage' rfl⟩
    · exact .inr ⟨_, rfl, rfl⟩
    · have grants : (a.reply v).grants = decide (v = .acquired) :=
        Bool.eq_iff_iff.2 (candid.grants_reply.trans decide_eq_true_iff.symm)
      refine .inr ⟨_, rfl, ?_⟩
      rw [isError_reply, grants]
      cases v <;> rfl
  | expire m => exact .inl ⟨_, rfl, goesOn _ rfl⟩
  | rouse m => exact .inl ⟨_, rfl, goesOn _ rfl⟩

/-- What an acquisition has written so far of its having finished. -/
inductive Finishing (s : State b K) (t : ThreadId) (h : Half) (u : State b K) : Prop where
  /-- It is under way and has written nothing of the kind. -/
  | underWay (a : Acquisition) (stage : AcquireStage) (half : a.half = h)
    (here : u.activity t = .acquiring a stage)
    (log : (u.logOf t).filter Event.isFinished = (s.logOf t).filter Event.isFinished)
  /-- It has returned, and has written what it has come to unless that is an error. -/
  | returned (reply : Reply) (here : u.activity t = .ready (some reply))
    (log : (u.logOf t).filter Event.isFinished =
      (if reply.isError then [] else [.finished h reply.grants]) ++
        (s.logOf t).filter Event.isFinished)

/-- **An acquisition that returns an error does not write that it has finished**, and any other one
writes so once, with what it has come to. -/
theorem Calling.finishing (calling : s.Calling L t (.acquire h entry) αs s') :
    s.Finishing t h s' := by
  refine calling.induction (P := fun _ u => s.Finishing t h u) ?_ ?_
  · refine .underWay ⟨h, entry, entry.manner.patience s.now⟩ .begin rfl ?_ ?_
    · rw [activity_after_self]
      rfl
    · rw [logOf_after, if_pos rfl]
      rfl
  · intro αs α u v before next nocall stands
    obtain ⟨e, A', mine, -, turn, rfl⟩ | bystands := turn_or_bystands next t
    · cases stands with
      | underWay a stage half here log =>
        have candid := before.reachable'.candid t
        rw [here] at turn candid
        have written : ((u.after L t e A').logOf t).filter Event.isFinished =
            e.noted?.toList.filter Event.isFinished ++ (s.logOf t).filter Event.isFinished := by
          rw [logOf_after, if_pos rfl, List.filter_append, log]
        obtain ⟨stage', rfl, nothing⟩ | ⟨reply, rfl, finished⟩ :=
          turn.finished_of_acquiring candid
        · refine .underWay a stage' half (activity_after_self ..) ?_
          rw [written, nothing, List.nil_append]
        · refine .returned reply (activity_after_self ..) ?_
          rw [written, finished, half]
      | returned reply here => exact absurd mine (turnOf?_ne_of_ready next here nocall)
    · cases stands with
      | underWay a stage half here log =>
        have alike := bystands.alike
        rw [here] at alike
        obtain ⟨stage', here', -⟩ := alike.verdict?_eq
        exact .underWay a stage' half here' (bystands.log ▸ log)
      | returned reply here log =>
        have here' := (bystands.alike.eq_of_awake (by simp [here])).trans here
        exact .returned reply here' (bystands.log ▸ log)

/-- What an acquisition that has returned has written of its having finished. -/
theorem Attempt.finished_eq (attempt : s.Attempt L t h entry αs s' reply) :
    (s'.logOf t).filter Event.isFinished =
      (if reply.isError then [] else [.finished h reply.grants]) ++
        (s.logOf t).filter Event.isFinished := by
  have returned := attempt.returned
  cases attempt.calling.finishing with
  | underWay a stage half here =>
    rw [returned] at here
    cases here
  | returned reply' here log =>
    rw [returned] at here
    cases here
    exact log

/-! ## The log as a whole -/

/-- The log tells who holds what, after a run from the start. -/
structure LogReplays (L : Layout K) (αs : List (Action K)) (s : State b K) : Prop where
  /-- Between two calls, a thread has acquired a half as often as it has released it, and once more
  if it holds the half. -/
  own : ∀ t last, s.activity t = .ready last → ∀ h, (s.logOf t).count (.finished h true) =
    (s.logOf t).count (.released h) + if s.IsHeldBy h t then 1 else 0
  /-- Where no thread is in the middle of anything, a half has been acquired as often as it has been
  released, and once more for every thread that holds it. -/
  total : s.IsIdle → ∀ h, (s.log.map (·.event)).count (.finished h true) =
    (s.log.map (·.event)).count (.released h) + (s.holds.get h).members.length
  /-- Between two calls, a thread has reported to withdraw its claim of a half as often as it has
  withdrawn it. -/
  withdrawn : ∀ t last, s.activity t = .ready last → ∀ h,
    (s.logOf t).count (.rolledBack h false) = withdrawals L h t (initial : State b K) αs ∧
      (s.logOf t).count (.rolledBack h true) = 0
  /-- Between two calls, a thread has complained of guards of a half as often as it has dropped one
  without holding the half. -/
  dropped : ∀ t last, s.activity t = .ready last → ∀ h,
    (s.logOf t).count (.guardFailed h) = vainDrops L h t (initial : State b K) αs
  /-- That is where a direct release returns that the half is not held. -/
  notHeld : ∀ t h βs s' reply, s.Calling L t (.unlock h) βs s' →
    s'.activity t = .ready (some reply) →
    (reply = .failed (.notHeld h.kind) ↔ ¬ s.IsHeldBy h t)
  /-- A release writes that the half is released if it was held; otherwise the dropping of a guard
  complains, and a direct release writes nothing. -/
  release : ∀ t r βs s' reply, s.Calling L t (r : Release).call βs s' →
    s'.activity t = .ready (some reply) →
    s'.logOf t = (if s.IsHeldBy r.half t then [.released r.half]
      else if r.byGuard then [.guardFailed r.half] else []) ++ s.logOf t
  /-- An acquisition that returns an error does not write that it has finished, and any other one
  writes so once. -/
  finished : ∀ t h entry βs s' reply, s.Attempt L t h entry βs s' reply →
    (s'.logOf t).filter Event.isFinished =
      (if reply.isError then [] else [.finished h reply.grants]) ++
        (s.logOf t).filter Event.isFinished

/-- **The log replays to the hold sets**: after any run from the start, the log of the threads that
are between two calls tells what they hold. A hold is acquired and released once, a claim that is
withdrawn and a guard that is dropped in vain are reported once, and an acquisition writes that it
has finished unless it returns an error. -/
theorem logReplays (run : (initial : State b K).run? L αs = some s) : s.LogReplays L αs where
  own _ _ ready _ := balance run ready
  total idle _ := total_of_balance fun t => by
    obtain ⟨last, ready⟩ := idle t
    exact balance run ready
  withdrawn _ _ ready _ := ⟨withdrawals_eq run ready, panicking_eq_zero run⟩
  dropped _ _ ready _ := vainDrops_eq run ready
  notHeld _ _ _ _ _ calling returned := (calling.unlock_iff returned).2
  release _ _ _ _ _ calling returned := calling.logOf_eq returned
  finished _ _ _ _ _ _ attempt := attempt.finished_eq

/-- A run in which a writer withdraws its claim behind a reader, and the reader releases its half,
drops a guard of it all the same, and acquires it again. -/
def guardDroppedInVain : List (Action Nat) :=
  oneReader ++ .call 1 (.acquire ⟨1, .write⟩ { manner := .tryLock }) :: refusedInDrain
    ++ List.replicate 4 (.step 0) ++ Action.follow 0 (.dropGuard ⟨0, .read⟩) 2
    ++ Action.follow 0 (.acquire ⟨0, .read⟩ { manner := .lock, guarded := true }) 13

/-- The log of a run in which a guard is dropped in vain and a claim withdrawn. -/
theorem logReplays_guardDroppedInVain :
    (finish .threeLocks guardDroppedInVain : State .hash Nat).LogReplays .threeLocks
        guardDroppedInVain ∧
      (finish .threeLocks guardDroppedInVain : State .hash Nat).log.map (·.event) =
        [.finished ⟨0, .read⟩ true, .guardFailed ⟨0, .read⟩, .released ⟨0, .read⟩,
          .finished ⟨1, .write⟩ false, .rolledBack ⟨1, .write⟩ false,
          .finished ⟨0, .read⟩ true] ∧
      ((finish .threeLocks guardDroppedInVain : State .hash Nat).holds.get
        ⟨0, .read⟩).members = [0] ∧
      withdrawals .threeLocks ⟨1, .write⟩ 1 (initial : State .hash Nat) guardDroppedInVain = 1 ∧
      vainDrops .threeLocks ⟨0, .read⟩ 0 (initial : State .hash Nat) guardDroppedInVain = 1 :=
  ⟨logReplays (by decide +kernel), by decide +kernel, by decide +kernel, by decide +kernel,
    by decide +kernel⟩

end State

end ResourceLocks.Protocol
