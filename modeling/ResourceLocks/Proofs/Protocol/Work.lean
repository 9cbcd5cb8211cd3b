import Mathlib.Algebra.Order.BigOperators.Group.Finset
import ResourceLocks.Proofs.Protocol.Verdict

/-!
# The work that is left

A release wakes everyone who is asleep at a monitor, whatever they wait for, and most of them look,
find their resources taken and sleep again. So the steps of one call have no bound of their own:
how often it is woken depends on the others. This file bounds the steps of all calls together.

* The **work** of a call (`Activity.work`) is a number that every step lowers
  (`State.getsOn_of_step`). It rises by 5 where a sleeper is notified (`Activity.Alike.work_le`),
  and by 4 where one wakes because its time is up (`State.work_of_rouse`).
* A call notifies sleepers once at most, by a step that **clears** a ledger. It does so with work 6
  (`Activity.GetsOn.clear`) and has less from then on, since no sleeper has. A call with work 6 or
  more has its clear ahead.
* The **load** of a call (`Activity.load`) is its work and, while its clear is ahead, 5 for every
  call under way: what it will add to the work of the others is charged to the call beforehand.

The **potential** of a state (`State.potential`) is the load of its calls together. As long as
nobody makes a call every turn lowers it, except that it may rise by 4 where a sleeper wakes because
its time is up (`State.potential_of_next?`).
-/

namespace ResourceLocks.Protocol

variable {b : Backing} {K : Type} [Key K]

/-! ## Work -/

/-- The work of an acquisition that is asleep at a monitor and has not been notified. -/
def Monitor.sleeperWork : Monitor → Nat
  | .owner => 18
  | .holder => 10

/-- The work of an acquisition: waiting at the owner monitor, recording the claim, waiting at the
holder monitor, leaving and withdrawing, joining. -/
def AcquireStage.work : AcquireStage → Nat
  | begin => 25
  | looking => 24
  | approaching m => m.sleeperWork + 5
  | entering m | woken m => m.sleeperWork + 4
  | testing m => m.sleeperWork + 3
  | taken m => m.sleeperWork + 2
  | settling m => m.sleeperWork + 1
  | asleep m notified _ => m.sleeperWork + if notified then 5 else 0
  | recordingIn .owner => 17
  | claimed => 16
  | recordingIn .holder => 10
  | leaving .holder _ => 9
  | withdrawing _ => 8
  | returning _ => 7
  | unclaiming _ => 6
  | leaving .owner _ => 5
  | joining => 4
  | noting => 3
  | concluding _ => 2

/-- The work of a release. It clears with as much work as an acquisition that withdraws. -/
def ReleaseStage.work : ReleaseStage → Nat
  | begin => 9
  | looking => 8
  | entering => 7
  | clearing => 6
  | leaving => 5
  | concluding => 4

/-- The work of a question. -/
def QueryStage.work : QueryStage → Nat
  | begin => 5
  | descending => 4
  | reading => 3
  | leavingHolder _ => 2
  | leavingOwner _ => 1

/-- The work of a call, none where a thread is doing nothing. -/
def Activity.work : Activity K → Nat
  | .ready _ => 0
  | .acquiring _ stage => stage.work
  | .releasing _ stage => stage.work
  | .asking _ stage => stage.work

attribute [simp] Monitor.sleeperWork AcquireStage.work ReleaseStage.work QueryStage.work
  Activity.work

namespace AcquireStage

variable (k : Kind) (m : Monitor) (v : Verdict)

/-- To give up leaves less to do than to enter. -/
theorem work_givingUp_lt : (givingUp k m v).work < (entering m).work := by
  cases m <;> cases k <;> simp [givingUp]

/-- To enter a monitor leaves less to do. -/
theorem work_entered_lt : (entered k m).work < (entering m).work := by
  cases m <;> cases k <;> simp [entered]

/-- To find resources free leaves less to do. -/
theorem work_free_lt : (free k m).work < (testing m).work := by
  cases m <;> cases k <;> simp [free]

/-- To record an acquisition leaves less to do. -/
theorem work_recorded_lt : (recorded m).work < (recordingIn m).work := by
  cases m <;> simp [recorded]

/-- To leave a monitor is less than what a sleeper there has to do. -/
theorem work_leaving_lt : (leaving m v).work < m.sleeperWork := by
  cases m <;> simp

/-- To have left a monitor leaves less to do. -/
theorem work_left_lt : (left k m v).work < (leaving m v).work := by
  cases m <;> cases k <;> cases v <;> simp [left]

/-- No stage of an acquisition has more to do than its first. -/
theorem work_le (stage : AcquireStage) : stage.work ≤ 25 := by
  cases stage with
  | approaching m | entering m | woken m | testing m | taken m | settling m | recordingIn m
  | leaving m v => cases m <;> simp
  | asleep m notified wakeAt =>
    cases m <;> cases notified <;> simp
  | _ => simp

end AcquireStage

omit [Key K] in
/-- No call has more work than an acquisition that begins. -/
theorem Activity.work_le (A : Activity K) : A.work ≤ 25 := by
  cases A with
  | ready last => exact Nat.zero_le _
  | acquiring a stage => exact stage.work_le
  | releasing r stage => cases stage <;> simp
  | asking q stage => cases stage <;> simp

omit [Key K] in
/-- **Being notified** raises the work by 5 at most. -/
theorem Activity.Alike.work_le {A B : Activity K} (alike : A.Alike B) : B.work ≤ A.work + 5 := by
  obtain rfl | ⟨a, m, notified, wakeAt, rfl, rfl⟩ := alike
  · exact Nat.le_add_right _ 5
  · simp only [work, AcquireStage.work, if_true]
    omega

omit [Key K] in
/-- Who has less than 6 to do is not asleep, and does not change in a notification. -/
theorem Activity.Alike.eq_of_work_lt {A B : Activity K} (alike : A.Alike B) (late : A.work < 6) :
    B = A := by
  refine alike.eq_of_awake ?_
  rintro a m notified wakeAt rfl
  cases m <;> simp only [work, AcquireStage.work, Monitor.sleeperWork] at late <;> omega

/-! ## What turns do to the work -/

/-- A turn clears a ledger, and notifies its sleepers. -/
def Effect.clears : Effect → Bool
  | .clear .. => true
  | _ => false

/-- A turn gets on with a call: it lowers the work, and it clears a ledger in the one place at which
calls do. -/
structure Activity.GetsOn (A : Activity K) (e : Effect) (A' : Activity K) : Prop where
  /-- There is less to do. -/
  less : A'.work < A.work
  /-- A ledger is cleared with 6 to do. -/
  clear : e.clears = true → A.work = 6

omit [Key K] in
/-- Who gets on has something to do. -/
theorem Activity.GetsOn.busy {A A' : Activity K} {e : Effect} (getsOn : A.GetsOn e A')
    (last : Option Reply) : A ≠ .ready last := by
  rintro rfl
  exact absurd getsOn.less (Nat.not_lt_zero _)

section turns

variable {L : Layout K} {s s' : State b K} {t u : ThreadId} {e : Effect} {A' : Activity K}

/-- Every turn of an acquisition gets it on, also to fall asleep. -/
theorem AcquireTurn.getsOn {a : Acquisition} {stage : AcquireStage}
    (turn : AcquireTurn L s t a stage e A') :
    (Activity.acquiring a stage : Activity K).GetsOn e A' := by
  constructor
  · cases turn with
    | heed m => exact (AcquireStage.work_givingUp_lt _ m _).trans (Nat.lt_succ_self _)
    | barred m => exact AcquireStage.work_givingUp_lt _ m _
    | enter m => exact AcquireStage.work_entered_lt _ m
    | free m => exact AcquireStage.work_free_lt _ m
    | record m => exact AcquireStage.work_recorded_lt m
    | leave m v => exact AcquireStage.work_left_lt _ m v
    | heedInside m | refuse m =>
      exact (AcquireStage.work_leaving_lt m _).trans_le (Nat.le_add_right _ _)
    | _ => simp
  · intro clears
    cases turn with
    | unclaim v => rfl
    | conclude v => cases v <;> cases clears
    | _ => cases clears

/-- Every turn of a release gets it on. -/
theorem ReleaseTurn.getsOn {r : Release} {stage : ReleaseStage}
    (turn : ReleaseTurn L s t r stage e A') :
    (Activity.releasing r stage : Activity K).GetsOn e A' := by
  constructor
  · cases turn with
    | _ => simp
  · intro clears
    cases turn with
    | clear => rfl
    | _ => cases clears

/-- Every turn of a question gets it on. -/
theorem AskTurn.getsOn {q : Query K} {stage : QueryStage} (turn : AskTurn s t q stage e A') :
    (Activity.asking q stage).GetsOn e A' := by
  constructor
  · cases turn with
    | _ => simp
  · intro clears
    cases turn with
    | _ => cases clears

/-- **A step gets on with the call.** -/
theorem State.getsOn_of_step (next : s.next? L (.step t) = some s') :
    ∃ e A', s' = s.after L t e A' ∧ (s.activity t).GetsOn e A' := by
  rw [State.next?, State.step?] at next
  generalize s.activity t = A at next
  cases A with
  | ready last => cases next
  | acquiring a stage =>
    obtain ⟨e, A', turn, rfl⟩ := State.acquireTurn_of_step next
    exact ⟨e, A', rfl, turn.getsOn⟩
  | releasing r stage =>
    obtain ⟨e, A', turn, rfl⟩ := State.releaseTurn_of_step next
    exact ⟨e, A', rfl, turn.getsOn⟩
  | asking q stage =>
    obtain ⟨e, A', turn, rfl⟩ := State.askTurn_of_step (L := L) next
    exact ⟨e, A', rfl, turn.getsOn⟩

/-- So does giving up at a monitor. -/
theorem State.getsOn_of_expire (next : s.next? L (.expire t) = some s') :
    ∃ A', s' = s.after L t .nothing A' ∧ (s.activity t).GetsOn .nothing A' := by
  rw [State.next?, State.expire?] at next
  split at next
  · rename_i a m here
    split at next
    · rename_i deadline bounded
      split at next
      · cases next
        refine ⟨_, rfl, ?_, fun clears => by cases clears⟩
        rw [here]
        exact AcquireStage.work_givingUp_lt _ m _
      · cases next
    · cases next
  · cases next

/-- Who wakes because its time is up was asleep. -/
theorem State.next?_rouse (next : s.next? L (.rouse t) = some s') :
    ∃ a m notified wakeAt, s.activity t = .acquiring a (.asleep m notified wakeAt) ∧
      s' = s.after L t .nothing (.acquiring a (.woken m)) := by
  rw [State.next?, State.rouse?] at next
  split at next
  · rename_i a m notified wakeAt here
    split at next
    · cases next
      exact ⟨a, m, notified, wakeAt, here, rfl⟩
    · cases next
  · cases next

/-- **Waking because its time is up** raises the work of a thread by 4 at most, and the thread has
its clear ahead. -/
theorem State.work_of_rouse (next : s.next? L (.rouse t) = some s') :
    ∃ A', s' = s.after L t .nothing A' ∧ A'.work ≤ (s.activity t).work + 4 ∧
      6 ≤ (s.activity t).work := by
  obtain ⟨a, m, notified, wakeAt, here, rfl⟩ := State.next?_rouse next
  refine ⟨_, rfl, ?_, ?_⟩
  · simp only [here, Activity.work, AcquireStage.work]
    omega
  · rw [here]
    cases m <;> simp only [Activity.work, AcquireStage.work, Monitor.sleeperWork] <;> omega

end turns

/-! ## Load -/

/-- The load of a call among a number of calls: its work, and what its notifications can add to the
work of all of them, as long as it has yet to make them. -/
def Activity.load (n : Nat) (A : Activity K) : Nat :=
  A.work + if 6 ≤ A.work then 5 * n else 0

section load

variable {A A' B : Activity K} {e : Effect}

omit [Key K] in
/-- The load of a call is bounded by the number of threads it can wake. -/
theorem Activity.load_le (n : Nat) (A : Activity K) : A.load n ≤ 5 * n + 25 := by
  have bound := A.work_le
  unfold load
  split <;> omega

omit [Key K] in
/-- **A turn takes 1 off the load**, and what it adds to the work of others besides. -/
theorem Activity.GetsOn.load_lt (getsOn : A.GetsOn e A') (n : Nat) :
    A'.load n + (if e.clears then 5 * n else 0) < A.load n := by
  have less := getsOn.less
  unfold load
  by_cases clears : e.clears = true
  · have six := getsOn.clear clears
    rw [if_pos clears, if_neg (by omega), if_pos (by omega)]
    omega
  · rw [if_neg clears]
    split <;> split <;> omega

omit [Key K] in
/-- Being notified raises the load by 5 at most. -/
theorem Activity.Alike.load_le (alike : A.Alike B) (n : Nat) : B.load n ≤ A.load n + 5 := by
  by_cases late : A.work < 6
  · rw [alike.eq_of_work_lt late]
    exact Nat.le_add_right _ 5
  · have more := alike.work_le
    unfold load
    rw [if_pos (by omega : 6 ≤ A.work)]
    split <;> omega

omit [Key K] in
/-- Waking because its time is up raises the load of a thread by 4 at most. -/
theorem Activity.load_lt_add (rises : A'.work ≤ A.work + 4) (ahead : 6 ≤ A.work) (n : Nat) :
    A'.load n < A.load n + 5 := by
  unfold load
  rw [if_pos ahead]
  split <;> omega

end load

/-! ## The potential -/

namespace State

/-- The thread has a call under way. -/
def IsBusy (s : State b K) (t : ThreadId) : Prop := ∀ last, s.activity t ≠ .ready last

/-- The load of some threads together. -/
def potential (s : State b K) (T : Finset ThreadId) : Nat :=
  ∑ t ∈ T, (s.activity t).load T.card

variable {L : Layout K} {s s' : State b K} {t u : ThreadId} {e : Effect} {A' : Activity K}
  {T : Finset ThreadId}

/-- The load of some threads together is bounded by their number. -/
theorem potential_le (s : State b K) (T : Finset ThreadId) :
    s.potential T ≤ T.card * (5 * T.card + 25) := by
  unfold potential
  exact Finset.sum_le_card_nsmul T _ _ fun t _ => (s.activity t).load_le T.card

/-- A turn that clears nothing leaves the other threads as they are. -/
theorem activity_after_of_not_clears (quiet : e.clears = false) (hu : u ≠ t) :
    (s.after L t e A').activity u = s.activity u := by
  rw [after, activity_setActivity_of_ne _ _ hu]
  cases e with
  | heed => exact activity_setInterrupted s t u false
  | clear m h => cases quiet
  | exitMutex h noted => cases noted <;> rfl
  | _ => rfl

/-- The turn of another thread raises the load of a thread only if it clears, and by 5 at most. -/
theorem load_after_le (hu : u ≠ t) (n : Nat) :
    ((s.after L t e A').activity u).load n ≤
      (s.activity u).load n + if e.clears then 5 else 0 := by
  cases clears : e.clears with
  | true => exact (alike_after L s e A' hu).load_le n
  | false =>
    rw [activity_after_of_not_clears clears hu]
    exact Nat.le_add_right _ _

/-- **The potential after a turn** changes as the load of its thread does, what is put aside for the
notifications included. -/
theorem potential_after_lt (ht : t ∈ T) {more : Nat}
    (load : A'.load T.card + (if e.clears then 5 * T.card else 0) <
      (s.activity t).load T.card + more) :
    (s.after L t e A').potential T < s.potential T + more := by
  have others : ∑ u ∈ T.erase t, ((s.after L t e A').activity u).load T.card ≤
      ∑ u ∈ T.erase t, (s.activity u).load T.card + if e.clears then 5 * T.card else 0 := by
    have card : (T.erase t).card ≤ T.card := Finset.card_erase_le
    calc ∑ u ∈ T.erase t, ((s.after L t e A').activity u).load T.card
        ≤ ∑ u ∈ T.erase t, ((s.activity u).load T.card + if e.clears then 5 else 0) :=
          Finset.sum_le_sum fun u hu => load_after_le (Finset.ne_of_mem_erase hu) T.card
      _ = ∑ u ∈ T.erase t, (s.activity u).load T.card +
            (T.erase t).card * if e.clears then 5 else 0 := by
          rw [Finset.sum_add_distrib, Finset.sum_const_nat fun _ _ => rfl]
      _ ≤ ∑ u ∈ T.erase t, (s.activity u).load T.card + if e.clears then 5 * T.card else 0 := by
          split <;> omega
  unfold potential
  rw [← Finset.add_sum_erase T _ ht, ← Finset.add_sum_erase T _ ht, activity_after_self]
  omega

end State

/-! ## Actions -/

/-- The sleeper that an action wakes because its time is up. -/
def Action.roused? : Action K → Option ThreadId
  | .rouse t => some t
  | _ => none

namespace State

variable {L : Layout K} {s s' : State b K} {t : ThreadId} {α : Action K} {T : Finset ThreadId}

/-- Only by a call does a thread become busy. -/
theorem IsBusy.of_next? (busy : s'.IsBusy t) (next : s.next? L α = some s')
    (nocall : ∀ c, α ≠ .call t c) : s.IsBusy t := by
  intro last ready
  exact busy last (next?_of_ready next ready nocall)

/-- What is no turn leaves all activities as they are. -/
theorem activity_of_turnOf?_eq_none (next : s.next? L α = some s') (noturn : α.turnOf? = none)
    (t : ThreadId) : s'.activity t = s.activity t := by
  obtain ⟨w, e, A', hw, -⟩ | ⟨-, same⟩ := next?_cases next
  · rw [noturn] at hw
    cases hw
  · exact same.activity t

/-- **The potential falls**: every action that is no call takes 1 off it if it is a turn, except
that waking because its time is up may add 4. -/
theorem potential_of_next? (members : ∀ t, s.IsBusy t → t ∈ T) (nocall : ∀ t c, α ≠ .call t c)
    (next : s.next? L α = some s') :
    s'.potential T + α.turnOf?.toList.length ≤
      s.potential T + 5 * α.roused?.toList.length := by
  have idle : α.turnOf? = none → s'.potential T = s.potential T := by
    intro noturn
    simp only [potential, activity_of_turnOf?_eq_none next noturn]
  cases α with
  | call t c => exact absurd rfl (nocall t c)
  | step t =>
    obtain ⟨e, A', rfl, getsOn⟩ := getsOn_of_step next
    exact potential_after_lt (members t getsOn.busy) (getsOn.load_lt T.card)
  | expire t =>
    obtain ⟨A', rfl, getsOn⟩ := getsOn_of_expire next
    exact potential_after_lt (members t getsOn.busy) (getsOn.load_lt T.card)
  | rouse t =>
    obtain ⟨A', rfl, rises, ahead⟩ := work_of_rouse next
    refine potential_after_lt (members t ?_) (Activity.load_lt_add rises ahead T.card)
    intro last ready
    rw [ready] at ahead
    cases ahead
  | interrupt t | clearFlag t | pass nanos => exact (idle rfl).le

end State

end ResourceLocks.Protocol
