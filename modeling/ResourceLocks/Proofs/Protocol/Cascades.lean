import Mathlib.Data.Set.Finite.Basic
import Mathlib.Order.Lattice.Nat
import Mathlib.Tactic.Ring
import ResourceLocks.Proofs.Protocol.Acquisition
import ResourceLocks.Proofs.Protocol.Standstill
import ResourceLocks.Proofs.Protocol.Work

/-!
# Cascades end

One release can set off much: it wakes all who are asleep at a monitor, a woken writer may claim its
resources and fall asleep again at the other monitor, and a writer that gives up wakes others in its
turn. What happens while nobody makes a call, and nobody wakes but because it is notified or because
its deadline has come, is a **cascade** (`State.Cascade`). `State.Reachable.cascadesEnd` says that
cascades end.

* Of the wake-ups of a cascade that are no notifications each thread has **one at most**
  (`State.Cascade.nodup_rouses`): whose deadline has come does not fall asleep again.
* With `n` calls under way a cascade has **no more than `n * (5 * n + 30)` turns**
  (`State.Cascade.length_turns_le`): the potential at its start and 5 for each of those wake-ups.
* Where no thread can take a step, **every call has returned or is asleep** and not notified
  (`State.Reachable.atRest`): a thread that waits for a monitor or a mutex waits for one that can.
  That lasts until somebody makes a call or a sleeper's time is up
  (`State.AtRest.activity_of_run?`).
-/

namespace ResourceLocks.Protocol

variable {b : Backing} {K : Type} [Key K]

/-! ## Turns and wake-ups of a run -/

/-- The threads whose turns the actions of a run are, in their order. -/
def turns (αs : List (Action K)) : List ThreadId := αs.filterMap Action.turnOf?

/-- The sleepers that wake in a run because their time is up, in their order. -/
def rouses (αs : List (Action K)) : List ThreadId := αs.filterMap Action.roused?

section concat

variable (αs : List (Action K)) (α : Action K)

omit [Key K] in
/-- The turn of the last action comes last. -/
@[simp] theorem turns_concat : turns (αs ++ [α]) = turns αs ++ α.turnOf?.toList := by
  rw [turns, List.filterMap_append]
  cases h : α.turnOf? <;> simp [turns, h]

omit [Key K] in
/-- The last action to wake a sleeper comes last. -/
@[simp] theorem rouses_concat : rouses (αs ++ [α]) = rouses αs ++ α.roused?.toList := by
  rw [rouses, List.filterMap_append]
  cases h : α.roused? <;> simp [rouses, h]

end concat

/-! ## Falling asleep -/

namespace AcquireStage

variable (k : Kind) (m : Monitor) (v : Verdict)

/-- The acquisition is asleep. -/
def isAsleep : AcquireStage → Bool
  | asleep .. => true
  | _ => false

/-- Who gives up is awake. -/
@[simp] theorem isAsleep_givingUp : (givingUp k m v).isAsleep = false := by
  cases m <;> cases k <;> rfl

/-- Who has entered a monitor is awake. -/
@[simp] theorem isAsleep_entered : (entered k m).isAsleep = false := by
  cases m <;> cases k <;> rfl

/-- Who has found its resources free is awake. -/
@[simp] theorem isAsleep_free : (free k m).isAsleep = false := by
  cases m <;> cases k <;> rfl

/-- Who has recorded its acquisition is awake. -/
@[simp] theorem isAsleep_recorded : (recorded m).isAsleep = false := by
  cases m <;> rfl

/-- Who has left a monitor is awake. -/
@[simp] theorem isAsleep_left : (left k m v).isAsleep = false := by
  cases m <;> cases k <;> cases v <;> rfl

end AcquireStage

namespace State

variable {L : Layout K} {s s' u v : State b K} {t : ThreadId} {α : Action K}
  {αs βs : List (Action K)} {T : Finset ThreadId}

/-- Who falls asleep has time left. -/
theorem Turn.sleep?_of_isAsleep {a : Acquisition} {stage stage' : AcquireStage} {e : Effect}
    (turn : s.Turn L t (.acquiring a stage) e (.acquiring a stage'))
    (asleep : stage'.isAsleep = true) :
    ∃ length, a.patience.sleep? s.now (L.interval (L.registry a.half)) = some length := by
  generalize hA' : Activity.acquiring a stage' = A' at turn
  cases turn with
  | acquire turn =>
    cases turn with
    | sleep m length left => exact ⟨length, left⟩
    | heed m | barred m | enter m | free m | record m | leave m v =>
      cases hA'
      simp at asleep
    | _ => cases hA' <;> cases asleep
  | expire a m =>
    cases hA'
    simp at asleep
  | rouse a m =>
    cases hA'
    cases asleep

/-- Time does not go back. -/
theorem now_le_of_next? (next : s.next? L α = some s') : s.now ≤ s'.now := by
  cases α with
  | pass nanos =>
    cases next
    exact Nat.le_add_right _ _
  | interrupt t =>
    cases next
    exact le_rfl
  | clearFlag t =>
    simp only [next?] at next
    split at next <;> cases next
    exact le_rfl
  | _ =>
    obtain ⟨t, e, A', -, -, -, rfl⟩ | ⟨noturn, -⟩ := next?_cases next
    · cases e with
      | exitMutex h noted => cases noted <;> exact le_rfl
      | _ => exact le_rfl
    · cases noturn

/-! ## Deadlines -/

/-- The thread acquires a half, and the deadline up to which it may wait has come. -/
def IsOverdue (s : State b K) (t : ThreadId) : Prop :=
  ∃ a stage deadline, s.activity t = .acquiring a stage ∧ a.patience = .bounded deadline ∧
    deadline ≤ s.now

/-- The thread will not fall asleep before it makes another call: it is doing nothing, or is awake
and overdue. -/
def IsPast (s : State b K) (t : ThreadId) : Prop :=
  (∃ last, s.activity t = .ready last) ∨
    s.IsOverdue t ∧ ∀ a stage, s.activity t = .acquiring a stage → stage.isAsleep = false

/-- **Whose deadline has come does not fall asleep again.** -/
theorem IsPast.of_next? (past : s.IsPast t) (next : s.next? L α = some s')
    (nocall : ∀ c, α ≠ .call t c) : s'.IsPast t := by
  obtain ⟨last, ready⟩ | ⟨⟨a, stage, deadline, here, bounded, due⟩, awake⟩ := past
  · exact .inl ⟨last, next?_of_ready next ready nocall⟩
  obtain ⟨stage', here', -⟩ | ⟨-, -, ready⟩ | ⟨v, -, ready, -⟩ := next?_of_acquiring next here
  · have overdue : s'.IsOverdue t :=
      ⟨a, stage', deadline, here', bounded, due.trans (now_le_of_next? next)⟩
    refine .inr ⟨overdue, fun a₁ stage₁ here₁ => ?_⟩
    rw [here'] at here₁
    cases here₁
    obtain ⟨e, A', -, -, turn, rfl⟩ | bystands := turn_or_bystands next t
    · rw [activity_after_self] at here'
      subst here'
      rw [here] at turn
      refine Bool.eq_false_iff.2 fun asleep => ?_
      obtain ⟨length, left⟩ := turn.sleep?_of_isAsleep asleep
      rw [bounded, Patience.sleep?, if_pos due] at left
      cases left
    · have awake' := awake a stage here
      have same := bystands.alike.eq_of_awake (by
        rintro a' m n w asleep
        rw [here] at asleep
        cases asleep
        cases awake')
      rw [here, here'] at same
      cases same
      exact awake'
  · exact .inl ⟨_, ready⟩
  · exact .inl ⟨_, ready⟩

/-- Who wakes because its deadline has come could still fall asleep before, and cannot any more. -/
theorem past_of_rouse (overdue : s.IsOverdue t) (next : s.next? L (.rouse t) = some s') :
    s.IsBusy t ∧ ¬ s.IsPast t ∧ s'.IsPast t := by
  obtain ⟨a, m, notified, wakeAt, here, rfl⟩ := next?_rouse next
  obtain ⟨a', stage, deadline, here', bounded, due⟩ := overdue
  rw [here] at here'
  cases here'
  have busy : s.IsBusy t := by
    intro last ready
    rw [here] at ready
    cases ready
  refine ⟨busy, ?_, .inr ⟨?_, ?_⟩⟩
  · rintro (⟨last, ready⟩ | ⟨-, awake⟩)
    · exact busy last ready
    · cases awake a _ here
  · exact ⟨a, .woken m, deadline, activity_after_self .., bounded, due⟩
  · intro a₁ stage₁ here₁
    rw [activity_after_self] at here₁
    cases here₁
    rfl

/-! ## Cascades -/

/-- A run in which nobody makes a call, and nobody wakes but because it is notified or because its
deadline has come. Threads may be interrupted in it: that by itself wakes nobody. -/
inductive Cascade (L : Layout K) (s : State b K) : List (Action K) → State b K → Prop where
  /-- Nothing has happened. -/
  | nil : Cascade L s [] s
  /-- One more thing that happens. -/
  | snoc {αs : List (Action K)} {α : Action K} {u v : State b K} (before : Cascade L s αs u)
    (nocall : ∀ t c, α ≠ .call t c) (due : ∀ t, α = .rouse t → u.IsOverdue t)
    (next : u.next? L α = some v) : Cascade L s (αs ++ [α]) v

/-- A cascade is a run. -/
theorem Cascade.run (cascade : s.Cascade L αs s') : s.run? L αs = some s' := by
  induction cascade with
  | nil => rfl
  | snoc before nocall due next ih => exact run?_concat_eq_some.2 ⟨_, ih, next⟩

/-- A cascade goes on with a run without calls and without wake-ups that are no notifications. -/
theorem Cascade.append (before : s.Cascade L αs u) (run : u.run? L βs = some v)
    (nocall : ∀ t c, .call t c ∉ βs) (norouse : rouses βs = []) : s.Cascade L (αs ++ βs) v := by
  refine run?_snoc_induction (P := fun βs v => (∀ t c, .call t c ∉ βs) → rouses βs = [] →
    s.Cascade L (αs ++ βs) v) (fun _ _ => by rwa [List.append_nil]) ?_ run nocall norouse
  intro βs α v w _ next ih nocall norouse
  rw [rouses_concat, List.append_eq_nil_iff, Option.toList_eq_nil_iff] at norouse
  rw [← List.append_assoc]
  refine (ih (fun t c hc => nocall t c (by simp [hc])) norouse.1).snoc ?_ ?_ next
  · rintro t c rfl
    exact nocall t c (by simp)
  · rintro t rfl
    cases norouse.2

/-- Nobody makes a call in a cascade. -/
theorem Cascade.nocall (cascade : s.Cascade L αs s') (t : ThreadId) (c : Call K) :
    .call t c ∉ αs := by
  induction cascade with
  | nil => exact List.not_mem_nil
  | snoc before nocall due next ih =>
    rw [List.mem_append, List.mem_singleton]
    rintro (earlier | last)
    · exact ih earlier
    · exact nocall t c last.symm

/-- Only by a call does a thread become busy in a run. -/
theorem IsBusy.of_run? (busy : s'.IsBusy t) (run : s.run? L αs = some s')
    (nocall : ∀ c, .call t c ∉ αs) : s.IsBusy t := by
  refine run?_snoc_induction (P := fun αs u => (∀ c, .call t c ∉ αs) → u.IsBusy t → s.IsBusy t)
    (fun _ start => start) ?_ run nocall busy
  intro αs α u v before next ih nocall busy
  have earlier : ∀ c, .call t c ∉ αs := fun c hc => nocall c (by simp [hc])
  refine ih earlier (busy.of_next? next ?_)
  rintro c rfl
  exact nocall c (by simp)

/-- **No thread wakes twice because its deadline has come**, and who wakes so had a call under way
at the start. -/
theorem Cascade.nodup_rouses (cascade : s.Cascade L αs s') :
    (rouses αs).Nodup ∧ ∀ t ∈ rouses αs, s.IsBusy t ∧ s'.IsPast t := by
  induction cascade with
  | nil => exact ⟨List.nodup_nil, nofun⟩
  | @snoc αs α u v before nocall due next ih =>
    obtain ⟨nodup, past⟩ := ih
    have past' : ∀ t ∈ rouses αs, s.IsBusy t ∧ v.IsPast t := fun t ht =>
      ⟨(past t ht).1, (past t ht).2.of_next? next (nocall t)⟩
    rw [rouses_concat]
    cases α with
    | rouse t =>
      obtain ⟨busy, asleep, past₁⟩ := past_of_rouse (due t rfl) next
      have fresh : t ∉ rouses αs := fun ht => asleep (past t ht).2
      refine ⟨List.concat_eq_append ▸ nodup.concat fresh, fun w hw => ?_⟩
      obtain earlier | rfl := List.mem_append.1 hw |>.imp_right List.mem_singleton.1
      · exact past' w earlier
      · exact ⟨busy.of_run? before.run (before.nocall w), past₁⟩
    | _ => exact ⟨by simpa [Action.roused?] using nodup, by simpa [Action.roused?] using past'⟩

/-- **The potential in a run without calls**: every turn takes 1 off it, but for 5 at each wake-up
that is no notification. -/
theorem potential_of_run? (members : ∀ t, s.IsBusy t → t ∈ T) (run : s.run? L αs = some s')
    (nocall : ∀ t c, .call t c ∉ αs) :
    s'.potential T + (turns αs).length ≤ s.potential T + 5 * (rouses αs).length := by
  refine run?_snoc_induction (P := fun αs u => (∀ t c, .call t c ∉ αs) →
    u.potential T + (turns αs).length ≤ s.potential T + 5 * (rouses αs).length)
    (fun _ => le_rfl) ?_ run nocall
  intro αs α u v before next ih nocall
  have earlier : ∀ t c, .call t c ∉ αs := fun t c hc => nocall t c (by simp [hc])
  have last : ∀ t c, α ≠ .call t c := by
    rintro t c rfl
    exact nocall t c (by simp)
  have members' : ∀ t, u.IsBusy t → t ∈ T := fun t busy =>
    members t (busy.of_run? before (earlier t))
  have first := ih earlier
  have step := potential_of_next? members' last next
  rw [turns_concat, rouses_concat, List.length_append, List.length_append]
  omega

/-- A run without calls has a bounded number of turns for each number of wake-ups that are no
notifications. -/
theorem length_turns_le (members : ∀ t, s.IsBusy t → t ∈ T) (run : s.run? L αs = some s')
    (nocall : ∀ t c, .call t c ∉ αs) :
    (turns αs).length ≤ T.card * (5 * T.card + 25) + 5 * (rouses αs).length := by
  have bound := s.potential_le T
  have falls := potential_of_run? members run nocall
  omega

/-- **A cascade has a bounded number of turns.** -/
theorem Cascade.length_turns_le (cascade : s.Cascade L αs s') (members : ∀ t, s.IsBusy t → t ∈ T) :
    (turns αs).length ≤ T.card * (5 * T.card + 30) := by
  obtain ⟨nodup, past⟩ := cascade.nodup_rouses
  have once : (rouses αs).length ≤ T.card := by
    rw [← List.toFinset_card_of_nodup nodup]
    refine Finset.card_le_card fun t ht => ?_
    exact members t (past t (List.mem_toFinset.1 ht)).1
  calc (turns αs).length
      ≤ T.card * (5 * T.card + 25) + 5 * (rouses αs).length :=
        State.length_turns_le members cascade.run cascade.nocall
    _ ≤ T.card * (5 * T.card + 25) + 5 * T.card := by omega
    _ = T.card * (5 * T.card + 30) := by ring

/-! ## Rest -/

/-- Every call has returned, or is asleep and not notified. -/
def AtRest (s : State b K) : Prop :=
  ∀ t, (∃ last, s.activity t = .ready last) ∨ ∃ a m, s.IsAsleep t a m

/-- **Where no thread can take a step, all are at rest.** -/
theorem Reachable.atRest (reachable : Reachable L s) (stuck : ∀ t, ¬ s.CanStep L t) :
    s.AtRest := by
  intro t
  by_contra moving
  obtain ⟨busy, awake⟩ := not_or.1 moving
  refine stuck t (reachable.canStep ?_ ?_ ?_ ?_)
  · intro last ready
    exact busy ⟨last, ready⟩
  · intro a m wakeAt asleep
    exact awake ⟨a, m, wakeAt, asleep⟩
  · intro g m asks
    obtain self | ⟨u, m', -, other⟩ := reachable.progress asks
    · exact absurd self (stuck t)
    · exact absurd other (stuck u)
  · intro h asked
    cases inside : (s.holds.get h).mutex with
    | none => rfl
    | some u => exact absurd (reachable.canStep_of_mutex inside) (stuck u)

/-- At rest no thread has a turn, but for calls and for wake-ups that are no notifications. -/
theorem AtRest.turnOf?_eq_none (rest : s.AtRest) (next : s.next? L α = some s')
    (nocall : ∀ t c, α ≠ .call t c) (norouse : α.roused? = none) : α.turnOf? = none := by
  have stays : ∀ t, α.turnOf? ≠ some t := by
    intro t
    obtain ⟨last, ready⟩ | ⟨a, m, wakeAt, asleep⟩ := rest t
    · exact turnOf?_ne_of_ready next ready (nocall t)
    · cases α with
      | call u c => exact absurd rfl (nocall u c)
      | step u =>
        rintro ⟨⟩
        simp [next?, step?, acquireStep?, asleep] at next
      | expire u =>
        rintro ⟨⟩
        simp [next?, expire?, asleep] at next
      | rouse u => cases norouse
      | _ => simp [Action.turnOf?]
  cases hα : α.turnOf? with
  | none => rfl
  | some t => exact absurd hα (stays t)

/-- **Rest lasts**: everybody goes on doing what it does until somebody makes a call or its time is
up. -/
theorem AtRest.activity_of_run? (rest : s.AtRest) (run : s.run? L αs = some s')
    (nocall : ∀ t c, .call t c ∉ αs) (norouse : rouses αs = []) (t : ThreadId) :
    s'.activity t = s.activity t := by
  refine run?_snoc_induction (P := fun αs u => (∀ t c, .call t c ∉ αs) → rouses αs = [] →
    ∀ t, u.activity t = s.activity t) (fun _ _ _ => rfl) ?_ run nocall norouse t
  intro αs α u v before next ih nocall norouse t
  rw [rouses_concat, List.append_eq_nil_iff, Option.toList_eq_nil_iff] at norouse
  have same := ih (fun t c hc => nocall t c (by simp [hc])) norouse.1
  have rest' : u.AtRest := by
    intro w
    unfold IsAsleep
    rw [same w]
    exact rest w
  have last : ∀ w c, α ≠ .call w c := by
    rintro w c rfl
    exact nocall w c (by simp)
  have noturn := rest'.turnOf?_eq_none next last norouse.2
  rw [activity_of_turnOf?_eq_none next noturn, same t]

/-- From every reachable state rest can be reached by steps. -/
theorem Reachable.exists_atRest (reachable : Reachable L s) (members : ∀ t, s.IsBusy t → t ∈ T) :
    ∃ αs s', (∀ α ∈ αs, ∃ t, α = .step t) ∧ s.run? L αs = some s' ∧ s'.AtRest := by
  induction hn : s.potential T using Nat.strong_induction_on generalizing s with
  | _ n ih =>
    by_cases rest : s.AtRest
    · exact ⟨[], s, nofun, rfl, rest⟩
    · obtain ⟨t, s₁, next⟩ : ∃ t, s.CanStep L t := by
        by_contra stuck
        exact rest (reachable.atRest (not_exists.1 stuck))
      have nocall : ∀ u c, (.step t : Action K) ≠ .call u c := fun u c hc => by cases hc
      have falls := potential_of_next? members nocall next
      have less : s₁.potential T < n := by
        simp only [Action.turnOf?, Action.roused?, Option.toList_some, Option.toList_none,
          List.length_singleton, List.length_nil] at falls
        omega
      have members' : ∀ u, s₁.IsBusy u → u ∈ T := fun u busy =>
        members u (busy.of_next? next (nocall u))
      obtain ⟨αs, s', steps, run, rest'⟩ := ih _ less (reachable.next _ next) members' rfl
      refine ⟨.step t :: αs, s', ?_, run?_cons_eq_some.2 ⟨s₁, next, run⟩, rest'⟩
      intro α hα
      obtain rfl | hα := List.mem_cons.1 hα
      · exact ⟨t, rfl⟩
      · exact steps α hα

/-! ## Cascades without end -/

/-- A sequence of actions without end, and the states that they lead to, of which every beginning is
a cascade. -/
structure EndlessCascade (L : Layout K) (s : State b K) (σ : Nat → State b K)
    (α : Nat → Action K) : Prop where
  /-- The states begin with this one. -/
  start : σ 0 = s
  /-- Nobody makes a call. -/
  nocall : ∀ i t c, α i ≠ .call t c
  /-- Nobody wakes but because it is notified or because its deadline has come. -/
  due : ∀ i t, α i = .rouse t → (σ i).IsOverdue t
  /-- Every action leads from one state to the next. -/
  next : ∀ i, (σ i).next? L (α i) = some (σ (i + 1))

/-- The first actions of a sequence. -/
def beginning (β : Nat → Action K) (n : Nat) : List (Action K) := (List.range n).map β

omit [Key K] in
/-- A longer beginning has one more action. -/
theorem beginning_succ (β : Nat → Action K) (n : Nat) :
    beginning β (n + 1) = beginning β n ++ [β n] := by
  rw [beginning, List.range_succ, List.map_append, List.map_singleton, beginning]

section endless

variable {σ : Nat → State b K} {β : Nat → Action K}

/-- Every beginning of an endless cascade is a cascade. -/
theorem EndlessCascade.cascade (endless : s.EndlessCascade L σ β) (n : Nat) :
    s.Cascade L (beginning β n) (σ n) := by
  induction n with
  | zero =>
    rw [endless.start]
    exact .nil
  | succ n ih =>
    rw [beginning_succ]
    exact ih.snoc (endless.nocall n) (endless.due n) (endless.next n)

/-- **From some point on nothing happens** but that flags are set or cleared and time passes. -/
theorem EndlessCascade.exists_last (endless : s.EndlessCascade L σ β)
    (members : ∀ t, s.IsBusy t → t ∈ T) : ∃ n, ∀ i, n ≤ i → (β i).turnOf? = none := by
  -- The point at which most turns have been taken.
  obtain ⟨n, most⟩ : ∃ n, ∀ k,
      (turns (beginning β k)).length ≤ (turns (beginning β n)).length := by
    have bounded : BddAbove (Set.range fun k => (turns (beginning β k)).length) := by
      refine ⟨T.card * (5 * T.card + 30), ?_⟩
      rintro _ ⟨k, rfl⟩
      exact (endless.cascade k).length_turns_le members
    obtain ⟨n, hn⟩ := Nat.sSup_mem (Set.range_nonempty _) bounded
    exact ⟨n, fun k => (le_csSup bounded ⟨k, rfl⟩).trans hn.ge⟩
  refine ⟨n, fun i hi => ?_⟩
  have before : (turns (beginning β n)).length ≤ (turns (beginning β i)).length :=
    (((List.range_sublist.2 hi).map β).filterMap Action.turnOf?).length_le
  have after := most (i + 1)
  rw [beginning_succ, turns_concat, List.length_append] at after
  cases turn : (β i).turnOf? with
  | none => rfl
  | some t =>
    rw [turn, Option.toList_some, List.length_singleton] at after
    omega

/-- What goes on as long as somebody can take a step comes to rest, and stays there. -/
theorem EndlessCascade.exists_atRest (endless : s.EndlessCascade L σ β)
    (reachable : Reachable L s) (members : ∀ t, s.IsBusy t → t ∈ T)
    (goesOn : ∀ i t, (σ i).CanStep L t → ∃ j, i ≤ j ∧ (β j).turnOf? ≠ none) :
    ∃ n, (σ n).AtRest ∧ ∀ i, n ≤ i → ∀ t, (σ i).activity t = (σ n).activity t := by
  obtain ⟨n, last⟩ := endless.exists_last members
  refine ⟨n, ?_, fun i hi t => ?_⟩
  · refine (reachable.run (endless.cascade n).run).atRest fun t canStep => ?_
    obtain ⟨j, hj, turn⟩ := goesOn n t canStep
    exact turn (last j hj)
  · induction i, hi using Nat.le_induction with
    | base => rfl
    | succ i hi ih => exact (activity_of_turnOf?_eq_none (endless.next i) (last i hi) t).trans ih

end endless

/-! ## The threads with a call under way -/

/-- **Finitely many calls are under way** in a reachable state. -/
theorem Reachable.finite_isBusy (reachable : Reachable L s) : {t | s.IsBusy t}.Finite := by
  induction reachable with
  | initial =>
    refine Set.finite_empty.subset fun t busy => ?_
    exact busy none rfl
  | @next s s' α _ next ih =>
    cases α with
    | call w c =>
      refine (ih.insert w).subset fun t busy => ?_
      by_cases ht : t = w
      · exact .inl ht
      · refine .inr (IsBusy.of_next? busy next ?_)
        rintro c' ⟨⟩
        exact ht rfl
    | _ => exact ih.subset fun t busy => IsBusy.of_next? busy next nofun

/-- What is to be said of the cascades that start in a state, some threads having a call under way.
-/
structure CascadesEnd (L : Layout K) (s : State b K) (T : Finset ThreadId) : Prop where
  /-- These are the threads with a call under way. -/
  members : ∀ t, t ∈ T ↔ s.IsBusy t
  /-- A run in which nobody makes a call has a bounded number of turns for each number of wake-ups
  that are no notifications. -/
  bounded : ∀ αs s', s.run? L αs = some s' → (∀ t c, .call t c ∉ αs) →
    (turns αs).length ≤ T.card * (5 * T.card + 25) + 5 * (rouses αs).length
  /-- In a cascade no thread wakes twice but because it is notified. -/
  once : ∀ αs s', s.Cascade L αs s' → (rouses αs).Nodup
  /-- A cascade has a bounded number of turns. -/
  cascade : ∀ αs s', s.Cascade L αs s' → (turns αs).length ≤ T.card * (5 * T.card + 30)
  /-- A cascade without end has a last turn. -/
  last : ∀ σ β, s.EndlessCascade L σ β → ∃ n, ∀ i, n ≤ i → (β i).turnOf? = none
  /-- A cascade after which nobody can take a step has brought everybody to rest. -/
  rest : ∀ αs s', s.Cascade L αs s' → (∀ t, ¬ s'.CanStep L t) → s'.AtRest
  /-- So has one without end that goes on as long as somebody can take a step. -/
  endless : ∀ σ β, s.EndlessCascade L σ β →
    (∀ i t, (σ i).CanStep L t → ∃ j, i ≤ j ∧ (β j).turnOf? ≠ none) →
    ∃ n, (σ n).AtRest ∧ ∀ i, n ≤ i → ∀ t, (σ i).activity t = (σ n).activity t
  /-- Some steps of the threads bring everybody to rest. -/
  settles : ∃ αs s', (∀ α ∈ αs, ∃ t, α = .step t) ∧ s.run? L αs = some s' ∧ s'.AtRest
  /-- Who is at rest does what it does until somebody makes a call or its time is up. -/
  lasts : ∀ αs s' βs s'', s.run? L αs = some s' → s'.AtRest → s'.run? L βs = some s'' →
    (∀ t c, .call t c ∉ βs) → rouses βs = [] → ∀ t, s''.activity t = s'.activity t

/-- **Cascades end.** From every reachable state, whatever calls are under way, threads take only
so many turns as long as nobody makes a call, and nobody wakes but because it is notified or because
its deadline has come. In the end every call has returned or is asleep, and remains so. -/
theorem Reachable.cascadesEnd (reachable : Reachable L s) : ∃ T, s.CascadesEnd L T := by
  have finite := reachable.finite_isBusy
  have members : ∀ t, t ∈ finite.toFinset ↔ s.IsBusy t := fun t => finite.mem_toFinset
  have busy : ∀ t, s.IsBusy t → t ∈ finite.toFinset := fun t => (members t).2
  refine ⟨finite.toFinset, ?_⟩
  exact {
    members := members
    bounded := fun αs s' run nocall => length_turns_le busy run nocall
    once := fun αs s' cascade => cascade.nodup_rouses.1
    cascade := fun αs s' cascade => cascade.length_turns_le busy
    last := fun σ β endless => endless.exists_last busy
    rest := fun αs s' cascade stuck => (reachable.run cascade.run).atRest stuck
    endless := fun σ β endless goesOn => endless.exists_atRest reachable busy goesOn
    settles := reachable.exists_atRest busy
    lasts := fun αs s' βs s'' _ rest run nocall norouse t =>
      rest.activity_of_run? run nocall norouse t }

/-- A run after which a writer sleeps until a reader leaves or a time is up, and another reader
sleeps until the writer is through. -/
def sleepersBehindHastyWriter : List (Action Nat) :=
  Action.follow 0 (.acquire ⟨0, .read⟩ { manner := .lock }) 13
    ++ Action.follow 1 (.acquire ⟨1, .write⟩ { manner := .tryLockFor ⟨0, 5, by decide⟩ }) 12
    ++ Action.follow 2 (.acquire ⟨1, .read⟩ { manner := .lock }) 7

/-- What happens then when the time is up: the writer withdraws its claim, and the reader wakes and
gets its half. -/
def writerGivesUp : List (Action Nat) :=
  [.pass 5, .rouse 1] ++ (List.replicate 10 (.step 1) ++ List.replicate 11 (.step 2))

/-- Two sleepers behind a writer that gives up are among the threads whose cascade ends. -/
theorem cascadesEnd_sleepersBehindHastyWriter :
    (finish .threeLocks sleepersBehindHastyWriter : State .hash Nat).Cascade .threeLocks
        writerGivesUp (finish .threeLocks (sleepersBehindHastyWriter ++ writerGivesUp)) ∧
      ∃ T, (finish .threeLocks sleepersBehindHastyWriter : State .hash Nat).CascadesEnd
        .threeLocks T ∧ 1 ∈ T ∧ 2 ∈ T := by
  obtain ⟨T, ends⟩ := (reachable_finish (b := .hash) (L := .threeLocks)
    sleepersBehindHastyWriter).cascadesEnd
  have writer : (finish .threeLocks sleepersBehindHastyWriter : State .hash Nat).activity 1 =
      .acquiring ⟨⟨1, .write⟩, { manner := .tryLockFor ⟨0, 5, by decide⟩ }, .bounded 5⟩
        (.asleep .holder false (some 5)) := by
    decide +kernel
  have reader : (finish .threeLocks sleepersBehindHastyWriter : State .hash Nat).activity 2 =
      .acquiring ⟨⟨1, .read⟩, { manner := .lock }, .endless⟩ (.asleep .owner false none) := by
    decide +kernel
  refine ⟨?_, T, ends, (ends.members 1).2 fun last ready => ?_,
    (ends.members 2).2 fun last ready => ?_⟩
  · have waited : (finish .threeLocks sleepersBehindHastyWriter : State .hash Nat).Cascade
        .threeLocks [.pass 5] (finish .threeLocks (sleepersBehindHastyWriter ++ [.pass 5])) :=
      Cascade.nil.snoc nofun nofun (by decide +kernel)
    have late : (finish .threeLocks (sleepersBehindHastyWriter ++ [.pass 5]) :
        State .hash Nat).IsOverdue 1 :=
      ⟨⟨⟨1, .write⟩, { manner := .tryLockFor ⟨0, 5, by decide⟩ }, .bounded 5⟩,
        .asleep .holder false (some 5), 5, by decide +kernel, rfl, by decide +kernel⟩
    have woken : (finish .threeLocks sleepersBehindHastyWriter : State .hash Nat).Cascade
        .threeLocks [.pass 5, .rouse 1]
        (finish .threeLocks (sleepersBehindHastyWriter ++ [.pass 5, .rouse 1])) := by
      refine waited.snoc nofun ?_ (by decide +kernel)
      rintro t ⟨⟩
      exact late
    refine woken.append (by decide +kernel) ?_ (by decide)
    intro t c hc
    simp at hc
  · rw [writer] at ready
    cases ready
  · rw [reader] at ready
    cases ready

end State

end ResourceLocks.Protocol
