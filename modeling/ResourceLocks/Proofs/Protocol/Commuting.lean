import ResourceLocks.Proofs.Ledger.Likeness
import ResourceLocks.Proofs.Protocol.Failure
import ResourceLocks.Proofs.Protocol.Granting

/-!
# Operations that commute

An attempt to acquire a half without waiting and a release (`Operation`) can always be performed
where no thread is in the middle of anything (`State.IsIdle`). What they do there is a matter of
holds alone:

* **Two questions decide what an operation comes to**: whether its thread holds the half, and
  whether the half is free (`Operation.outcome`, `State.Reachable.completes`). It changes that one
  hold and no other (`State.Changes`).
* **Idle states with the same holds have the same ledgers**
  (`State.Reachable.alikeRecords`): by the invariant, a claim or a count is there because of a
  half that is held.

So independent operations (`Operation.Independent`) on different holds commute
(`State.Reachable.commutes`): neither of them makes a difference to what the other one asks, and
afterwards the holds are the same in both orders.
-/

namespace ResourceLocks.Protocol

variable {b : Backing} {K : Type} [Key K]

/-! ## Operations -/

/-- An operation on a half that does not wait. -/
inductive Operation where
  /-- Acquire the half if it is free. -/
  | tryLock (h : Half)
  /-- Release the half. -/
  | unlock (h : Half)
  deriving DecidableEq

/-- What an operation makes of the hold of its thread. -/
inductive Change where
  /-- There is a hold. -/
  | gain
  /-- There is no hold. -/
  | lose
  /-- The hold stays as it is. -/
  | keep
  deriving DecidableEq

/-- Whether there is a hold after a change. -/
def Change.after (c : Change) (before : Prop) : Prop :=
  match c with
  | gain => True
  | lose => False
  | keep => before

namespace Operation

/-- The half that is operated on. -/
def half : Operation → Half
  | tryLock h | unlock h => h

/-- The call. -/
def call : Operation → Call K
  | tryLock h => .acquire h { manner := .tryLock }
  | unlock h => .unlock h

/-- What an operation replies and changes, by whether its thread holds the half and whether the half
is free. -/
def outcome (held free : Bool) : Operation → Reply × Change
  | tryLock h =>
    if held then (.failed (.alreadyHeld h.kind), .keep)
    else if free then (.answer true, .gain)
    else (.answer false, .keep)
  | unlock h => if held then (.done, .lose) else (.failed (.notHeld h.kind), .keep)

/-- The halves have no resource in common, or both are read halves, or both are released. -/
def Independent (L : Layout K) (op op' : Operation) : Prop :=
  (∀ r ∈ L.resources op.half, r ∉ L.resources op'.half) ∨
  (op.half.kind = .read ∧ op'.half.kind = .read) ∨
  ∃ h h', op = .unlock h ∧ op' = .unlock h'

/-- Independence does not depend on which operation comes first. -/
theorem Independent.symm {L : Layout K} {op op' : Operation} (independent : Independent L op op') :
    Independent L op' op := by
  obtain apart | ⟨read, read'⟩ | ⟨h, h', rfl, rfl⟩ := independent
  · exact .inl fun r hr' hr => apart r hr hr'
  · exact .inr (.inl ⟨read', read⟩)
  · exact .inr (.inr ⟨h', h, rfl, rfl⟩)

end Operation

namespace State

variable {L : Layout K} {s s' u v : State b K} {t t' w : ThreadId} {h h' : Half} {c : Change}
  {op op' : Operation} {αs : List (Action K)} {reply : Reply}

/-! ## Idle states -/

/-- No thread is in the middle of anything. -/
def IsIdle (s : State b K) : Prop := ∀ t, ∃ last, s.activity t = .ready last

/-- At the start no call is under way. -/
theorem isIdle_initial : (initial : State b K).IsIdle := fun _ => ⟨none, rfl⟩

/-- Where no thread is in the middle of anything, what is on record is held. -/
theorem IsIdle.onRecord_iff (idle : s.IsIdle) : s.OnRecord h t ↔ s.IsHeldBy h t := by
  obtain ⟨last, ready⟩ := idle t
  have nothing : (s.activity t).pending? ≠ some h := by
    rw [ready]
    exact nofun
  exact or_iff_left nothing

/-- Nobody is inside a monitor or a mutex then. -/
theorem Invariant.isClear (inv : s.Invariant L) (idle : s.IsIdle) (h : Half) : s.IsClear L h := by
  constructor
  · intro m
    rw [Option.eq_none_iff_forall_ne_some]
    intro t inside
    obtain ⟨last, ready⟩ := idle t
    rw [inv.inside_iff, ready] at inside
    exact inside
  · rw [Option.eq_none_iff_forall_ne_some]
    intro t inside
    obtain ⟨last, ready⟩ := idle t
    rw [inv.mutex_iff, ready] at inside
    cases inside

/-- A thread that performs a call leaves all others where they are. -/
theorem Performs.isIdle {call : Call K} (performs : s.Performs L t call αs s' reply)
    (idle : s.IsIdle) : s'.IsIdle := by
  intro w
  by_cases hw : w = t
  · exact ⟨some reply, hw ▸ performs.returned⟩
  · have others : ∀ α ∈ Action.call t call :: αs, ∀ c, α ≠ .call w c := by
      rintro α hα c rfl
      obtain hα | hα := List.mem_cons.1 hα
      · cases hα
        exact hw rfl
      · exact performs.own _ hα
    refine run?_snoc_induction (P := fun αs u => (∀ α ∈ αs, ∀ c, α ≠ .call w c) →
      ∃ last, u.activity w = .ready last) (fun _ => idle w) ?_ performs.run others
    intro αs α u v _ next ih others
    obtain ⟨last, ready⟩ := ih fun α hα => others α (List.mem_append_left _ hα)
    exact ⟨last, next?_of_ready next ready (others α (by simp))⟩

/-! ### The records of idle states -/

/-- The same is found in all records. -/
structure AlikeRecords (s s' : State b K) : Prop where
  /-- Every resource has the same owner. -/
  owners : ∀ g, (s'.registries.get g).owners.Alike (s.registries.get g).owners
  /-- Every thread has the same count of holds on every resource, and the same resources and threads
  have entries. -/
  holders : ∀ g, (s'.registries.get g).holders.SameCounts (s.registries.get g).holders
  /-- The same threads hold each half. -/
  held : ∀ h t, s'.IsHeldBy h t ↔ s.IsHeldBy h t

/-- **Idle states with the same holds have the same ledgers.** -/
theorem Reachable.alikeRecords (reachable : Reachable L s) (reachable' : Reachable L s')
    (idle : s.IsIdle) (idle' : s'.IsIdle) (held : ∀ h t, s'.IsHeldBy h t ↔ s.IsHeldBy h t) :
    s.AlikeRecords s' := by
  have inv := reachable.invariant
  have inv' := reachable'.invariant
  have recorded : ∀ h t, s'.OnRecord h t ↔ s.OnRecord h t := by
    intro h t
    rw [idle.onRecord_iff, idle'.onRecord_iff, held]
  refine ⟨fun g r => ?_, fun g => ?_, held⟩
  · have owner : s'.owner? g r = s.owner? g r := by
      ext t
      rw [inv.owner_iff, inv'.owner_iff]
      simp only [recorded]
    exact owner
  · refine (inv'.tidy g).sameCounts (inv.tidy g) fun r t => ?_
    have shares : s'.shares L g r t = s.shares L g r t := by
      ext h
      exact and_congr_right fun _ => recorded h t
    have count := inv.count g r t
    rw [← shares, ← inv'.count g r t] at count
    exact_mod_cast count.symm

/-! ## What operations come to -/

/-- Nothing stands in the way of the half in the ledgers. -/
def isFreeFor (L : Layout K) (s : State b K) (h : Half) : Bool :=
  (s.registries.get (L.registry h)).owners.isFree (L.resources h).items &&
    (h.kind = .read || (s.registries.get (L.registry h)).holders.isFree (L.resources h).items)

/-- The resources of a half are found free exactly if the half can be granted. -/
theorem Invariant.isFreeFor_iff (inv : s.Invariant L) :
    s.isFreeFor L h = true ↔ s.Grantable L h := by
  rw [inv.grantable_iff, isFreeFor, Bool.and_eq_true]
  refine and_congr_right fun _ => ?_
  cases hk : h.kind <;> simp

/-- What an operation of a thread comes to. -/
def outcome (L : Layout K) (s : State b K) (t : ThreadId) (op : Operation) : Reply × Change :=
  op.outcome (decide (s.IsHeldBy op.half t)) (s.isFreeFor L op.half)

/-- The hold of a thread has changed, and no other. -/
def Changes (s : State b K) (t : ThreadId) (h : Half) (c : Change) (s' : State b K) : Prop :=
  ∀ h' w, s'.IsHeldBy h' w ↔
    if h' = h ∧ w = t then c.after (s.IsHeldBy h t) else s.IsHeldBy h' w

/-- What an operation does to its own half. -/
theorem Changes.own (changes : s.Changes t h c s') :
    s'.IsHeldBy h t ↔ c.after (s.IsHeldBy h t) := by
  rw [changes, if_pos ⟨rfl, rfl⟩]

/-- What it does to other halves and other threads, which is nothing. -/
theorem Changes.other (changes : s.Changes t h c s') (other : (h', w) ≠ (h, t)) :
    s'.IsHeldBy h' w ↔ s.IsHeldBy h' w := by
  rw [changes, if_neg]
  rintro ⟨rfl, rfl⟩
  exact other rfl

/-- Gaining a half is a change of that half. -/
theorem Gains.changes (gains : s.Gains L t h s') : s.Changes t h .gain s' := by
  intro h' w
  rw [gains.held]
  split
  · rename_i same
    exact iff_of_true (.inl same) trivial
  · rename_i other
    exact or_iff_right other

/-- Losing a half is a change of that half. -/
theorem Loses.changes (loses : s.Loses L t h s') : s.Changes t h .lose s' := by
  intro h' w
  rw [loses.held]
  split
  · rename_i same
    exact iff_of_false (fun held => held.1 same) id
  · rename_i other
    exact and_iff_right other

/-- Where the records stay the same the half is kept as it was. -/
theorem SameRecords.changes (same : s.SameRecords s') : s.Changes t h .keep s' := by
  intro h' w
  rw [same.held]
  split
  · rename_i own
    rw [own.1, own.2]
    exact Iff.rfl
  · exact Iff.rfl

/-- **An operation completes with its outcome** where no thread is in the middle of anything. -/
theorem Reachable.completes (reachable : Reachable L s) (idle : s.IsIdle) (t : ThreadId)
    (op : Operation) : ∃ es, s.Completes L t op.call es (s.outcome L t op).1 ∧
      ∀ nanos, s.Changes t op.half (s.outcome L t op).2
        (Effect.applyAll L t (s.later nanos) es) := by
  have inv := reachable.invariant
  obtain ⟨last, ready⟩ := idle t
  have clear := inv.isClear idle op.half
  cases op with
  | tryLock h =>
    have heedless : ¬ s.Heeds t ⟨h, { manner := .tryLock }, .immediate⟩ :=
      fun heeds => nomatch heeds.1
    by_cases held : s.IsHeldBy h t
    · have outcome : s.outcome L t (.tryLock h) = (.failed (.alreadyHeld h.kind), .keep) := by
        simp [State.outcome, Operation.outcome, Operation.half, held]
      rw [outcome]
      refine ⟨_, (Solo.alreadyHeld (a := ⟨h, { manner := .tryLock }, .immediate⟩) clear.mutex
        held).completes ready, fun nanos => ?_⟩
      exact (Solo.sameRecords_looking (s := s.later nanos)).changes
    by_cases free : s.isFreeFor L h = true
    · have outcome : s.outcome L t (.tryLock h) = (.answer true, .gain) := by
        simp [State.outcome, Operation.outcome, Operation.half, held, free]
      rw [outcome]
      obtain ⟨unowned, unshared⟩ := inv.grantable_iff.1 (inv.isFreeFor_iff.1 free)
      refine ⟨_, (Solo.granted (a := ⟨h, { manner := .tryLock }, .immediate⟩) clear held heedless
        unowned unshared).completes ready, fun nanos => ?_⟩
      exact (Solo.gains_granting (s := s.later nanos)).changes
    · have outcome : s.outcome L t (.tryLock h) = (.answer false, .keep) := by
        simp [State.outcome, Operation.outcome, Operation.half, held, free]
      rw [outcome]
      obtain ⟨es, completes, same⟩ := reachable.exists_refusing clear ready held
        (mt inv.isFreeFor_iff.2 free)
      refine ⟨es, completes { manner := .tryLock } trivial heedless, fun nanos => ?_⟩
      exact (same nanos).changes
  | unlock h =>
    by_cases held : s.IsHeldBy h t
    · have outcome : s.outcome L t (.unlock h) = (.done, .lose) := by
        simp [State.outcome, Operation.outcome, Operation.half, held]
      rw [outcome]
      refine ⟨_, (Solo.released clear held).completes ready, fun nanos => ?_⟩
      exact (Solo.loses_releasing (s := s.later nanos)).changes
    · have outcome : s.outcome L t (.unlock h) = (.failed (.notHeld h.kind), .keep) := by
        simp [State.outcome, Operation.outcome, Operation.half, held]
      rw [outcome]
      refine ⟨_, (Solo.notHeld clear.mutex held).completes ready, fun nanos => ?_⟩
      exact (Solo.sameRecords_looking (s := s.later nanos)).changes

/-- What is to be said of an operation that has been performed. -/
structure Operated (L : Layout K) (s : State b K) (t : ThreadId) (op : Operation) (reply : Reply)
    (s' : State b K) : Prop where
  /-- The state after it is reachable. -/
  reachable : Reachable L s'
  /-- No thread is in the middle of anything. -/
  idle : s'.IsIdle
  /-- The reply is that of the outcome. -/
  reply : reply = (s.outcome L t op).1
  /-- The hold is that of the outcome. -/
  changes : s.Changes t op.half (s.outcome L t op).2 s'

/-- An operation that is performed in an idle state does what it should. -/
theorem Performs.operated (performs : s.Performs L t op.call αs s' reply)
    (reachable : Reachable L s) (idle : s.IsIdle) : s.Operated L t op reply s' := by
  obtain ⟨es, completes, changes⟩ := reachable.completes idle t op
  obtain ⟨same, after⟩ := completes.eq performs
  refine ⟨reachable.run performs.run, performs.isIdle idle, same, ?_⟩
  have changes := changes (Action.elapsed αs)
  rw [after]
  exact changes

/-! ## Operations in two orders -/

/-- A change of a hold over no resource of a half, or of a read half while the other is one too, is
none to the question whether that half is free. -/
theorem Changes.isFreeFor_eq (changes : s.Changes t' h' c s') (inv : s.Invariant L)
    (inv' : s'.Invariant L) (idle : s.IsIdle) (idle' : s'.IsIdle)
    (apart : (∀ r ∈ L.resources h, r ∉ L.resources h') ∨ (h.kind = .read ∧ h'.kind = .read)) :
    s'.isFreeFor L h = s.isFreeFor L h := by
  have other : ∀ {x w}, x ≠ h' → (s'.OnRecord x w ↔ s.OnRecord x w) := by
    intro x w hx
    rw [idle.onRecord_iff, idle'.onRecord_iff]
    exact changes.other fun same => hx (congrArg Prod.fst same)
  rw [Bool.eq_iff_iff, inv.isFreeFor_iff, inv'.isFreeFor_iff]
  refine forall₂_congr fun r hr => and_congr (not_congr ?_) ?_
  · refine exists₂_congr fun x w => and_congr_right fun covers => other ?_
    rintro rfl
    obtain apart | ⟨-, read⟩ := apart
    · exact apart r hr covers.2.2
    · cases covers.1.symm.trans read
  · refine forall_congr' fun write => not_congr ?_
    refine exists₂_congr fun x w => and_congr_right fun covers => other ?_
    rintro rfl
    obtain apart | ⟨read, -⟩ := apart
    · exact apart r hr covers.2.2
    · cases write.symm.trans read

/-- **An independent operation on another hold makes no difference** to what an operation comes
to. -/
theorem Operated.outcome_eq (operated : s.Operated L t' op' reply s') (reachable : Reachable L s)
    (idle : s.IsIdle) (distinct : (op.half, t) ≠ (op'.half, t'))
    (independent : op.Independent L op') : s'.outcome L t op = s.outcome L t op := by
  have held : decide (s'.IsHeldBy op.half t) = decide (s.IsHeldBy op.half t) := by
    rw [decide_eq_decide]
    exact operated.changes.other distinct
  have free := operated.changes.isFreeFor_eq (h := op.half) reachable.invariant
    operated.reachable.invariant idle operated.idle
  obtain apart | reads | ⟨h, h', rfl, rfl⟩ := independent
  · rw [outcome, outcome, held, free (.inl apart)]
  · rw [outcome, outcome, held, free (.inr reads)]
  · rw [outcome, outcome, held]
    rfl

/-- Two operations performed one after the other, with their replies. -/
def PerformsBoth (L : Layout K) (s : State b K) (t : ThreadId) (op : Operation) (t' : ThreadId)
    (op' : Operation) (s' : State b K) (reply reply' : Reply) : Prop :=
  ∃ αs u αs', s.Performs L t op.call αs u reply ∧ u.Performs L t' op'.call αs' s' reply'

/-- What is to be said of two operations that may be performed in either order. -/
structure Commutes (L : Layout K) (s : State b K) (t : ThreadId) (op : Operation) (t' : ThreadId)
    (op' : Operation) : Prop where
  /-- They can be performed in one order. -/
  forwards : ∃ v reply reply', s.PerformsBoth L t op t' op' v reply reply'
  /-- They can be performed in the other order. -/
  backwards : ∃ v reply reply', s.PerformsBoth L t' op' t op v reply' reply
  /-- Each of them has the same result in both orders. -/
  results : ∀ v v' r r' q q', s.PerformsBoth L t op t' op' v r r' →
    s.PerformsBoth L t' op' t op v' q' q → q = r ∧ q' = r'
  /-- The records are the same after both orders. -/
  records : ∀ v v' r r' q q', s.PerformsBoth L t op t' op' v r r' →
    s.PerformsBoth L t' op' t op v' q' q → v.AlikeRecords v'

/-- Two operations can be performed one after the other. -/
theorem Reachable.exists_performsBoth (reachable : Reachable L s) (idle : s.IsIdle)
    (t t' : ThreadId) (op op' : Operation) :
    ∃ v reply reply', s.PerformsBoth L t op t' op' v reply reply' := by
  obtain ⟨es, completes, -⟩ := reachable.completes idle t op
  obtain ⟨αs, u, performs⟩ := completes.exists_performs
  obtain ⟨es', completes', -⟩ :=
    (reachable.run performs.run).completes (performs.isIdle idle) t' op'
  obtain ⟨αs', v, performs'⟩ := completes'.exists_performs
  exact ⟨v, _, _, αs, u, αs', performs, performs'⟩

/-- What two independent operations on different holds come to, performed one after the other. -/
structure OperatedBoth (L : Layout K) (s : State b K) (t : ThreadId) (op : Operation)
    (t' : ThreadId) (op' : Operation) (s' : State b K) (reply reply' : Reply) : Prop where
  /-- The state after them is reachable. -/
  reachable : Reachable L s'
  /-- No thread is in the middle of anything. -/
  idle : s'.IsIdle
  /-- The first reply is that of the outcome before both. -/
  reply : reply = (s.outcome L t op).1
  /-- The second reply is that of the outcome before both as well. -/
  reply' : reply' = (s.outcome L t' op').1
  /-- The first hold is that of the outcome. -/
  held : s'.IsHeldBy op.half t ↔ (s.outcome L t op).2.after (s.IsHeldBy op.half t)
  /-- The second hold is that of the outcome. -/
  held' : s'.IsHeldBy op'.half t' ↔ (s.outcome L t' op').2.after (s.IsHeldBy op'.half t')
  /-- All other holds are as they were. -/
  others : ∀ h w, (h, w) ≠ (op.half, t) → (h, w) ≠ (op'.half, t') →
    (s'.IsHeldBy h w ↔ s.IsHeldBy h w)

/-- Two independent operations that are performed one after the other do what each would alone. -/
theorem PerformsBoth.operatedBoth {reply' : Reply}
    (performs : s.PerformsBoth L t op t' op' s' reply reply') (reachable : Reachable L s)
    (idle : s.IsIdle) (distinct : (op.half, t) ≠ (op'.half, t'))
    (independent : op.Independent L op') :
    s.OperatedBoth L t op t' op' s' reply reply' := by
  obtain ⟨αs, u, αs', first, second⟩ := performs
  have first := first.operated reachable idle
  have second := second.operated first.reachable first.idle
  have same := first.outcome_eq reachable idle distinct.symm independent.symm
  refine ⟨second.reachable, second.idle, first.reply, same ▸ second.reply, ?_, ?_, ?_⟩
  · rw [second.changes.other distinct, first.changes.own]
  · rw [second.changes.own, same]
    have before := first.changes.other distinct.symm
    cases (s.outcome L t' op').2 <;> simp only [Change.after, before]
  · intro h w one two
    rw [second.changes.other two, first.changes.other one]

/-- **Independent operations on different holds commute** in every reachable state in which no
thread is in the middle of anything. -/
theorem Reachable.commutes (reachable : Reachable L s) (idle : s.IsIdle)
    (distinct : (op.half, t) ≠ (op'.half, t')) (independent : op.Independent L op') :
    s.Commutes L t op t' op' := by
  have both : ∀ {v r r'}, s.PerformsBoth L t op t' op' v r r' →
      s.OperatedBoth L t op t' op' v r r' :=
    fun performs => performs.operatedBoth reachable idle distinct independent
  have swapped : ∀ {v q' q}, s.PerformsBoth L t' op' t op v q' q →
      s.OperatedBoth L t' op' t op v q' q :=
    fun performs => performs.operatedBoth reachable idle distinct.symm independent.symm
  constructor
  · exact reachable.exists_performsBoth idle t t' op op'
  · obtain ⟨v, q', q, performs⟩ := reachable.exists_performsBoth idle t' t op' op
    exact ⟨v, q, q', performs⟩
  · intro v v' r r' q q' one two
    have one := both one
    have two := swapped two
    exact ⟨two.reply'.trans one.reply.symm, two.reply.trans one.reply'.symm⟩
  · intro v v' r r' q q' one two
    have one := both one
    have two := swapped two
    refine one.reachable.alikeRecords two.reachable one.idle two.idle fun h w => ?_
    by_cases own : (h, w) = (op.half, t)
    · cases own
      rw [two.held', one.held]
    by_cases own' : (h, w) = (op'.half, t')
    · cases own'
      rw [two.held, one.held']
    · rw [two.others h w own' own, one.others h w own own']

/-- A writer that is refused because of a reader, and another one that is not. -/
theorem commutes_refusedInDrain :
    (((⟨1, .write⟩, 1) : Half × ThreadId) ≠ (⟨2, .write⟩, 0) ∧
      (Operation.tryLock ⟨1, .write⟩).Independent .threeLocks (.tryLock ⟨2, .write⟩)) ∧
    (finish .threeLocks oneReader : State .hash Nat).Commutes .threeLocks 1 (.tryLock ⟨1, .write⟩)
      0 (.tryLock ⟨2, .write⟩) ∧
    (finish .threeLocks oneReader : State .hash Nat).outcome .threeLocks 1
      (.tryLock ⟨1, .write⟩) = (.answer false, .keep) ∧
    (finish .threeLocks oneReader : State .hash Nat).outcome .threeLocks 0
      (.tryLock ⟨2, .write⟩) = (.answer true, .gain) := by
  have idle : (finish .threeLocks oneReader : State .hash Nat).IsIdle := by
    have performs : (initial : State .hash Nat).Performs .threeLocks 0
        (.acquire ⟨0, .read⟩ { manner := .lock }) (List.replicate 13 (.step 0))
        (finish .threeLocks oneReader) .done := {
      own := by
        intro α hα
        rw [List.eq_of_mem_replicate hα]
        rfl
      run := by decide +kernel
      returned := by decide +kernel }
    exact performs.isIdle isIdle_initial
  have independent : (Operation.tryLock ⟨1, .write⟩).Independent .threeLocks
      (.tryLock ⟨2, .write⟩) :=
    .inl (by decide +kernel)
  exact ⟨⟨by decide, independent⟩,
    (reachable_finish oneReader).commutes idle (by decide) independent,
    by decide +kernel, by decide +kernel⟩

end State

end ResourceLocks.Protocol
