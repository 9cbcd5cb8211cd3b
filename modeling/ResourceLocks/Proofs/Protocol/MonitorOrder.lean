import Mathlib.Logic.Relation
import ResourceLocks.Proofs.Protocol.Run

/-!
# The order of the monitors

A thread may be inside two monitors at once, and then it has entered the holder monitor from inside
the owner monitor. A writer that could not drain needs the owner monitor again, but only after it
has left the holder monitor. The mutex of a hold set is entered outside all monitors and left before
any. `State.Reachable.monitorsOrdered` says so for every reachable state, and what follows from it.

* A thread **asks for** a monitor or a mutex when its next step is to enter it (`Activity.AsksFor`,
  `Activity.mutexAsked?`). A step that enters a monitor is taken by a thread that asks for it
  (`State.Turn.asksFor_of_enter`), and a thread is kept from its next step only by being asleep or
  by somebody inside what it asks for (`State.canStep`).
* **Descent** (`Activity.AsksFor.descends`): who asks for a monitor while inside another one is
  inside the owner monitor and asks for the holder monitor of the same registry.
* So whoever is inside a holder monitor or a mutex can take a step, and who is inside an owner
  monitor has at most the thread inside the holder monitor before it: some thread can always go on,
  and no threads wait in a circle.
-/

namespace ResourceLocks.Protocol

variable {b : Backing} {K : Type} [Key K]

/-! ## What a thread asks for -/

namespace AcquireStage

/-- The thread is about to enter a monitor. -/
def asksFor : AcquireStage → Monitor → Bool
  | entering m, m' | woken m, m' => m' = m
  | returning _, m' => m' = .owner
  | _, _ => false

/-- The thread is about to enter the mutex of the hold set. -/
def asksForMutex : AcquireStage → Bool
  | begin | joining => true
  | _ => false

end AcquireStage

/-- The question is in a stage in which its kind can be. -/
def Query.Fits (q : Query K) : QueryStage → Prop
  | .descending => ∃ g, q.LooksIn g .owner ∧ q.LooksIn g .holder
  | .leavingHolder _ => ∃ g, q.LooksIn g .holder
  | .leavingOwner _ => ∃ g, q.LooksIn g .owner
  | .begin | .reading => True

namespace Activity

/-- The thread is about to enter a monitor of a registry. -/
def AsksFor (L : Layout K) (A : Activity K) (g : RegistryId) (m : Monitor) : Prop :=
  match A with
  | .ready _ => False
  | .acquiring a stage => L.registry a.half = g ∧ stage.asksFor m = true
  | .releasing r stage => L.registry r.half = g ∧ m = .ofKind r.half.kind ∧ stage = .entering
  | .asking q stage => q.LooksIn g m ∧
    (stage = .begin ∧ (m = .owner ∨ ¬ q.LooksIn g .owner) ∨ stage = .descending ∧ m = .holder)

omit [Key K] in
/-- The half whose mutex the thread is about to enter. -/
def mutexAsked? : Activity K → Option Half
  | .acquiring a stage => if stage.asksForMutex then some a.half else none
  | .releasing r .begin => some r.half
  | .asking (.isHeld h) .begin => some h
  | _ => none

/-- A question is in a stage in which its kind can be. -/
def AsksFittingly : Activity K → Prop
  | .asking q stage => q.Fits stage
  | _ => True

variable {L : Layout K} {A : Activity K} {g g' : RegistryId} {m m' : Monitor} {h : Half}

/-- A thread asks for one monitor at a time. -/
theorem AsksFor.unique (asks : A.AsksFor L g m) (asks' : A.AsksFor L g' m') : g' = g ∧ m' = m := by
  cases A with
  | ready last => cases asks
  | acquiring a stage =>
    obtain ⟨rfl, hm⟩ := asks
    obtain ⟨rfl, hm'⟩ := asks'
    refine ⟨rfl, ?_⟩
    cases stage with
    | entering m₀ | woken m₀ | returning v =>
      exact (of_decide_eq_true hm').trans (of_decide_eq_true hm).symm
    | _ => cases hm
  | releasing r stage =>
    obtain ⟨rfl, rfl, -⟩ := asks
    obtain ⟨rfl, rfl, -⟩ := asks'
    exact ⟨rfl, rfl⟩
  | asking q stage =>
    obtain ⟨looks, hstage⟩ := asks
    obtain ⟨looks', hstage'⟩ := asks'
    refine ⟨looks'.registry_eq looks, ?_⟩
    obtain ⟨rfl, first⟩ | ⟨rfl, rfl⟩ := hstage
    · obtain ⟨-, first'⟩ | ⟨hne, -⟩ := hstage'
      · cases m <;> cases m' <;> simp_all [looks'.registry_eq looks]
      · cases hne
    · obtain ⟨hne, -⟩ | ⟨-, rfl⟩ := hstage'
      · cases hne
      · rfl

/-- **Descent**: who asks for a monitor while inside another one goes from the owner monitor to the
holder monitor of the same registry. -/
theorem AsksFor.descends (asks : A.AsksFor L g' m') (fits : A.Fits) (inside : A.IsInside L g m) :
    g' = g ∧ m = .owner ∧ m' = .holder := by
  cases A with
  | ready last => cases asks
  | acquiring a stage =>
    obtain ⟨rfl, hm'⟩ := asks
    obtain ⟨rfl, hm⟩ := inside
    cases stage with
    | entering m₀ =>
      obtain rfl := of_decide_eq_true hm'
      obtain ⟨-, rfl, rfl⟩ := AcquireStage.isBehind_iff.1 hm
      exact ⟨rfl, rfl, rfl⟩
    | woken m₀ =>
      rw [AcquireStage.isInside_woken fits] at hm
      cases hm
    | returning v => cases hm
    | _ => cases hm'
  | releasing r stage =>
    obtain ⟨-, -, rfl⟩ := asks
    obtain ⟨-, -, hne | hne⟩ := inside <;> cases hne
  | asking q stage =>
    obtain ⟨looks', ⟨rfl, -⟩ | ⟨rfl, rfl⟩⟩ := asks
    · obtain ⟨-, hm⟩ := inside
      cases m <;> cases hm
    · obtain ⟨looks, hm⟩ := inside
      refine ⟨looks'.registry_eq looks, ?_, rfl⟩
      cases m with
      | owner => rfl
      | holder => cases hm

/-- Who asks for a monitor asks for no mutex. -/
theorem AsksFor.mutexAsked? (asks : A.AsksFor L g m) : A.mutexAsked? = none := by
  cases A with
  | ready last => rfl
  | acquiring a stage =>
    cases stage with
    | begin | joining => cases asks.2
    | _ => rfl
  | releasing r stage =>
    obtain ⟨-, -, rfl⟩ := asks
    rfl
  | asking q stage =>
    cases q with
    | isHeld h => cases asks.1
    | _ => rfl

/-- Who asks for a monitor is inside no mutex. -/
theorem AsksFor.mutex? (asks : A.AsksFor L g m) : A.mutex? = none := by
  cases A with
  | ready last => rfl
  | acquiring a stage =>
    cases stage with
    | looking | noting => cases asks.2
    | _ => rfl
  | releasing r stage =>
    obtain ⟨-, -, rfl⟩ := asks
    rfl
  | asking q stage =>
    cases q with
    | isHeld h => cases asks.1
    | _ => rfl

/-- Who is inside a monitor asks for no mutex. -/
theorem mutexAsked?_of_isInside (inside : A.IsInside L g m) : A.mutexAsked? = none := by
  cases A with
  | ready last => rfl
  | acquiring a stage =>
    cases stage with
    | begin | joining => cases inside.2
    | _ => rfl
  | releasing r stage =>
    obtain ⟨-, -, rfl | rfl⟩ := inside <;> rfl
  | asking q stage =>
    cases q with
    | isHeld h => cases inside.1
    | _ => rfl

omit [Key K] in
/-- Who is inside a mutex asks for no other one. -/
theorem mutexAsked?_of_mutex? (inside : A.mutex? = some h) : A.mutexAsked? = none := by
  cases A with
  | ready last => rfl
  | acquiring a stage =>
    cases stage with
    | begin | joining => cases inside
    | _ => rfl
  | releasing r stage =>
    cases stage with
    | begin => cases inside
    | _ => rfl
  | asking q stage =>
    cases q with
    | isHeld h' =>
      cases stage with
      | begin => cases inside
      | _ => rfl
    | _ => rfl

end Activity

namespace State

variable {L : Layout K} {s s' : State b K} {t u v : ThreadId}

/-- **Who enters a monitor has asked for it.** -/
theorem Turn.asksFor_of_enter {A A' : Activity K} {g : RegistryId} {m : Monitor}
    (turn : s.Turn L t A (.enter g m) A') : A.AsksFor L g m := by
  generalize he : Effect.enter g m = e at turn
  cases turn with
  | acquire turn =>
    cases turn with
    | enter m' | reenter m' | goBack v =>
      cases he
      exact ⟨rfl, by simp [AcquireStage.asksFor]⟩
    | conclude v => cases v <;> cases he
    | _ => cases he
  | release turn =>
    cases turn with
    | enter =>
      cases he
      exact ⟨rfl, rfl, rfl⟩
    | _ => cases he
  | @ask q stage e A' turn =>
    cases turn with
    | descend g' owner holder =>
      cases he
      exact ⟨owner, .inl ⟨rfl, .inl rfl⟩⟩
    | reach g' owner holder =>
      cases he
      exact ⟨holder, .inr ⟨rfl, rfl⟩⟩
    | enter g' m' looks only =>
      cases he
      refine ⟨looks, .inl ⟨rfl, ?_⟩⟩
      by_cases owner : q.LooksIn g .owner
      · exact .inl (only _ owner).symm
      · exact .inr owner
    | _ => cases he
  | _ => cases he

/-- Who is inside a monitor after something has happened was inside it before, or asked for it. -/
theorem inside_or_asksFor_of_next? {α : Action K} {g : RegistryId} {m : Monitor}
    (next : s.next? L α = some s') (inside : (s'.registries.get g).inside m = some t) :
    (s.registries.get g).inside m = some t ∨ (s.activity t).AsksFor L g m := by
  obtain ⟨u, e, A', -, -, turn, rfl⟩ | ⟨-, same⟩ := next?_cases next
  · rw [registries_after, Effect.inside_apply] at inside
    split at inside
    · rename_i enters
      subst enters
      cases inside
      exact .inr turn.asksFor_of_enter
    · split at inside
      · cases inside
      · exact .inl inside
  · rw [same.registries] at inside
    exact .inl inside

/-- In every reachable state a question is in a stage in which its kind can be. -/
theorem Reachable.asksFittingly (reachable : Reachable L s) (t : ThreadId) :
    (s.activity t).AsksFittingly := by
  refine reachable.activity_of_turn (fun last => trivial) ?_ ?_ t
  · intro s t A e A' turn fits
    cases turn with
    | call last c => cases c <;> trivial
    | acquire turn => cases turn <;> trivial
    | release turn => cases turn <;> trivial
    | ask turn =>
      cases turn with
      | descend g owner holder => exact ⟨g, owner, holder⟩
      | readHolders g looks => exact ⟨g, looks⟩
      | readOwners g looks => exact ⟨g, looks⟩
      | ascend g answer owner => exact ⟨g, owner⟩
      | _ => trivial
    | expire a m => trivial
    | rouse a m => trivial
  · rintro A B (rfl | ⟨a, m, notified, wakeAt, rfl, rfl⟩) fits
    · exact fits
    · trivial

/-! ## What keeps a thread from its next step -/

/-- The thread can take its next step. -/
def CanStep (L : Layout K) (s : State b K) (t : ThreadId) : Prop :=
  ∃ s', s.next? L (.step t) = some s'

/-- A free monitor can be entered. -/
theorem enter?_isSome {g : RegistryId} {m : Monitor}
    (free : (s.registries.get g).inside m = none) : (s.enter? g m t).isSome = true := by
  simp [enter?, free]

/-- A free mutex can be entered. -/
theorem enterMutex?_isSome {h : Half} (free : (s.holds.get h).mutex = none) :
    (s.enterMutex? h t).isSome = true := by
  simp [enterMutex?, free]

/-- An acquisition can go on unless it sleeps or what it asks for is taken. -/
theorem acquireStep?_isSome {a : Acquisition} {stage : AcquireStage}
    (awake : ∀ m wakeAt, stage ≠ .asleep m false wakeAt)
    (monitors : ∀ m, stage.asksFor m = true →
      (s.registries.get (L.registry a.half)).inside m = none)
    (mutex : stage.asksForMutex = true → (s.holds.get a.half).mutex = none) :
    (s.acquireStep? L t a stage).isSome = true := by
  cases stage with
  | begin | joining =>
    rw [acquireStep?, Option.isSome_map]
    exact enterMutex?_isSome (mutex rfl)
  | woken m =>
    rw [acquireStep?, Option.isSome_map]
    exact enter?_isSome (monitors m (by simp [AcquireStage.asksFor]))
  | returning v =>
    rw [acquireStep?, Option.isSome_map]
    exact enter?_isSome (monitors .owner rfl)
  | entering m =>
    have free := monitors m (by simp [AcquireStage.asksFor])
    simp [acquireStep?, enter?, free]
  | looking | approaching m | taken m | settling m =>
    simp only [acquireStep?]
    split <;> rfl
  | asleep m notified wakeAt =>
    cases notified with
    | false => exact absurd rfl (awake m wakeAt)
    | true => rfl
  | _ => rfl

/-- A release can go on unless what it asks for is taken. -/
theorem releaseStep?_isSome {r : Release} {stage : ReleaseStage}
    (monitor : stage = .entering →
      (s.registries.get (L.registry r.half)).inside (.ofKind r.half.kind) = none)
    (mutex : stage = .begin → (s.holds.get r.half).mutex = none) :
    (s.releaseStep? L t r stage).isSome = true := by
  cases stage with
  | begin =>
    rw [releaseStep?, Option.isSome_map]
    exact enterMutex?_isSome (mutex rfl)
  | entering =>
    rw [releaseStep?, Option.isSome_map]
    exact enter?_isSome (monitor rfl)
  | looking =>
    simp only [releaseStep?]
    split
    · rfl
    · split <;> rfl
  | _ => rfl

/-- A question can go on unless what it asks for is taken. -/
theorem queryStep?_isSome {q : Query K} {stage : QueryStage} (fits : q.Fits stage)
    (monitors : ∀ g m, (Activity.asking q stage).AsksFor L g m →
      (s.registries.get g).inside m = none)
    (mutex : ∀ h, (Activity.asking q stage).mutexAsked? = some h →
      (s.holds.get h).mutex = none) :
    (s.queryStep? t q stage).isSome = true := by
  cases q with
  | status g r | counts g =>
    cases stage with
    | begin =>
      rw [queryStep?, Option.isSome_map]
      exact enter?_isSome (monitors g .owner ⟨rfl, .inl ⟨rfl, .inl rfl⟩⟩)
    | descending =>
      rw [queryStep?, Option.isSome_map]
      exact enter?_isSome (monitors g .holder ⟨rfl, .inr ⟨rfl, rfl⟩⟩)
    | _ => rfl
  | isExclusiveFree g rs =>
    cases stage with
    | begin =>
      rw [queryStep?, Option.isSome_map]
      exact enter?_isSome (monitors g .owner ⟨⟨rfl, rfl⟩, .inl ⟨rfl, .inl rfl⟩⟩)
    | descending =>
      obtain ⟨g', -, -, hm⟩ := fits
      cases hm
    | leavingHolder answer =>
      obtain ⟨g', -, hm⟩ := fits
      cases hm
    | _ => rfl
  | isSharedFree g rs =>
    cases stage with
    | begin =>
      rw [queryStep?, Option.isSome_map]
      refine enter?_isSome (monitors g .holder ⟨⟨rfl, rfl⟩, .inl ⟨rfl, .inr ?_⟩⟩)
      rintro ⟨-, hm⟩
      cases hm
    | descending =>
      obtain ⟨g', ⟨-, hm⟩, -⟩ := fits
      cases hm
    | leavingOwner answer =>
      obtain ⟨g', -, hm⟩ := fits
      cases hm
    | _ => rfl
  | isHeld h =>
    cases stage with
    | begin =>
      rw [queryStep?, Option.isSome_map]
      exact enterMutex?_isSome (mutex h rfl)
    | descending =>
      obtain ⟨g', looks, -⟩ := fits
      cases looks
    | leavingHolder answer | leavingOwner answer =>
      obtain ⟨g', looks⟩ := fits
      cases looks
    | reading => rfl

/-- **A thread in a call can take its next step** unless it is asleep, or somebody is inside what it
asks for. -/
theorem Reachable.canStep (reachable : Reachable L s) (busy : ∀ last, s.activity t ≠ .ready last)
    (awake : ∀ a m wakeAt, s.activity t ≠ .acquiring a (.asleep m false wakeAt))
    (monitors : ∀ g m, (s.activity t).AsksFor L g m → (s.registries.get g).inside m = none)
    (mutexes : ∀ h, (s.activity t).mutexAsked? = some h → (s.holds.get h).mutex = none) :
    s.CanStep L t := by
  have fits := reachable.asksFittingly t
  refine Option.isSome_iff_exists.1 ?_
  rw [next?, step?]
  generalize s.activity t = A at busy awake monitors mutexes fits
  cases A with
  | ready last => exact absurd rfl (busy last)
  | acquiring a stage =>
    refine acquireStep?_isSome ?_ ?_ ?_
    · rintro m wakeAt rfl
      exact awake a m wakeAt rfl
    · intro m asks
      exact monitors _ m ⟨rfl, asks⟩
    · intro asks
      exact mutexes a.half (by simp [Activity.mutexAsked?, asks])
  | releasing r stage =>
    refine releaseStep?_isSome ?_ ?_
    · rintro rfl
      exact monitors _ _ ⟨rfl, rfl, rfl⟩
    · rintro rfl
      exact mutexes r.half rfl
  | asking q stage => exact queryStep?_isSome fits monitors mutexes

/-- A thread inside a monitor can take its next step, unless somebody is inside the next monitor
that it asks for. -/
theorem Reachable.canStep_of_inside (reachable : Reachable L s) {g : RegistryId} {m : Monitor}
    (inside : (s.registries.get g).inside m = some t)
    (monitors : ∀ g m, (s.activity t).AsksFor L g m → (s.registries.get g).inside m = none) :
    s.CanStep L t := by
  have inv := reachable.invariant
  have inside' := (inv.inside_iff g m t).1 inside
  refine reachable.canStep ?_ ?_ monitors ?_
  · intro last ready
    rw [ready] at inside'
    cases inside'
  · intro a m' wakeAt asleep
    have fits := inv.fits t
    rw [asleep] at inside' fits
    have outside := inside'.2
    rw [AcquireStage.isInside_asleep fits] at outside
    cases outside
  · intro h asked
    rw [Activity.mutexAsked?_of_isInside inside'] at asked
    cases asked

/-! ## The order -/

/-- A thread asks for a monitor or a mutex that another one is inside. -/
def QueuesBehind (L : Layout K) (s : State b K) (t u : ThreadId) : Prop :=
  (∃ g m, (s.activity t).AsksFor L g m ∧ (s.registries.get g).inside m = some u) ∨
    ∃ h, (s.activity t).mutexAsked? = some h ∧ (s.holds.get h).mutex = some u

/-- Monitors and mutexes are entered in an order that no threads can wait in a circle. -/
structure MonitorsOrdered (L : Layout K) (s : State b K) : Prop where
  /-- No thread inside a holder monitor asks for an owner monitor. -/
  descent : ∀ t g g', (s.registries.get g).inside .holder = some t →
    ¬ (s.activity t).AsksFor L g' .owner
  /-- Nor does it enter one. -/
  entries : ∀ α s' t g g', s.next? L α = some s' →
    (s.registries.get g).inside .holder = some t →
    (s'.registries.get g').inside .owner = some t → (s.registries.get g').inside .owner = some t
  /-- No thread inside the mutex of a hold set asks for a monitor. -/
  mutexes : ∀ t h g m, (s.holds.get h).mutex = some t → ¬ (s.activity t).AsksFor L g m
  /-- No thread inside a monitor asks for a mutex. -/
  apart : ∀ t g m, (s.registries.get g).inside m = some t → (s.activity t).mutexAsked? = none
  /-- Where a thread asks for a monitor, it can take a step, or a thread inside a monitor of the
  same registry can. -/
  progress : ∀ t g m, (s.activity t).AsksFor L g m →
    s.CanStep L t ∨ ∃ u m', (s.registries.get g).inside m' = some u ∧ s.CanStep L u
  /-- No threads queue behind one another in a circle. -/
  acyclic : ∀ t, ¬ Relation.TransGen (s.QueuesBehind L) t t

/-- No thread inside a holder monitor asks for a monitor. -/
theorem Invariant.not_asksFor_of_insideHolder (inv : s.Invariant L) {g g' : RegistryId}
    {m : Monitor} (inside : (s.registries.get g).inside .holder = some t) :
    ¬ (s.activity t).AsksFor L g' m := by
  intro asks
  obtain ⟨-, hm, -⟩ := asks.descends (inv.fits t) ((inv.inside_iff g .holder t).1 inside)
  cases hm

/-- **Some thread can go on** where a thread asks for a monitor: itself, or the one inside, or the
one inside the holder monitor for which that one asks. -/
theorem Reachable.progress (reachable : Reachable L s) {g : RegistryId} {m : Monitor}
    (asks : (s.activity t).AsksFor L g m) :
    s.CanStep L t ∨ ∃ u m', (s.registries.get g).inside m' = some u ∧ s.CanStep L u := by
  have inv := reachable.invariant
  cases hu : (s.registries.get g).inside m with
  | none =>
    refine .inl (reachable.canStep ?_ ?_ ?_ ?_)
    · intro last ready
      rw [ready] at asks
      cases asks
    · intro a m' wakeAt asleep
      rw [asleep] at asks
      cases asks.2
    · intro g' m' asks'
      obtain ⟨rfl, rfl⟩ := asks.unique asks'
      exact hu
    · intro h asked
      rw [asks.mutexAsked?] at asked
      cases asked
  | some u =>
    have inside := (inv.inside_iff g m u).1 hu
    right
    cases hv : (s.registries.get g).inside .holder with
    | none =>
      refine ⟨u, m, hu, reachable.canStep_of_inside hu fun g' m' asks' => ?_⟩
      obtain ⟨rfl, -, rfl⟩ := asks'.descends (inv.fits u) inside
      exact hv
    | some v =>
      refine ⟨v, .holder, hv, reachable.canStep_of_inside hv fun g' m' asks' => ?_⟩
      exact absurd asks' (inv.not_asksFor_of_insideHolder hv)

/-- Who is queued behind while queuing itself is inside an owner monitor, and queues behind the
thread inside the holder monitor. -/
theorem Invariant.insideHolder_of_queuesBehind (inv : s.Invariant L)
    (first : s.QueuesBehind L t u) (second : s.QueuesBehind L u v) :
    ∃ g, (s.registries.get g).inside .holder = some v := by
  obtain ⟨g, m, -, hu⟩ | ⟨h, -, hu⟩ := first
  · have inside := (inv.inside_iff g m u).1 hu
    obtain ⟨g', m', asks, hv⟩ | ⟨h, asked, -⟩ := second
    · obtain ⟨rfl, -, rfl⟩ := asks.descends (inv.fits u) inside
      exact ⟨g', hv⟩
    · rw [Activity.mutexAsked?_of_isInside inside] at asked
      cases asked
  · have inside := (inv.mutex_iff h u).1 hu
    obtain ⟨g', m', asks, -⟩ | ⟨h', asked, -⟩ := second
    · rw [asks.mutex?] at inside
      cases inside
    · rw [Activity.mutexAsked?_of_mutex? inside] at asked
      cases asked

/-- **No circle**: a queue behind a queue ends at a thread that asks for nothing. -/
theorem Invariant.queuesBehind_acyclic (inv : s.Invariant L) (t : ThreadId) :
    ¬ Relation.TransGen (s.QueuesBehind L) t t := by
  intro cycle
  -- Three steps along the circle.
  obtain ⟨u, first, back⟩ := Relation.TransGen.head'_iff.1 cycle
  obtain ⟨v, second, back'⟩ := Relation.TransGen.head'_iff.1 (Relation.TransGen.tail' back first)
  obtain ⟨w, third, -⟩ := Relation.TransGen.head'_iff.1 (Relation.TransGen.tail' back' second)
  obtain ⟨g, hv⟩ := inv.insideHolder_of_queuesBehind first second
  obtain ⟨g', m, asks, -⟩ | ⟨h, asked, -⟩ := third
  · exact inv.not_asksFor_of_insideHolder hv asks
  · rw [Activity.mutexAsked?_of_isInside ((inv.inside_iff g .holder v).1 hv)] at asked
    cases asked

/-- **The monitors are ordered** in every reachable state: from inside a holder monitor nobody goes
to an owner monitor, from inside a mutex nobody goes to a monitor. So where somebody asks for a
monitor, somebody can take a step, and no threads wait for monitors in a circle. -/
theorem Reachable.monitorsOrdered (reachable : Reachable L s) : s.MonitorsOrdered L where
  descent t g g' inside := reachable.invariant.not_asksFor_of_insideHolder inside
  entries := by
    intro α s' t g g' next inside inside'
    obtain before | asks := inside_or_asksFor_of_next? next inside'
    · exact before
    · exact absurd asks (reachable.invariant.not_asksFor_of_insideHolder inside)
  mutexes := by
    intro t h g m inside asks
    rw [reachable.invariant.mutex_iff, asks.mutex?] at inside
    cases inside
  apart t g m inside :=
    Activity.mutexAsked?_of_isInside ((reachable.invariant.inside_iff g m t).1 inside)
  progress t g m asks := reachable.progress asks
  acyclic := reachable.invariant.queuesBehind_acyclic

/-- A run after which a writer is inside the holder monitor, a reader inside the owner monitor asks
for the holder monitor, and a third thread that asks a question asks for the owner monitor. -/
def queueOfThree : List (Action Nat) :=
  Action.follow 1 (.acquire ⟨2, .write⟩ { manner := .lock }) 9
    ++ Action.follow 0 (.acquire ⟨0, .read⟩ { manner := .lock }) 6
    ++ Action.follow 2 (.ask (.status 0 1)) 0

/-- Three threads that queue up, one behind the other. -/
theorem monitorsOrdered_queueOfThree :
    (finish .threeLocks queueOfThree : State .hash Nat).QueuesBehind .threeLocks 2 0 ∧
      (finish .threeLocks queueOfThree : State .hash Nat).QueuesBehind .threeLocks 0 1 ∧
      (finish .threeLocks queueOfThree : State .hash Nat).MonitorsOrdered .threeLocks := by
  have question : (finish .threeLocks queueOfThree : State .hash Nat).activity 2 =
      .asking (.status 0 1) .begin := by
    decide +kernel
  have reader : (finish .threeLocks queueOfThree : State .hash Nat).activity 0 =
      .acquiring ⟨⟨0, .read⟩, { manner := .lock }, .endless⟩ (.entering .holder) := by
    decide +kernel
  refine ⟨.inl ⟨0, .owner, ?_, by decide +kernel⟩, .inl ⟨0, .holder, ?_, by decide +kernel⟩,
    (reachable_finish queueOfThree).monitorsOrdered⟩
  · rw [question]
    exact ⟨rfl, .inl ⟨rfl, .inl rfl⟩⟩
  · rw [reader]
    exact ⟨rfl, rfl⟩

end State

end ResourceLocks.Protocol
