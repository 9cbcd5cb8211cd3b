import ResourceLocks.Proofs.Protocol.Interrupts
import ResourceLocks.Proofs.Protocol.Solo

/-!
# Locks of different registries never interact

A registry is what a provider and its clones share. Take a run in which no thread is interrupted,
pick a registry, and delete every step of an operation on a lock of another one
(`State.without`). What is left is a run, and in it nothing has changed for the registry that was
picked, although the same threads made the deleted operations, perhaps over the same resources.

* `Subject` says what a call is about: a half of a lock, or a registry as a whole. A call stays
  with its subject, and its effects touch nothing else (`Turn.staysAt`).
* `State.SameAt` relates the states of the two runs: the registry and the hold sets of its locks
  are the same, and a thread in an operation there is at the same point of it. A thread that is in
  an operation on another lock in the one run is doing nothing in the other.
* A step that is deleted leaves the states related (`SameAt.deleted`), one that is kept can be taken
  in both runs (`SameAt.kept`), so both runs go on side by side (`State.Beside`).

Questions to other registries are no operations on locks, and stay in the run. They may be answered
differently in the two runs.

Interrupts are excluded because a thread has one interrupt flag, which the first call to heed it
clears, whatever lock that call is about.
-/

namespace ResourceLocks.Protocol

variable {b : Backing} {K : Type} [Key K]

/-! ## What calls are about -/

/-- What a call is about. -/
inductive Subject where
  /-- One half of a lock. -/
  | half (h : Half)
  /-- A registry as a whole. -/
  | registry (g : RegistryId)
  deriving DecidableEq

namespace Subject

/-- The registry where a subject is found. -/
def registryIn (L : Layout K) : Subject → RegistryId
  | half h => L.registry h
  | registry g => g

/-- The subject is a half of a lock that belongs to another registry. -/
def IsForeign (L : Layout K) (g : RegistryId) : Subject → Prop
  | half h => L.registry h ≠ g
  | registry _ => False

instance (L : Layout K) (g : RegistryId) : DecidablePred (IsForeign L g)
  | half h => inferInstanceAs (Decidable (L.registry h ≠ g))
  | registry _ => inferInstanceAs (Decidable False)

/-- What is foreign to a registry is found in another one. -/
theorem IsForeign.registryIn_ne {L : Layout K} {g : RegistryId} {x : Subject}
    (foreign : x.IsForeign L g) : x.registryIn L ≠ g := by
  cases x with
  | half h => exact foreign
  | registry g' => cases foreign

end Subject

/-- What a question is about. -/
def Query.subject : Query K → Subject
  | .status g _ | .isExclusiveFree g _ | .isSharedFree g _ | .counts g => .registry g
  | .isHeld h => .half h

/-- What a call is about. -/
def Call.subject : Call K → Subject
  | .acquire h _ | .unlock h | .dropGuard h => .half h
  | .ask q => q.subject

/-- What the operation is about in which a thread is. -/
def Activity.subject? : Activity K → Option Subject
  | .ready _ => none
  | .acquiring a _ => some (.half a.half)
  | .releasing r _ => some (.half r.half)
  | .asking q _ => some q.subject

/-- What the operation is about to which an action belongs. -/
def Action.subject? (s : State b K) : Action K → Option Subject
  | .call _ c => some c.subject
  | .step t | .expire t | .rouse t => (s.activity t).subject?
  | .interrupt _ | .clearFlag _ | .pass _ => none

/-- The action belongs to an operation on a lock of another registry. -/
def Action.IsForeign (L : Layout K) (g : RegistryId) (s : State b K) (α : Action K) : Prop :=
  ∃ x ∈ α.subject? s, x.IsForeign L g

instance (L : Layout K) (g : RegistryId) (s : State b K) (α : Action K) :
    Decidable (α.IsForeign L g s) :=
  inferInstanceAs (Decidable (∃ x ∈ α.subject? s, x.IsForeign L g))

/-- What is left of a run when every step of an operation on a lock of another registry is
deleted. -/
def State.without (L : Layout K) (g : RegistryId) : State b K → List (Action K) → List (Action K)
  | _, [] => []
  | s, α :: αs =>
    match s.next? L α with
    | none => []
    | some s' => if α.IsForeign L g s then without L g s' αs else α :: without L g s' αs

omit [Key K] in
/-- A call that starts is about its subject. -/
@[simp] theorem Call.subject?_start (c : Call K) (now : Instant) :
    (c.start now).subject? = some c.subject := by
  cases c <;> rfl

/-! ### What calls touch -/

/-- An effect touches nothing but what a call about the subject may touch. -/
def Effect.StaysAt (L : Layout K) (x : Subject) : Effect → Prop
  | .nothing | .heed | .note _ => True
  | .enter g _ | .exit g _ => g = x.registryIn L
  | .record _ h | .clear _ h | .enterMutex h | .exitMutex h _ | .join h | .part h => x = .half h

omit [Key K] in
/-- A question looks into the registry it is about. -/
theorem Query.subject_of_looksIn {q : Query K} {g : RegistryId} {m : Monitor}
    (looks : q.LooksIn g m) : q.subject = .registry g := by
  cases q with
  | status g' r | counts g' => exact congrArg Subject.registry looks
  | isExclusiveFree g' rs | isSharedFree g' rs => exact congrArg Subject.registry looks.1
  | isHeld h => cases looks

section turns

variable {L : Layout K} {s : State b K} {t : ThreadId} {e : Effect} {A A' : Activity K}

/-- The activity goes on about the same subject, or the call has returned. -/
def Activity.StaysWith (A' : Activity K) (x : Subject) : Prop :=
  A'.subject? = some x ∨ ∃ last, A' = .ready last

/-- An acquisition stays with its half. -/
theorem AcquireTurn.staysAt {a : Acquisition} {stage : AcquireStage}
    (turn : AcquireTurn L s t a stage e A') :
    e.StaysAt L (.half a.half) ∧ A'.StaysWith (.half a.half) := by
  cases turn with
  | alreadyHeld held => exact ⟨rfl, .inr ⟨_, rfl⟩⟩
  | conclude v => exact ⟨by cases v <;> trivial, .inr ⟨_, rfl⟩⟩
  | _ => exact ⟨by first | rfl | trivial, .inl rfl⟩

/-- A release stays with its half. -/
theorem ReleaseTurn.staysAt {r : Release} {stage : ReleaseStage}
    (turn : ReleaseTurn L s t r stage e A') :
    e.StaysAt L (.half r.half) ∧ A'.StaysWith (.half r.half) := by
  cases turn with
  | notHeld | dropFailed => exact ⟨rfl, .inr ⟨_, rfl⟩⟩
  | conclude => exact ⟨trivial, .inr ⟨_, rfl⟩⟩
  | _ => exact ⟨rfl, .inl rfl⟩

/-- A question stays with what it asks about. -/
theorem AskTurn.staysAt {q : Query K} {stage : QueryStage} (turn : AskTurn s t q stage e A') :
    e.StaysAt L q.subject ∧ A'.StaysWith q.subject := by
  cases turn with
  | descend g owner | reach g owner | ascend g answer owner =>
    exact ⟨by rw [Query.subject_of_looksIn owner]; rfl, .inl rfl⟩
  | enter g m looks => exact ⟨by rw [Query.subject_of_looksIn looks]; rfl, .inl rfl⟩
  | readHolders | readOwners => exact ⟨trivial, .inl rfl⟩
  | leaveHolder g answer other looks | leaveOwner g answer looks =>
    exact ⟨by rw [Query.subject_of_looksIn looks]; rfl, .inr ⟨_, rfl⟩⟩
  | enterMutex h asked => exact ⟨congrArg Query.subject asked, .inl rfl⟩
  | leaveMutex h asked => exact ⟨congrArg Query.subject asked, .inr ⟨_, rfl⟩⟩

/-- **A call stays with its subject**: every turn of it touches nothing else. -/
theorem State.Turn.staysAt {x : Subject} (turn : s.Turn L t A e A') (about : A.subject? = some x) :
    e.StaysAt L x ∧ A'.StaysWith x := by
  cases turn with
  | call last c => cases about
  | acquire turn =>
    cases about
    exact turn.staysAt
  | release turn =>
    cases about
    exact turn.staysAt
  | ask turn =>
    cases about
    exact turn.staysAt
  | expire a m deadline | rouse a m notified wakeAt => exact ⟨trivial, .inl about⟩

end turns

/-! ### What calls hear -/

/-- What becomes of the activity of a thread in an effect of another one: a sleeper is notified when
the ledger it waits for changes. -/
def Activity.hear (L : Layout K) (e : Effect) (A : Activity K) : Activity K :=
  match e with
  | .clear m h => (Thread.notify L (L.registry h) m { activity := A }).activity
  | _ => A

section hear

variable (L : Layout K) (e : Effect) (A : Activity K)

/-- A notification reaches the sleepers of one registry. -/
theorem Activity.hear_cases :
    A.hear L e = A ∨ ∃ a m notified wakeAt h, A = .acquiring a (.asleep m notified wakeAt) ∧
      A.hear L e = .acquiring a (.asleep m true wakeAt) ∧ e = .clear m h ∧
      L.registry a.half = L.registry h := by
  cases e with
  | clear m h =>
    simp only [hear, Thread.notify]
    split
    · rename_i a m' notified wakeAt
      split
      · rename_i here
        obtain ⟨rfl, registry⟩ := here
        exact .inr ⟨a, m', notified, wakeAt, h, rfl, rfl, rfl, registry⟩
      · exact .inl rfl
    · exact .inl rfl
  | _ => exact .inl rfl

/-- Who is doing nothing hears no notification. -/
@[simp] theorem Activity.hear_ready (last : Option Reply) :
    (ready last : Activity K).hear L e = .ready last := by
  cases e <;> rfl

/-- Who asks a question hears no notification. -/
@[simp] theorem Activity.hear_asking (q : Query K) (stage : QueryStage) :
    (asking q stage).hear L e = .asking q stage := by
  cases e <;> rfl

/-- A notification leaves a call with its subject. -/
@[simp] theorem Activity.subject?_hear : (A.hear L e).subject? = A.subject? := by
  obtain same | ⟨a, m, notified, wakeAt, h, rfl, heard, -⟩ := A.hear_cases L e
  · rw [same]
  · rw [heard]
    rfl

/-- An effect changes what other threads do by notifying them only. -/
theorem Effect.activity_apply (t : ThreadId) (s : State b K) (u : ThreadId) :
    (e.apply L t s).activity u = (s.activity u).hear L e := by
  cases e with
  | heed => exact State.activity_setInterrupted s t u false
  | clear m h =>
    simp only [apply, State.activity, State.notifyAll, State.setRegistry, Table.get_map,
      Activity.hear, Thread.notify]
    split
    · split <;> rfl
    · rfl
  | exitMutex h noted => cases noted <;> rfl
  | _ => rfl

/-- A turn of another thread changes what a thread does by notifying it only. -/
theorem State.activity_after_of_ne {s : State b K} {t u : ThreadId} (A' : Activity K)
    (hu : u ≠ t) : (s.after L t e A').activity u = (s.activity u).hear L e := by
  rw [State.after, State.activity_setActivity_of_ne _ _ hu, Effect.activity_apply]

end hear

/-! ## States that are the same for a registry -/

/-- A question is at one point in two runs, whatever was read. -/
inductive QueryStage.SamePoint : QueryStage → QueryStage → Prop where
  /-- The stages are the same. -/
  | refl (stage : QueryStage) : SamePoint stage stage
  /-- About to leave the holder monitor, perhaps with different answers. -/
  | leavingHolder (answer answer' : Reply) :
    SamePoint (.leavingHolder answer) (.leavingHolder answer')
  /-- About to leave the owner monitor, perhaps with different answers. -/
  | leavingOwner (answer answer' : Reply) :
    SamePoint (.leavingOwner answer) (.leavingOwner answer')

/-- At the same point of a question the same monitors are entered. -/
theorem QueryStage.SamePoint.isInside_eq {stage stage' : QueryStage}
    (point : SamePoint stage stage') (m : Monitor) :
    Query.isInside stage' m = Query.isInside stage m := by
  cases point <;> cases m <;> rfl

/-- What a thread is doing in two runs that are the same for a registry. -/
inductive Activity.SameAt (L : Layout K) (g : RegistryId) : Activity K → Activity K → Prop where
  /-- An operation in the registry, at the same point in both. -/
  | here (A : Activity K) (x : Subject) (about : A.subject? = some x)
      (here : x.registryIn L = g) : SameAt L g A A
  /-- Nothing, or in the first run an operation on a lock of another registry. -/
  | idle (A : Activity K) (last : Option Reply) (foreign : ∀ x ∈ A.subject?, x.IsForeign L g) :
    SameAt L g A (.ready last)
  /-- A question to another registry, at the same point in both, whatever its answer. -/
  | asking (q : Query K) (stage stage' : QueryStage) (g' : RegistryId)
      (about : q.subject = .registry g') (other : g' ≠ g)
      (point : stage.SamePoint stage') :
    SameAt L g (.asking q stage) (.asking q stage')

/-- Two states are the same for a registry. -/
structure State.SameAt (L : Layout K) (g : RegistryId) (s s' : State b K) : Prop where
  /-- Its ledgers are the same, and the same threads are inside its monitors. -/
  registry : s'.registries.get g = s.registries.get g
  /-- The hold sets of its locks are the same. -/
  holds : ∀ h, L.registry h = g → s'.holds.get h = s.holds.get h
  /-- Threads in an operation there do the same. -/
  activity : ∀ t, (s.activity t).SameAt L g (s'.activity t)
  /-- The clock shows the same. -/
  now : s'.now = s.now

/-- The first run goes on, and next to it a second one, in which the steps of operations on locks of
other registries are missing. At every point the two are the same for the registry, and what a step
of an operation there leads to is the same: where to go on, sleep, or what to return. -/
inductive State.Beside (L : Layout K) (g : RegistryId) :
    State b K → List (Action K) → State b K → List (Action K) → Prop where
  /-- Both runs are at their end. -/
  | done {s s' : State b K} (same : s.SameAt L g s') : Beside L g s [] s' []
  /-- A step of an operation on a lock of another registry is missing. -/
  | deleted {s s₁ s' : State b K} {α : Action K} {αs βs : List (Action K)}
      (same : s.SameAt L g s') (foreign : α.IsForeign L g s) (next : s.next? L α = some s₁)
      (rest : Beside L g s₁ αs s' βs) : Beside L g s (α :: αs) s' βs
  /-- Everything else happens in both runs. -/
  | kept {s s₁ s' s₁' : State b K} {α : Action K} {αs βs : List (Action K)}
      (same : s.SameAt L g s') (own : ¬ α.IsForeign L g s) (next : s.next? L α = some s₁)
      (next' : s'.next? L α = some s₁')
      (leads : ∀ t x, α.turnOf? = some t → α.subject? s = some x → x.registryIn L = g →
        s₁'.activity t = s₁.activity t)
      (rest : Beside L g s₁ αs s₁' βs) : Beside L g s (α :: αs) s' (α :: βs)

namespace Activity.SameAt

variable {L : Layout K} {g : RegistryId} {A A' : Activity K}

/-- What stays in the registry is the same in both runs. -/
theorem of_staysWith {x : Subject} (stays : A.StaysWith x) (here : x.registryIn L = g) :
    A.SameAt L g A := by
  obtain about | ⟨last, rfl⟩ := stays
  · exact .here A x about here
  · exact .idle _ last nofun

/-- What is about no lock of another registry stays in the run. -/
theorem of_own {x : Subject} (about : A.subject? = some x) (own : ¬ x.IsForeign L g) :
    A.SameAt L g A := by
  cases x with
  | half h => exact .here A _ about (not_not.1 own)
  | registry g' =>
    by_cases here : g' = g
    · exact .here A _ about here
    · cases A with
      | asking q stage => exact .asking q stage stage g' (Option.some.inj about) here (.refl stage)
      | _ => cases about

/-- What stays with a foreign lock is nothing in the second run. -/
theorem idle_of_staysWith {x : Subject} (stays : A.StaysWith x) (foreign : x.IsForeign L g)
    (last : Option Reply) : A.SameAt L g (.ready last) := by
  refine .idle A last fun y hy => ?_
  obtain about | ⟨last', rfl⟩ := stays
  · rw [about] at hy
    cases hy
    exact foreign
  · cases hy

/-- A thread that does something in the second run is inside the same monitors in the first. -/
theorem isInside {g' : RegistryId} {m : Monitor} (same : A.SameAt L g A')
    (inside : A'.IsInside L g' m) : A.IsInside L g' m := by
  cases same with
  | here => exact inside
  | idle => cases inside
  | asking q stage stage' g₁ about other point =>
    exact ⟨inside.1, by rw [← point.isInside_eq]; exact inside.2⟩

/-- Both threads hear of an effect in both runs. -/
theorem hear (same : A.SameAt L g A') (e : Effect) : (A.hear L e).SameAt L g (A'.hear L e) := by
  cases same with
  | here _ x about here => exact .here _ x (by rw [subject?_hear, about]) here
  | idle _ last foreign =>
    rw [hear_ready]
    exact .idle _ last (by rwa [subject?_hear])
  | asking q stage stage' g' about other point =>
    rw [hear_asking, hear_asking]
    exact .asking q stage stage' g' about other point

/-- Who is in an operation in the registry does not hear of one on another lock. -/
theorem hear_foreign {x : Subject} {e : Effect} (same : A.SameAt L g A')
    (foreign : x.IsForeign L g) (stays : e.StaysAt L x) : (A.hear L e).SameAt L g A' := by
  obtain unchanged | ⟨a, m, notified, wakeAt, h, rfl, heard, rfl, registry⟩ := A.hear_cases L e
  · rwa [unchanged]
  · obtain rfl : x = .half h := stays
    rw [heard]
    cases same with
    | here _ x about here =>
      cases about
      exact absurd (registry ▸ here) foreign
    | idle _ last foreign' => exact .idle _ last foreign'

end Activity.SameAt

namespace State

variable {L : Layout K} {g : RegistryId} {s s' s₁ : State b K} {t : ThreadId} {α : Action K}

/-- No interrupt flag is set. -/
def IsCalm (s : State b K) : Prop := ∀ t, s.isInterrupted t = false

/-- Where no flag is set nobody heeds one. -/
theorem IsCalm.not_heeds (calm : s.IsCalm) (t : ThreadId) (a : Acquisition) : ¬ s.Heeds t a := by
  rintro ⟨-, flag⟩
  rw [calm t] at flag
  cases flag

/-- Flags are only set by interrupts. -/
theorem IsCalm.next? (calm : s.IsCalm) (next : s.next? L α = some s₁)
    (quiet : ∀ t, α ≠ .interrupt t) : s₁.IsCalm := by
  intro t
  obtain same | ⟨raised, -⟩ | ⟨-, cleared, -⟩ | ⟨-, turn⟩ := flag_of_next? next t
  · rw [same]
    exact calm t
  · exact absurd raised (quiet t)
  · exact cleared
  · obtain ⟨a, stage, stage', -, heeds, -⟩ := turn.of_heed
    exact absurd heeds (calm.not_heeds t a)

/-- At the start the states are the same for every registry. -/
theorem sameAt_initial : (initial : State b K).SameAt L g initial where
  registry := rfl
  holds _ _ := rfl
  activity _ := .idle _ none nofun
  now := rfl

namespace SameAt

variable {e : Effect} {A A' A₁ : Activity K}

/-- The same effect in both runs. -/
theorem after (same : s.SameAt L g s') (e : Effect) (sameAt : A.SameAt L g A') :
    (s.after L t e A).SameAt L g (s'.after L t e A') where
  registry := by
    rw [registries_after, registries_after, Effect.registry_apply, Effect.registry_apply,
      same.registry]
  holds h here := by
    rw [holds_after, holds_after, Effect.holds_apply, Effect.holds_apply, same.holds h here]
  activity u := by
    by_cases hu : u = t
    · subst hu
      rwa [activity_after_self, activity_after_self]
    · rw [activity_after_of_ne L e A hu, activity_after_of_ne L e A' hu]
      exact (same.activity u).hear e
  now := by
    rw [State.after, State.after]
    exact (Effect.now_apply L t s' e).trans (same.now.trans (Effect.now_apply L t s e).symm)

/-- An effect of an operation on a lock of another registry in the first run alone. -/
theorem after_foreign {x : Subject} (same : s.SameAt L g s') (foreign : x.IsForeign L g)
    (stays : e.StaysAt L x) (sameAt : A.SameAt L g (s'.activity t)) :
    (s.after L t e A).SameAt L g s' where
  registry := by
    have elsewhere := foreign.registryIn_ne
    rw [registries_after, Effect.registry_apply, same.registry]
    cases e with
    | enter g' m | exit g' m =>
      obtain rfl : g' = x.registryIn L := stays
      exact (if_neg elsewhere.symm).symm
    | record m h | clear m h =>
      obtain rfl : x = .half h := stays
      exact (if_neg elsewhere.symm).symm
    | _ => rfl
  holds h here := by
    rw [holds_after, Effect.holds_apply, same.holds h here]
    cases e with
    | enterMutex h' | exitMutex h' noted | join h' | part h' =>
      obtain rfl : x = .half h' := stays
      refine (if_neg ?_).symm
      rintro rfl
      exact foreign here
    | _ => rfl
  activity u := by
    by_cases hu : u = t
    · subst hu
      rwa [activity_after_self]
    · rw [activity_after_of_ne L e A hu]
      exact (same.activity u).hear_foreign foreign stays
  now := same.now.trans (Effect.now_apply L t s e).symm

/-! ### Steps that are deleted -/

/-- Who is doing nothing or in an operation on another lock is doing nothing in the second run. -/
theorem exists_ready (same : s.SameAt L g s')
    (foreign : ∀ x ∈ (s.activity t).subject?, x.IsForeign L g) :
    ∃ last, s'.activity t = .ready last := by
  have hsame := same.activity t
  generalize s.activity t = A at hsame foreign
  generalize s'.activity t = A' at hsame
  cases hsame with
  | here _ x about here => exact absurd here (foreign x about).registryIn_ne
  | idle _ last _ => exact ⟨last, rfl⟩
  | asking q stage stage' g' about =>
    have lock := foreign q.subject rfl
    rw [about] at lock
    cases lock

/-- **A deleted step changes nothing for the registry.** -/
theorem deleted (same : s.SameAt L g s') (next : s.next? L α = some s₁)
    (foreign : α.IsForeign L g s) : s₁.SameAt L g s' := by
  obtain ⟨x, about, foreign⟩ := foreign
  have turn_deleted : ∀ {t e A'}, s.Turn L t (s.activity t) e A' →
      (s.activity t).subject? = some x → (s.after L t e A').SameAt L g s' := by
    intro t e A' turn about
    obtain ⟨stays, goesOn⟩ := turn.staysAt about
    obtain ⟨last, ready⟩ := same.exists_ready (t := t) fun y hy => by
      rw [about] at hy
      cases hy
      exact foreign
    refine same.after_foreign foreign stays ?_
    rw [ready]
    exact .idle_of_staysWith goesOn foreign last
  obtain ⟨t, e, A', mine, -, turn, rfl⟩ | ⟨noturn, -⟩ := next?_cases next
  · cases α with
    | call u c =>
      cases mine
      cases about
      obtain ⟨last, ready, called⟩ := next?_call next
      obtain ⟨last', ready'⟩ := same.exists_ready (t := t) (by rw [ready]; exact nofun)
      rw [called]
      refine same.after_foreign (x := c.subject) foreign trivial ?_
      rw [ready']
      exact .idle_of_staysWith (.inl (c.subject?_start _)) foreign last'
    | step u | expire u | rouse u =>
      cases mine
      exact turn_deleted turn about
    | _ => cases mine
  · cases α with
    | interrupt u | clearFlag u | pass nanos => cases about
    | _ => cases noturn

/-! ### Steps that are kept -/

/-- A thread in an operation in the registry does the same in both runs. -/
theorem activity_eq {x : Subject} (same : s.SameAt L g s')
    (about : (s.activity t).subject? = some x) (here : x.registryIn L = g) :
    s'.activity t = s.activity t := by
  have hsame := same.activity t
  generalize s.activity t = A at hsame about
  generalize s'.activity t = A' at hsame
  cases hsame with
  | here => rfl
  | idle _ last foreign => exact absurd here (foreign x about).registryIn_ne
  | asking q stage stage' g' about' other =>
    cases about
    rw [about'] at here
    exact absurd here other

/-- A monitor that nobody is inside in the first run is free in the second. -/
theorem inside_eq_none {g' : RegistryId} {m : Monitor} (same : s.SameAt L g s')
    (inv : s.Invariant L) (inv' : s'.Invariant L) (free : (s.registries.get g').inside m = none) :
    (s'.registries.get g').inside m = none := by
  cases inside' : (s'.registries.get g').inside m with
  | none => rfl
  | some u =>
    have inside := (same.activity u).isInside ((inv'.inside_iff g' m u).1 inside')
    rw [(inv.inside_iff g' m u).2 inside] at free
    cases free

/-- Questions about the registry have the same answers in both states. -/
theorem answer_eq {q : Query K} (same : s.SameAt L g s') (here : q.subject.registryIn L = g) :
    s'.answer t q = s.answer t q := by
  cases q with
  | isHeld h =>
    have held : s'.IsHeldBy h t ↔ s.IsHeldBy h t := by rw [IsHeldBy, IsHeldBy, same.holds h here]
    simp only [answer, held]
  | _ =>
    obtain rfl := here
    simp only [answer, Query.subject, Subject.registryIn] at same ⊢
    rw [same.registry]

/-- An acquisition in the registry has the same turns in both states. -/
theorem acquireTurn {a : Acquisition} {stage : AcquireStage} (same : s.SameAt L g s')
    (here : L.registry a.half = g) (calm : s.IsCalm) (calm' : s'.IsCalm)
    (turn : AcquireTurn L s t a stage e A) : AcquireTurn L s' t a stage e A := by
  have holds := same.holds a.half here
  have registry : s'.registries.get (L.registry a.half) = s.registries.get (L.registry a.half) := by
    rw [here]
    exact same.registry
  cases turn with
  | begin free => exact .begin (by rwa [holds])
  | alreadyHeld held => exact .alreadyHeld (by rwa [IsHeldBy, holds])
  | look absent => exact .look (by rwa [IsHeldBy, holds])
  | heed m heeds | heedInside m heeds => exact absurd heeds (calm.not_heeds t a)
  | approach m => exact .approach m (calm'.not_heeds t a)
  | enter m free => exact .enter m (by rwa [registry])
  | barred m taken hasty => exact .barred m (by rwa [registry]) hasty
  | free m free => exact .free m (by rwa [registry])
  | taken m taken => exact .taken m (by rwa [registry])
  | settle m => exact .settle m (calm'.not_heeds t a)
  | refuse m expired => exact .refuse m (by rwa [same.now])
  | sleep m length left =>
    rw [← same.now] at left ⊢
    exact .sleep m length left
  | wake m wakeAt => exact .wake m wakeAt
  | reenter m free => exact .reenter m (by rwa [registry])
  | record m => exact .record m
  | claim => exact .claim
  | leave m v => exact .leave m v
  | withdraw v => exact .withdraw v
  | goBack v free => exact .goBack v (by rwa [registry])
  | unclaim v => exact .unclaim v
  | approachMutex free => exact .approachMutex (by rwa [holds])
  | join => exact .join
  | conclude v => exact .conclude v

/-- A release in the registry has the same turns in both states. -/
theorem releaseTurn {r : Release} {stage : ReleaseStage} (same : s.SameAt L g s')
    (here : L.registry r.half = g) (turn : ReleaseTurn L s t r stage e A) :
    ReleaseTurn L s' t r stage e A := by
  have holds := same.holds r.half here
  cases turn with
  | begin free => exact .begin (by rwa [holds])
  | part held => exact .part (by rwa [IsHeldBy, holds])
  | notHeld absent direct => exact .notHeld (by rwa [IsHeldBy, holds]) direct
  | dropFailed absent dropped => exact .dropFailed (by rwa [IsHeldBy, holds]) dropped
  | enter free => exact .enter (by rw [here] at free ⊢; rwa [same.registry])
  | clear => exact .clear
  | leave => exact .leave
  | conclude => exact .conclude

/-- A question about the registry has the same turns in both states. -/
theorem askTurn {q : Query K} {stage : QueryStage} (same : s.SameAt L g s')
    (here : q.subject.registryIn L = g) (turn : AskTurn s t q stage e A) :
    AskTurn s' t q stage e A := by
  have registry : ∀ {g' m}, q.LooksIn g' m → s'.registries.get g' = s.registries.get g' := by
    intro g' m looks
    rw [Query.subject_of_looksIn looks] at here
    obtain rfl : g' = g := here
    exact same.registry
  cases turn with
  | descend g' owner holder free => exact .descend g' owner holder (by rwa [registry owner])
  | reach g' owner holder free => exact .reach g' owner holder (by rwa [registry owner])
  | enter g' m looks only free => exact .enter g' m looks only (by rwa [registry looks])
  | readHolders g' looks =>
    rw [← same.answer_eq here]
    exact .readHolders g' looks
  | readOwners g' looks other =>
    rw [← same.answer_eq here]
    exact .readOwners g' looks other
  | ascend g' answer owner holder => exact .ascend g' answer owner holder
  | leaveHolder g' answer other looks => exact .leaveHolder g' answer other looks
  | leaveOwner g' answer looks => exact .leaveOwner g' answer looks
  | enterMutex h asked free =>
    subst asked
    exact .enterMutex h rfl (by rwa [same.holds h here])
  | leaveMutex h asked =>
    subst asked
    rw [← same.answer_eq here]
    exact .leaveMutex h rfl

/-- A question to another registry goes on in both runs, and is answered in each. -/
theorem askTurn_elsewhere {q : Query K} {stage stage' : QueryStage} {g' : RegistryId}
    (same : s.SameAt L g s') (inv : s.Invariant L) (inv' : s'.Invariant L)
    (about : q.subject = .registry g') (other : g' ≠ g)
    (point : stage.SamePoint stage') (turn : AskTurn s t q stage e A) :
    ∃ A', AskTurn s' t q stage' e A' ∧ A.SameAt L g A' := by
  have asking : ∀ stage₁ stage₂ : QueryStage, stage₁.SamePoint stage₂ →
      (Activity.asking q stage₁).SameAt L g (.asking q stage₂) := fun stage₁ stage₂ =>
    .asking q stage₁ stage₂ g' about other
  cases turn with
  | descend g₁ owner holder free =>
    cases point
    exact ⟨_, .descend g₁ owner holder (same.inside_eq_none inv inv' free), asking _ _ (.refl _)⟩
  | reach g₁ owner holder free =>
    cases point
    exact ⟨_, .reach g₁ owner holder (same.inside_eq_none inv inv' free), asking _ _ (.refl _)⟩
  | enter g₁ m looks only free =>
    cases point
    exact ⟨_, .enter g₁ m looks only (same.inside_eq_none inv inv' free), asking _ _ (.refl _)⟩
  | readHolders g₁ looks =>
    cases point
    exact ⟨_, .readHolders g₁ looks, asking _ _ (.leavingHolder _ _)⟩
  | readOwners g₁ looks alone =>
    cases point
    exact ⟨_, .readOwners g₁ looks alone, asking _ _ (.leavingOwner _ _)⟩
  | ascend g₁ answer owner holder =>
    cases point <;> exact ⟨_, .ascend g₁ _ owner holder, asking _ _ (.leavingOwner _ _)⟩
  | leaveHolder g₁ answer alone looks =>
    cases point <;> exact ⟨_, .leaveHolder g₁ _ alone looks, .idle _ _ nofun⟩
  | leaveOwner g₁ answer looks =>
    cases point <;> exact ⟨_, .leaveOwner g₁ _ looks, .idle _ _ nofun⟩
  | enterMutex h asked | leaveMutex h asked =>
    rw [asked] at about
    cases about

/-- A turn of a call that stays in the run can be taken in both runs. -/
theorem stepTurn {A₁ : Activity K} (same : s.SameAt L g s') (inv : s.Invariant L)
    (inv' : s'.Invariant L) (calm : s.IsCalm) (calm' : s'.IsCalm) (sameAt : A.SameAt L g A₁)
    (own : ∀ x ∈ A.subject?, ¬ x.IsForeign L g) (turn : s.StepTurn L t A e A') :
    ∃ A₁', s'.StepTurn L t A₁ e A₁' ∧ A'.SameAt L g A₁' ∧
      ∀ x ∈ A.subject?, x.registryIn L = g → A₁' = A' := by
  cases sameAt with
  | here _ x about here =>
    refine ⟨A', ?_, .of_staysWith (turn.toTurn.staysAt about).2 here, fun _ _ _ => rfl⟩
    cases A with
    | ready last => cases turn
    | acquiring a stage =>
      cases about
      exact same.acquireTurn here calm calm' turn
    | releasing r stage =>
      cases about
      exact same.releaseTurn here turn
    | asking q stage =>
      cases about
      exact same.askTurn here turn
  | idle _ last foreign =>
    cases A with
    | ready last => cases turn
    | _ => exact absurd (foreign _ rfl) (own _ rfl)
  | asking q stage stage' g' about other point =>
    obtain ⟨A₁', turn', goesOn⟩ := same.askTurn_elsewhere inv inv' about other point turn
    refine ⟨A₁', turn', goesOn, ?_⟩
    rintro _ ⟨⟩ here
    rw [about] at here
    exact absurd here other

/-- An acquisition in the registry waits in both runs, and its wait may end in both. -/
theorem waiting {a : Acquisition} {stage : AcquireStage} (same : s.SameAt L g s')
    (acquiring : s.activity t = .acquiring a stage)
    (own : ∀ x ∈ (s.activity t).subject?, ¬ x.IsForeign L g) :
    s'.activity t = .acquiring a stage ∧ ∀ stage',
      (s.setActivity t (.acquiring a stage')).SameAt L g
        (s'.setActivity t (.acquiring a stage')) := by
  have about : (s.activity t).subject? = some (.half a.half) := by
    rw [acquiring]
    rfl
  have here : L.registry a.half = g := not_not.1 (own _ about)
  refine ⟨(same.activity_eq about here).trans acquiring, fun stage' => ?_⟩
  exact same.after .nothing (.here (.acquiring a stage') (.half a.half) rfl here)

/-- **A step that is kept can be taken in both runs**, and the states after it are the same for the
registry. -/
theorem kept (same : s.SameAt L g s') (reachable : Reachable L s) (reachable' : Reachable L s')
    (calm : s.IsCalm) (calm' : s'.IsCalm) (next : s.next? L α = some s₁)
    (own : ¬ α.IsForeign L g s) (quiet : ∀ t, α ≠ .interrupt t) :
    ∃ s₁', s'.next? L α = some s₁' ∧ s₁.SameAt L g s₁' ∧
      ∀ t x, α.turnOf? = some t → α.subject? s = some x → x.registryIn L = g →
        s₁'.activity t = s₁.activity t := by
  have own : ∀ x ∈ α.subject? s, ¬ x.IsForeign L g := fun x about foreign => own ⟨x, about, foreign⟩
  cases α with
  | call t c =>
    obtain ⟨last, ready, rfl⟩ := next?_call next
    obtain ⟨last', ready'⟩ := same.exists_ready (t := t) (by rw [ready]; exact nofun)
    refine ⟨s'.after L t .nothing (c.start s.now), ?_, same.after .nothing ?_, ?_⟩
    · simp only [State.next?, ready', same.now]
      rfl
    · exact .of_own (c.subject?_start _) (own _ rfl)
    · rintro _ x ⟨⟩ - -
      rw [activity_after_self, activity_after_self]
  | step t =>
    obtain ⟨e, A', turn, rfl⟩ := stepTurn_of_step next
    obtain ⟨A₁', turn', goesOn, leads⟩ := same.stepTurn reachable.invariant reachable'.invariant
      calm calm' (same.activity t) own turn
    refine ⟨_, step?_of_stepTurn turn', same.after e goesOn, ?_⟩
    rintro _ x ⟨⟩ about here
    rw [activity_after_self, activity_after_self]
    exact leads x about here
  | expire t =>
    simp only [State.next?, expire?] at next
    split at next
    · rename_i a m acquiring
      split at next
      · rename_i deadline bounded
        split at next
        · rename_i due
          cases next
          obtain ⟨acquiring', goesOn⟩ := same.waiting acquiring own
          refine ⟨_, ?_, goesOn _, fun u x mine _ _ => ?_⟩
          · simp only [State.next?, expire?, acquiring', bounded, same.now, if_pos due]
          · cases mine
            rw [activity_setActivity_self, activity_setActivity_self]
        · cases next
      · cases next
    · cases next
  | rouse t =>
    simp only [State.next?, rouse?] at next
    split at next
    · rename_i a m notified wakeAt acquiring
      split at next
      · rename_i due
        cases next
        obtain ⟨acquiring', goesOn⟩ := same.waiting acquiring own
        refine ⟨_, ?_, goesOn _, fun u x mine _ _ => ?_⟩
        · simp only [State.next?, rouse?, acquiring', same.now, if_pos due]
        · cases mine
          rw [activity_setActivity_self, activity_setActivity_self]
      · cases next
    · cases next
  | interrupt t => exact absurd rfl (quiet t)
  | clearFlag t =>
    simp only [State.next?] at next
    split at next
    · rename_i last ready
      cases next
      obtain ⟨last', ready'⟩ := same.exists_ready (t := t) (by rw [ready]; exact nofun)
      refine ⟨s'.setInterrupted t false, by simp only [State.next?, ready'], ?_,
        by simp [Action.turnOf?]⟩
      exact ⟨same.registry, same.holds, fun u => by simpa using same.activity u, same.now⟩
    · cases next
  | pass nanos =>
    cases next
    refine ⟨_, rfl, ?_, by simp [Action.turnOf?]⟩
    exact ⟨same.registry, same.holds, same.activity, congrArg (· + nanos) same.now⟩

end SameAt

/-! ## Runs side by side -/

/-- **Two runs side by side**: from states that are the same for a registry, what is left of a run
can happen next to it. -/
theorem SameAt.beside {αs : List (Action K)} {s₂ : State b K} (same : s.SameAt L g s')
    (reachable : Reachable L s) (reachable' : Reachable L s') (calm : s.IsCalm) (calm' : s'.IsCalm)
    (run : s.run? L αs = some s₂) (quiet : ∀ t, .interrupt t ∉ αs) :
    s.Beside L g αs s' (s.without L g αs) := by
  induction αs generalizing s s' with
  | nil => exact .done same
  | cons α αs ih =>
    obtain ⟨s₁, next, rest⟩ := run?_cons_eq_some.1 run
    have quiet₁ : ∀ t, α ≠ .interrupt t := by
      rintro t rfl
      exact quiet t List.mem_cons_self
    have quiet' : ∀ t, .interrupt t ∉ αs := fun t ht => quiet t (List.mem_cons_of_mem _ ht)
    have reachable₁ := reachable.next α next
    have calm₁ := calm.next? next quiet₁
    simp only [without, next]
    split
    · rename_i foreign
      exact .deleted same foreign next
        (ih (same.deleted next foreign) reachable₁ reachable' calm₁ calm' rest quiet')
    · rename_i own
      obtain ⟨s₁', next', same₁, leads⟩ :=
        same.kept reachable reachable' calm calm' next own quiet₁
      exact .kept same own next next' leads (ih same₁ reachable₁ (reachable'.next α next') calm₁
        (calm'.next? next' quiet₁) rest quiet')

/-- The second of two runs side by side is one, and where the first ends the states are the same for
the registry. -/
theorem Beside.exists_run? {αs βs : List (Action K)} {s₂ : State b K}
    (beside : s.Beside L g αs s' βs) (run : s.run? L αs = some s₂) :
    ∃ s₂', s'.run? L βs = some s₂' ∧ s₂.SameAt L g s₂' := by
  induction beside with
  | done same =>
    cases run
    exact ⟨_, rfl, same⟩
  | deleted same foreign next rest ih =>
    obtain ⟨_, next₁, run⟩ := run?_cons_eq_some.1 run
    rw [next] at next₁
    cases next₁
    exact ih run
  | kept same own next next' leads rest ih =>
    obtain ⟨_, next₁, run⟩ := run?_cons_eq_some.1 run
    rw [next] at next₁
    cases next₁
    obtain ⟨s₂', run', same'⟩ := ih run
    exact ⟨s₂', run?_cons_eq_some.2 ⟨_, next', run'⟩, same'⟩

/-- What is to be said of a run that leads to a state, and of what is left of it when the operations
on locks of other registries are deleted. -/
structure Isolated (L : Layout K) (g : RegistryId) (αs : List (Action K)) (s : State b K) :
    Prop where
  /-- What is left is a run, and leads to a state that is the same for the registry. -/
  run : ∃ s', initial.run? L ((initial : State b K).without L g αs) = some s' ∧ s.SameAt L g s'
  /-- At every point on the way the states are the same for the registry, and every step of an
  operation there leads to the same. -/
  beside : (initial : State b K).Beside L g αs initial ((initial : State b K).without L g αs)

/-- **Locks of different registries never interact.** When every step of an operation on a lock of
another registry is deleted from a run without interrupts, what is left is a run in which nothing
has changed for the registry. -/
theorem isolated (L : Layout K) (g : RegistryId) {αs : List (Action K)} {s : State b K}
    (run : initial.run? L αs = some s) (quiet : ∀ t, .interrupt t ∉ αs) : Isolated L g αs s := by
  have beside := (sameAt_initial (b := b) (L := L) (g := g)).beside .initial .initial
    (fun _ => rfl) (fun _ => rfl) run quiet
  exact ⟨beside.exists_run? run, beside⟩

end State

/-! ## A run over two registries -/

/-- Two locks over the same resource, each in a registry of its own. -/
def Layout.twins : Layout Nat where
  locks := ((Table.const ⟨0, .empty⟩).set 0 ⟨0, .ofList .hash [1]⟩).set 1 ⟨1, .ofList .hash [1]⟩

namespace State

/-- One thread writes in both registries. Another one sleeps for the first lock meanwhile, and a
third one for the second. Both locks are released, and the second thread acquires the first lock. -/
def twinWriters : List (Action Nat) :=
  Action.follow 0 (.acquire ⟨1, .write⟩ { manner := .lock }) 14 ++
    Action.follow 0 (.acquire ⟨0, .write⟩ { manner := .lock }) 14 ++
    Action.follow 2 (.acquire ⟨1, .write⟩ { manner := .lock }) 7 ++
    Action.follow 1 (.acquire ⟨0, .write⟩ { manner := .lock }) 7 ++
    Action.follow 0 (.unlock ⟨1, .write⟩) 6 ++ Action.follow 0 (.unlock ⟨0, .write⟩) 6 ++
    List.replicate 12 (.step 1)

/-- Two threads write-lock the same resources in two registries; without the second one the first
goes through its whole call. -/
theorem isolated_twinWriters :
    Isolated .twins 0 twinWriters (finish .twins twinWriters : State .hash Nat) ∧
      (initial : State .hash Nat).without .twins 0 twinWriters =
        Action.follow 0 (.acquire ⟨0, .write⟩ { manner := .lock }) 14 ++
          Action.follow 1 (.acquire ⟨0, .write⟩ { manner := .lock }) 7 ++
          Action.follow 0 (.unlock ⟨0, .write⟩) 6 ++ List.replicate 12 (.step 1) ∧
      (finish .twins twinWriters : State .hash Nat).IsHeldBy ⟨0, .write⟩ 1 :=
  ⟨isolated .twins 0 (by decide +kernel) (by simp [twinWriters, Action.follow]),
    by decide +kernel, by decide +kernel⟩

end State

end ResourceLocks.Protocol
