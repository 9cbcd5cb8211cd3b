import ResourceLocks.Json.Forms
import ResourceLocks.Proofs.Calendar.RoundTrip
import ResourceLocks.Proofs.Json.RoundTrip

/-!
# Data survive JSON

The five kinds of data that are exchanged have different shapes: words, a tagged value, a record
with all fields required and one with defaults. Each is a `Form`: how a value becomes a JSON value,
how it is found in one, by which JSON values it is spelled, and which counts and moments it holds.

* **Spelling**: a value has many accepted forms. An object has its fields in any order among others
  with other names (`Lists`), a list has them in the order of their declaration, a word may stand
  in an object, a moment on any clock, and a field with a default may be missing.
* **Fitting values** (`Form.Fits`) are those that some text is read as: their counts have 64 bits,
  and their moments are readable.
* **Laws** (`Form.Lawful`): every JSON value that spells a fitting value is read as it, and so is
  the one that is written; what is found in a JSON value fits; and different values have different
  JSON values if their moments are readable. Each form has its own proof of them.
* **Survival** (`Form.Survives`): so much for JSON values, and for texts it follows from the laws,
  since what is written as JSON is read as the same JSON value (`Json.parse?_render`).

`dataSurvives` puts the five together.
-/

namespace ResourceLocks.Json

/-! ## Forms -/

/-- How one kind of data is exchanged. -/
structure Form (α : Type) where
  /-- The JSON value of a value. -/
  toJson : α → Json
  /-- The value that a JSON value stands for. -/
  ofJson? : Json → Option α
  /-- A JSON value is an accepted form of a value. -/
  Spells : α → Json → Prop
  /-- The counts in a value. -/
  counts : α → List Nat
  /-- The moments in a value. -/
  moments : α → List Calendar.Timestamp

namespace Form

variable {α : Type} {F : Form α} {v : α}

/-- The text that a value is written as. -/
def write (F : Form α) (v : α) : String := (F.toJson v).render

/-- The value that a text is read as. -/
def read? (F : Form α) (text : String) : Option α := (parse? text).bind F.ofJson?

/-- The parts of a value are such as a text can stand for. -/
structure Fits (F : Form α) (v : α) : Prop where
  /-- All counts have at most 64 bits. -/
  counts : ∀ n ∈ F.counts v, n < UInt64.size
  /-- All moments are readable: a leap second stands at the end of a minute. -/
  moments : ∀ t ∈ F.moments v, t.Readable

/-- What a form has to satisfy on JSON values. -/
structure Lawful (F : Form α) : Prop where
  /-- Every value has a written form. -/
  writable : ∀ v, (F.toJson v).Writable
  /-- It is an accepted form of the value if the value fits. -/
  spelled : ∀ v, F.Fits v → F.Spells v (F.toJson v)
  /-- What spells a value is read as it if the value fits. -/
  accepted : ∀ v j, F.Fits v → F.Spells v j → F.ofJson? j = some v
  /-- What is found fits. -/
  fits : ∀ j v, F.ofJson? j = some v → F.Fits v
  /-- Different values have different JSON values if their moments are readable. -/
  distinct : ∀ v v', (∀ t ∈ F.moments v, t.Readable) → (∀ t ∈ F.moments v', t.Readable) →
    F.toJson v = F.toJson v' → v = v'

/-- What becomes of the values of a form in texts. -/
structure Survives (F : Form α) : Prop where
  /-- A text in any accepted form of a value is read as that value. -/
  accepted : ∀ text j v, parse? text = some j → F.Spells v j → F.Fits v → F.read? text = some v
  /-- A value that was read from any text is written as a text that is read as the same value. -/
  reread : ∀ text v, F.read? text = some v → F.read? (F.write v) = some v
  /-- The values that some text is read as are those with counts below 2⁶⁴ and with readable
  moments. -/
  readable : ∀ v, (∃ text, F.read? text = some v) ↔ F.Fits v
  /-- These are the values that are read as the same value from what they were written as. -/
  kept : ∀ v, F.read? (F.write v) = some v ↔ F.Fits v
  /-- Different values are written as different texts, of whatever counts; only moments have to be
  readable, as they are if some text is read as them. -/
  distinct : ∀ v v', (∀ t ∈ F.moments v, t.Readable) → (∀ t ∈ F.moments v', t.Readable) →
    F.write v = F.write v' → v = v'

/-- What is read fits. -/
theorem Lawful.fits_of_read? (lawful : F.Lawful) {text : String} (read : F.read? text = some v) :
    F.Fits v := by
  obtain ⟨j, -, found⟩ := Option.bind_eq_some_iff.1 read
  exact lawful.fits j v found

/-- The text of a value is read as the value if the value fits. -/
theorem Lawful.read?_write (lawful : F.Lawful) (fits : F.Fits v) :
    F.read? (F.write v) = some v := by
  rw [read?, write, parse?_render (lawful.writable v), Option.bind_some]
  exact lawful.accepted v _ fits (lawful.spelled v fits)

/-- **Values of a lawful form survive.** -/
theorem Lawful.survives (lawful : F.Lawful) : F.Survives where
  accepted text j v parsed spells fits := by
    rw [read?, parsed, Option.bind_some]
    exact lawful.accepted v j fits spells
  reread text v read := lawful.read?_write (lawful.fits_of_read? read)
  readable v :=
    ⟨fun ⟨_, read⟩ => lawful.fits_of_read? read, fun fits => ⟨F.write v, lawful.read?_write fits⟩⟩
  kept v := ⟨lawful.fits_of_read?, lawful.read?_write⟩
  distinct v v' moments moments' same := by
    have parsed : some (F.toJson v) = some (F.toJson v') := by
      rw [← parse?_render (lawful.writable v), ← parse?_render (lawful.writable v')]
      exact congrArg parse? same
    exact lawful.distinct v v' moments moments' (Option.some.inj parsed)

end Form

/-! ## Texts and counts -/

/-- Different texts have different JSON values. -/
theorem str_inj {s s' : String} : str s = str s' ↔ s = s' := by simp [str]

/-- Different counts have different JSON values. -/
theorem nat_inj {n n' : Nat} : nat n = nat n' ↔ n = n' := by simp [nat]

/-- Every text is written. -/
theorem Writable.str (s : String) : (str s).Writable := .text s

/-- Every count is written. -/
theorem Writable.nat (n : Nat) : (nat n).Writable := .number trivial

/-- An object is written if the values of its fields are. -/
theorem Writable.obj {fields : List (String × Json)} (writable : ∀ f ∈ fields, f.2.Writable) :
    (obj fields).Writable := by
  refine .object ?_ ?_
  · intro f here
    obtain ⟨g, -, rfl⟩ := List.mem_map.1 here
    rfl
  · intro f here
    obtain ⟨g, mem, rfl⟩ := List.mem_map.1 here
    exact writable g mem

/-- A count of 64 bits is read as itself. -/
theorem nat64?_nat {n : Nat} (small : n < UInt64.size) : (nat n).nat64? = some n := if_pos small

/-- A text on any clock is read as the moment that the clock shows. -/
theorem timestamp?_text {w : Calendar.LocalTime} {t : Calendar.Timestamp} (shows : w.Shows t)
    (readable : t.Readable) : timestamp? (str w.text) = some t := by
  rw [timestamp?, str, text?, Option.bind_some, Calendar.LocalTime.read?_text.2 ⟨shows, readable⟩]

/-- A moment that was read is readable. -/
theorem readable_of_timestamp? {j : Json} {t : Calendar.Timestamp}
    (read : timestamp? j = some t) : t.Readable := by
  obtain ⟨text, -, found⟩ := Option.bind_eq_some_iff.1 read
  exact Calendar.Timestamp.readable_of_read? found

/-- A number of 64 bits is in range. -/
theorem isFinite_integer {negative : Bool} {n : Nat} (small : n < UInt64.size) :
    (Number.integer negative n).isFinite = true :=
  if_pos small

/-- A count that was read has at most 64 bits. -/
theorem lt_of_nat64? {j : Json} {n : Nat} (read : j.nat64? = some n) : n < UInt64.size := by
  unfold nat64? at read
  split at read
  · split at read
    · cases read
      assumption
    · cases read
  · cases read

/-- What is read from a required field is read from some JSON value. -/
theorem exists_of_required? {β : Type} {read? : Json → Option β} {name : String}
    {fields : List (Text × Json)} {b : β} (read : required? read? name fields = some b) :
    ∃ j, read? j = some b := by
  unfold required? at read
  split at read
  · exact ⟨_, read⟩
  · cases read

/-- A count in a required field has at most 64 bits. -/
theorem lt_of_required? {name : String} {fields : List (Text × Json)} {n : Nat}
    (read : required? nat64? name fields = some n) : n < UInt64.size := by
  obtain ⟨j, found⟩ := exists_of_required? read
  exact lt_of_nat64? found

/-! ## Fields in any order -/

/-- The fields of an object are the given ones in any order, among others whose names are none of
those that are looked for. -/
def Lists (names : List String) (given : List (String × Json)) (fields : List (Text × Json)) :
    Prop :=
  ∃ others : List (String × Json), (∀ f ∈ others, f.1 ∉ names) ∧
    fields.Perm ((given ++ others).map fun f => (some f.1, f.2))

section Lists

variable {α : Type} {read : Json → Option α} {default : α} {name : String} {names : List String}
  {given : List (String × Json)} {fields : List (Text × Json)} {j : Json}

/-- Fields as they are written are such fields. -/
theorem lists_self (names : List String) (given : List (String × Json)) :
    Lists names given (given.map fun f => (some f.1, f.2)) :=
  ⟨[], fun _ here => absurd here List.not_mem_nil, by rw [List.append_nil]⟩

/-- All names of such fields are texts. -/
theorem Lists.namesWhole (listed : Lists names given fields) : namesWhole fields = true := by
  obtain ⟨others, -, perm⟩ := listed
  refine List.all_eq_true.2 fun f here => ?_
  obtain ⟨g, -, rfl⟩ := List.mem_map.1 (perm.mem_iff.1 here)
  rfl

/-- The values under a name that is looked for are those that are given under it. -/
theorem Lists.fieldsNamed_perm (listed : Lists names given fields) (known : name ∈ names) :
    (fieldsNamed name fields).Perm ((given.filter fun f => f.1 == name).map Prod.snd) := by
  obtain ⟨others, apart, perm⟩ := listed
  have none : others.filter (fun f => f.1 == name) = [] := by
    refine List.filter_eq_nil_iff.2 fun f here same => ?_
    exact apart f here (beq_iff_eq.1 same ▸ known)
  have found := (perm.filter fun f => f.1 == some name).map Prod.snd
  have same : ((fun f : Text × Json => f.1 == some name) ∘
      fun f : String × Json => (some f.1, f.2)) = fun f => f.1 == name := rfl
  rw [List.filter_map, same, List.filter_append, none, List.append_nil, List.map_map] at found
  exact found

/-- A field that is given once is read. -/
theorem Lists.required?_eq (listed : Lists names given fields) (known : name ∈ names)
    (once : (given.filter fun f => f.1 == name).map Prod.snd = [j]) :
    required? read name fields = read j := by
  have found := listed.fieldsNamed_perm known
  rw [once, List.perm_singleton] at found
  rw [required?, found]

/-- So is one that has a default. -/
theorem Lists.optional?_eq (listed : Lists names given fields) (known : name ∈ names)
    (once : (given.filter fun f => f.1 == name).map Prod.snd = [j]) :
    optional? read default name fields = read j := by
  have found := listed.fieldsNamed_perm known
  rw [once, List.perm_singleton] at found
  rw [optional?, found]

/-- A field that is not given has its default. -/
theorem Lists.optional?_missing (listed : Lists names given fields) (known : name ∈ names)
    (missing : (given.filter fun f => f.1 == name).map Prod.snd = []) :
    optional? read default name fields = some default := by
  have found := listed.fieldsNamed_perm known
  rw [missing, List.perm_nil] at found
  rw [optional?, found]

end Lists

/-! ## Words -/

/-- A word is a text, or the name of the only field of an object, with `null` as its value. -/
def SpellsWord (word : String) (j : Json) : Prop := j = str word ∨ j = object [(some word, null)]

/-- A word is found in both of its forms. -/
theorem word?_of_spellsWord {word : String} {j : Json} (spells : SpellsWord word j) :
    j.word? = some word := by
  obtain rfl | rfl := spells <;> rfl

/-- Words are lawful if every value is found by its own word. -/
theorem Form.lawful_of_words {α : Type} {name : α → String} {ofName? : String → Option α}
    (named : ∀ v, ofName? (name v) = some v) :
    Form.Lawful { toJson := fun v => str (name v), ofJson? := fun j => j.word?.bind ofName?
                  Spells := fun v => SpellsWord (name v)
                  counts := fun _ => [], moments := fun _ => [] } where
  writable v := .str (name v)
  spelled v _ := .inl rfl
  accepted v j _ spells := by
    show j.word?.bind ofName? = some v
    rw [word?_of_spellsWord spells, Option.bind_some, named]
  fits _ _ _ := ⟨nofun, List.forall_mem_nil _⟩
  distinct v v' _ _ same := by
    have found : some v = some v' := by rw [← named v, str_inj.1 same, named]
    exact Option.some.inj found

end ResourceLocks.Json

namespace ResourceLocks

open Json

/-! ## Kinds and lock states -/

/-- Kinds of lock. -/
def Kind.form : Form Kind where
  toJson := toJson
  ofJson? := ofJson?
  Spells k := SpellsWord k.name
  counts _ := []
  moments _ := []

/-- A kind is found by its own name. -/
theorem Kind.lawful : Kind.form.Lawful := Form.lawful_of_words fun k => by cases k <;> rfl

/-- Lock states. -/
def LockState.form : Form LockState where
  toJson := toJson
  ofJson? := ofJson?
  Spells s := SpellsWord s.name
  counts _ := []
  moments _ := []

/-- A lock state is found by its own name. -/
theorem LockState.lawful : LockState.form.Lawful :=
  Form.lawful_of_words fun s => by cases s <;> rfl

/-! ## Statuses -/

namespace ResourceStatus

/-- The tag of a status. -/
def tag : ResourceStatus → String
  | available => "available"
  | shared _ => "shared"
  | exclusive _ => "exclusive"
  | draining _ => "draining"

/-- What a status has besides its tag. -/
def content : ResourceStatus → List (String × Json)
  | available => []
  | shared n => [("holders", .nat n)]
  | exclusive mine => [("held_by_current_thread", .bool mine)]
  | draining n => [("shared_holders", .nat n)]

/-- The counts in a status. -/
def counts : ResourceStatus → List Nat
  | shared n | draining n => [n]
  | available | exclusive _ => []

/-- A status is an object with the tag among its fields, or a list that starts with the tag. -/
def Spells (s : ResourceStatus) (j : Json) : Prop :=
  j.admissible = true ∧
    ((∃ fields, j = object fields ∧
        Lists ("status" :: s.content.map Prod.fst) (("status", str s.tag) :: s.content) fields) ∨
      j = array (str s.tag :: s.content.map Prod.snd))

/-- Statuses of resources. -/
def form : Form ResourceStatus := { toJson, ofJson?, Spells, counts, moments := fun _ => [] }

/-- A status is written as its tag and what it has besides. -/
theorem toJson_eq (s : ResourceStatus) : s.toJson = obj (("status", str s.tag) :: s.content) := by
  cases s <;> rfl

/-- The JSON value of a status is admissible if its count fits. -/
theorem admissible_toJson {s : ResourceStatus} (fits : form.Fits s) :
    s.toJson.admissible = true := by
  cases s with
  | available => rfl
  | exclusive mine => rfl
  | shared n | draining n =>
    have finite : (Number.integer false n).isFinite = true :=
      isFinite_integer (fits.counts n (.head _))
    simp [toJson, obj, str, nat, admissible, maxDepth, admissibleWithin, fieldsWithin, finite]

/-- **Every accepted form of a status is read as it.** -/
theorem ofJson?_of_spells {s : ResourceStatus} {j : Json} (fits : form.Fits s)
    (spells : s.Spells j) : ofJson? j = some s := by
  obtain ⟨admissible, ⟨fields, rfl, listed⟩ | rfl⟩ := spells
  · have tagged : required? text? "status" fields = some s.tag := by
      cases s <;> exact listed.required?_eq (.head _) rfl
    rw [ofJson?, if_pos admissible, tagged, Option.bind_some]
    cases s with
    | available => rfl
    | exclusive mine =>
      exact congrArg (Option.map exclusive) (listed.required?_eq (.tail _ (.head _)) rfl)
    | shared n =>
      have count : required? nat64? "holders" fields = some n :=
        (listed.required?_eq (.tail _ (.head _)) rfl).trans (nat64?_nat (fits.counts n (.head _)))
      exact congrArg (Option.map shared) count
    | draining n =>
      have count : required? nat64? "shared_holders" fields = some n :=
        (listed.required?_eq (.tail _ (.head _)) rfl).trans (nat64?_nat (fits.counts n (.head _)))
      exact congrArg (Option.map draining) count
  · rw [ofJson?, if_pos admissible]
    cases s with
    | available => rfl
    | exclusive mine => rfl
    | shared n => exact congrArg (Option.map shared) (nat64?_nat (fits.counts n (.head _)))
    | draining n => exact congrArg (Option.map draining) (nat64?_nat (fits.counts n (.head _)))

/-- A status made of a count fits if the count does. -/
theorem fits_of_map {build : Nat → ResourceStatus} (counted : ∀ n, (build n).counts = [n])
    {count? : Option Nat} (small : ∀ n, count? = some n → n < UInt64.size) {s : ResourceStatus}
    (found : count?.map build = some s) : form.Fits s := by
  obtain ⟨n, read, rfl⟩ := Option.map_eq_some_iff.1 found
  refine ⟨?_, List.forall_mem_nil _⟩
  show ∀ m ∈ (build n).counts, m < UInt64.size
  rw [counted n]
  exact List.forall_mem_singleton.2 (small n read)

/-- What is found by the names of fields fits. -/
theorem fits_of_ofFields? {tag : String} {fields : List (Text × Json)} {s : ResourceStatus}
    (found : ofFields? tag fields = some s) : form.Fits s := by
  unfold ofFields? at found
  split at found
  · cases found
    exact ⟨nofun, List.forall_mem_nil _⟩
  · exact fits_of_map (fun _ => rfl) (fun _ => lt_of_required?) found
  · obtain ⟨mine, -, rfl⟩ := Option.map_eq_some_iff.1 found
    exact ⟨nofun, List.forall_mem_nil _⟩
  · exact fits_of_map (fun _ => rfl) (fun _ => lt_of_required?) found
  · cases found

/-- What is found by the order of items fits. -/
theorem fits_of_ofItems? {tag : String} {items : List Json} {s : ResourceStatus}
    (found : ofItems? tag items = some s) : form.Fits s := by
  unfold ofItems? at found
  split at found
  · cases found
    exact ⟨nofun, List.forall_mem_nil _⟩
  · exact fits_of_map (fun _ => rfl) (fun _ => lt_of_nat64?) found
  · obtain ⟨mine, -, rfl⟩ := Option.map_eq_some_iff.1 found
    exact ⟨nofun, List.forall_mem_nil _⟩
  · exact fits_of_map (fun _ => rfl) (fun _ => lt_of_nat64?) found
  · cases found

/-- What is found as a status fits. -/
theorem fits_of_ofJson? {j : Json} {s : ResourceStatus} (found : ofJson? j = some s) :
    form.Fits s := by
  unfold ofJson? at found
  split at found
  · split at found
    · obtain ⟨tag, -, found⟩ := Option.bind_eq_some_iff.1 found
      exact fits_of_ofFields? found
    · obtain ⟨tag, -, found⟩ := Option.bind_eq_some_iff.1 found
      exact fits_of_ofItems? found
    · cases found
  · cases found

/-- Statuses are a lawful form. -/
theorem lawful : form.Lawful where
  writable s := by
    cases s <;> exact .obj (by simp [Writable.str, Writable.nat, Writable.bool])
  spelled s fits :=
    ⟨admissible_toJson fits, .inl ⟨_, s.toJson_eq, lists_self ..⟩⟩
  accepted _ _ := ofJson?_of_spells
  fits _ _ := fits_of_ofJson?
  distinct s s' _ _ same := by
    cases s <;> cases s' <;> simp_all [form, toJson, obj, str_inj, nat_inj]

end ResourceStatus

/-! ## Snapshots -/

namespace Snapshot

/-- The counts in a snapshot. -/
def counts (s : Snapshot) : List Nat := [s.exclusiveResources, s.sharedResources, s.sharedHolds]

/-- The fields of a snapshot, with its moment written in some way. -/
def fields (s : Snapshot) (moment : String) : List (String × Json) :=
  [("taken_at", .str moment), ("exclusive_resources", .nat s.exclusiveResources),
    ("shared_resources", .nat s.sharedResources), ("shared_holds", .nat s.sharedHolds)]

/-- A snapshot is an object with its fields, or a list of them; its moment is what some clock
shows. -/
def Spells (s : Snapshot) (j : Json) : Prop :=
  ∃ w : Calendar.LocalTime, w.Shows s.takenAt ∧
    ((∃ fields, j = object fields ∧
        Lists ((s.fields w.text).map Prod.fst) (s.fields w.text) fields) ∨
      j = array ((s.fields w.text).map Prod.snd))

/-- Snapshots. -/
def form : Form Snapshot := { toJson, ofJson?, Spells, counts, moments := fun s => [s.takenAt] }

/-- A snapshot fits if its moment is readable and its three counts have 64 bits. -/
theorem fits_iff {s : Snapshot} :
    form.Fits s ↔ s.takenAt.Readable ∧ s.exclusiveResources < UInt64.size ∧
      s.sharedResources < UInt64.size ∧ s.sharedHolds < UInt64.size := by
  constructor
  · rintro ⟨small, readable⟩
    exact ⟨readable _ (.head _), small _ (.head _), small _ (.tail _ (.head _)),
      small _ (.tail _ (.tail _ (.head _)))⟩
  · rintro ⟨readable, exclusive, shared, holds⟩
    refine ⟨?_, List.forall_mem_singleton.2 readable⟩
    simp only [form, counts, List.forall_mem_cons, exclusive, shared, holds, true_and]
    exact nofun

/-- **Every accepted form of a snapshot is read as it.** -/
theorem ofJson?_of_spells {s : Snapshot} {j : Json} (fits : form.Fits s) (spells : s.Spells j) :
    ofJson? j = some s := by
  obtain ⟨readable, exclusive, shared, holds⟩ := fits_iff.1 fits
  obtain ⟨w, shows, ⟨fields, rfl, listed⟩ | rfl⟩ := spells
  · have first : required? timestamp? "taken_at" fields = some s.takenAt :=
      (listed.required?_eq (.head _) rfl).trans (timestamp?_text shows readable)
    have second : required? nat64? "exclusive_resources" fields = some s.exclusiveResources :=
      (listed.required?_eq (.tail _ (.head _)) rfl).trans (nat64?_nat exclusive)
    have third : required? nat64? "shared_resources" fields = some s.sharedResources :=
      (listed.required?_eq (.tail _ (.tail _ (.head _))) rfl).trans (nat64?_nat shared)
    have fourth : required? nat64? "shared_holds" fields = some s.sharedHolds :=
      (listed.required?_eq (.tail _ (.tail _ (.tail _ (.head _)))) rfl).trans (nat64?_nat holds)
    rw [ofJson?, if_pos listed.namesWhole, first, second, third, fourth]
    rfl
  · simp only [Snapshot.fields, List.map_cons, List.map_nil, ofJson?,
      timestamp?_text shows readable, nat64?_nat exclusive, nat64?_nat shared, nat64?_nat holds,
      Option.bind_eq_bind, Option.bind_some]

/-- What is found as a snapshot fits. -/
theorem fits_of_ofJson? {j : Json} {s : Snapshot} (found : ofJson? j = some s) : form.Fits s := by
  unfold ofJson? at found
  split at found
  · split at found
    · simp only [Option.bind_eq_bind, Option.bind_eq_some_iff] at found
      obtain ⟨moment, first, exclusive, second, shared, third, holds, fourth, found⟩ := found
      cases found
      obtain ⟨j, moment⟩ := exists_of_required? first
      exact fits_iff.2 ⟨readable_of_timestamp? moment, lt_of_required? second,
        lt_of_required? third, lt_of_required? fourth⟩
    · cases found
  · simp only [Option.bind_eq_bind, Option.bind_eq_some_iff] at found
    obtain ⟨moment, first, exclusive, second, shared, third, holds, fourth, found⟩ := found
    cases found
    exact fits_iff.2 ⟨readable_of_timestamp? first, lt_of_nat64? second, lt_of_nat64? third,
      lt_of_nat64? fourth⟩
  · cases found

/-- Snapshots are a lawful form. -/
theorem lawful : form.Lawful where
  writable s := .obj (by simp [Writable.str, Writable.nat])
  spelled s _ := by
    refine ⟨s.takenAt.toLocal, s.takenAt.toLocal_shows, .inl ⟨_, ?_, lists_self ..⟩⟩
    rw [← Calendar.Timestamp.write_eq]
    rfl
  accepted _ _ := ofJson?_of_spells
  fits _ _ := fits_of_ofJson?
  distinct s s' readable readable' same := by
    obtain ⟨⟨exclusive, shared, holds⟩, moment⟩ := s
    obtain ⟨⟨exclusive', shared', holds'⟩, moment'⟩ := s'
    simp only [form, toJson, obj, List.map_cons, List.map_nil, object.injEq, List.cons.injEq,
      Prod.mk.injEq, true_and, and_true, str_inj, nat_inj] at same
    obtain ⟨written, rfl, rfl, rfl⟩ := same
    have same : moment = moment' := Calendar.Timestamp.write_inj_of_readable
      (readable moment (.head _)) (readable' moment' (.head _)) written
    rw [same]

/-- A list in the order of the fields, with a moment on a clock that is two hours ahead. -/
example : (form.read? "[\"2024-03-01T01:30:00.25+02:00\",1,2,3]").map (·.takenAt.write) =
    some "2024-02-29T23:30:00.250Z" := by decide +kernel

end Snapshot

/-! ## Configurations -/

namespace Config

/-- Some of the fields of a configuration. -/
def fields (c : Config) (interval yields : Bool) : List (String × Json) :=
  (if interval then [("interrupt_check_interval_ms", .nat c.intervalMs.toNat)] else []) ++
    (if yields then [("yield_on_release", .bool c.yieldOnRelease)] else [])

/-- The fields that are left out have their defaults. -/
structure Omits (c : Config) (interval yields : Bool) : Prop where
  /-- The interval is the default if it is not given. -/
  interval : interval = false → c.intervalMs = ({} : Config).intervalMs
  /-- The flag is the default if it is not given. -/
  yields : yields = false → c.yieldOnRelease = ({} : Config).yieldOnRelease

/-- A configuration is an object with such fields, or a list of them without a gap. -/
def Spells (c : Config) (j : Json) : Prop :=
  ∃ interval yields, c.Omits interval yields ∧
    ((∃ fields, j = object fields ∧
        Lists ["interrupt_check_interval_ms", "yield_on_release"] (c.fields interval yields)
          fields) ∨
      (yields = true → interval = true) ∧ j = array ((c.fields interval yields).map Prod.snd))

/-- Configurations. -/
def form : Form Config where
  toJson := toJson
  ofJson? := ofJson?
  Spells := Spells
  counts c := [c.intervalMs.toNat]
  moments _ := []

/-- A configuration always fits, since its interval is a number of 64 bits. -/
theorem fits (c : Config) : form.Fits c :=
  ⟨List.forall_mem_singleton.2 c.intervalMs.toNat_lt, List.forall_mem_nil _⟩

/-- An interval is read as itself. -/
theorem interval?_nat (ms : UInt64) : interval? (nat ms.toNat) = some ms := by
  rw [interval?, nat64?_nat ms.toNat_lt, Option.map_some, UInt64.ofNat_toNat]

/-- **Every accepted form of a configuration is read as it.** -/
theorem ofJson?_of_spells {c : Config} {j : Json} (spells : c.Spells j) : ofJson? j = some c := by
  obtain ⟨interval, yields, omits, ⟨fields, rfl, listed⟩ | ⟨gapless, rfl⟩⟩ := spells
  · have first : optional? interval? ({} : Config).intervalMs "interrupt_check_interval_ms" fields =
        some c.intervalMs := by
      cases interval with
      | true =>
        refine (listed.optional?_eq (.head _) ?_).trans (interval?_nat c.intervalMs)
        cases yields <;> rfl
      | false =>
        rw [omits.interval rfl]
        exact listed.optional?_missing (.head _) (by cases yields <;> rfl)
    have second : optional? bool? ({} : Config).yieldOnRelease "yield_on_release" fields =
        some c.yieldOnRelease := by
      cases yields with
      | true => exact listed.optional?_eq (.tail _ (.head _)) (by cases interval <;> rfl)
      | false =>
        rw [omits.yields rfl]
        exact listed.optional?_missing (.tail _ (.head _)) (by cases interval <;> rfl)
    rw [ofJson?, if_pos listed.namesWhole]
    simp only [first, second, Option.bind_eq_bind, Option.bind_some]
  · obtain ⟨ms, flag⟩ := c
    cases interval with
    | false =>
      cases omits.interval rfl
      cases yields with
      | false =>
        cases omits.yields rfl
        rfl
      | true => cases gapless rfl
    | true =>
      cases yields with
      | false =>
        cases omits.yields rfl
        show (interval? (nat ms.toNat)).map _ = _
        rw [interval?_nat]
        rfl
      | true =>
        show (interval? (nat ms.toNat)).bind _ = _
        rw [interval?_nat]
        rfl

/-- Configurations are a lawful form. -/
theorem lawful : form.Lawful where
  writable c := .obj (by simp [Writable.bool, Writable.nat])
  spelled c _ := ⟨true, true, ⟨nofun, nofun⟩, .inl ⟨_, rfl, lists_self ..⟩⟩
  accepted _ _ _ := ofJson?_of_spells
  fits _ c _ := fits c
  distinct c c' _ _ same := by
    obtain ⟨ms, flag⟩ := c
    obtain ⟨ms', flag'⟩ := c'
    simp only [form, toJson, obj, List.map_cons, List.map_nil, object.injEq, List.cons.injEq,
      Prod.mk.injEq, true_and, and_true, nat_inj, bool.injEq, UInt64.toNat_inj] at same
    obtain ⟨rfl, rfl⟩ := same
    rfl

end Config

/-! ## All kinds of data -/

/-- What is exchanged survives. -/
structure DataSurvives : Prop where
  /-- Kinds of lock. -/
  kinds : Kind.form.Survives
  /-- Lock states. -/
  states : LockState.form.Survives
  /-- Statuses of resources. -/
  statuses : ResourceStatus.form.Survives
  /-- Snapshots, with their moment to the nanosecond, in a leap second too. -/
  snapshots : Snapshot.form.Survives
  /-- Configurations, legal or not. -/
  configurations : Config.form.Survives

/-- **The data that are exchanged survive JSON**, whatever text they were read from. -/
theorem dataSurvives : DataSurvives where
  kinds := Kind.lawful.survives
  states := LockState.lawful.survives
  statuses := ResourceStatus.lawful.survives
  snapshots := Snapshot.lawful.survives
  configurations := Config.lawful.survives

end ResourceLocks
