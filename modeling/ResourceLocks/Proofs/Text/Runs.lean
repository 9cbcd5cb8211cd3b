import Mathlib.Data.List.Basic
import Mathlib.Data.List.TakeDrop

/-!
# Runs of characters

Readers take the longest run of characters of a kind off the front of a text: digits, blanks, the
characters of a name. What was written as such a run is taken off again as a whole if the text
**breaks** the run behind it (`Breaks`), which it does at its end or with a character of another
kind. `span_append`, `takeWhile_append` and `dropWhile_append` say so for the three ways to take a
run.

The digits of a number are a run that starts with a zero for the number zero only
(`toDigits_eq_cons`). So a reader that refuses leading zeros takes them all.
-/

namespace ResourceLocks.Text

variable {p q : Char → Bool} {c : Char} {cs run rest : List Char}

/-! ## Breaking a run -/

/-- The text does not start with a character of a kind. -/
def Breaks (p : Char → Bool) (cs : List Char) : Prop := ∀ c ∈ cs.head?, p c = false

/-- Where nothing follows a run does not go on. -/
theorem Breaks.nil : Breaks p [] := nofun

/-- Where another character follows a run does not go on. -/
theorem Breaks.cons (other : p c = false) : Breaks p (c :: cs) := by
  rintro c ⟨⟩
  exact other

/-- What breaks the runs of a kind breaks those of a narrower one. -/
theorem Breaks.mono (breaks : Breaks p cs) (narrower : ∀ c, q c = true → p c = true) :
    Breaks q cs := by
  intro c first
  refine Bool.eq_false_iff.2 fun here => ?_
  exact Bool.eq_false_iff.1 (breaks c first) (narrower c here)

/-- Nothing is taken where a run does not go on. -/
theorem Breaks.takeWhile (breaks : Breaks p cs) : cs.takeWhile p = [] := by
  cases cs with
  | nil => rfl
  | cons c cs => rw [List.takeWhile_cons, if_neg (by rw [breaks c rfl]; decide)]

/-- Nothing is dropped where a run does not go on. -/
theorem Breaks.dropWhile (breaks : Breaks p cs) : cs.dropWhile p = cs := by
  cases cs with
  | nil => rfl
  | cons c cs => rw [List.dropWhile_cons, if_neg (by rw [breaks c rfl]; decide)]

/-- Nothing is split off where a run does not go on. -/
theorem Breaks.span (breaks : Breaks p cs) : cs.span p = ([], cs) := by
  rw [List.span_eq_takeWhile_dropWhile, breaks.takeWhile, breaks.dropWhile]

/-- What is cut off behind does not matter. -/
theorem Breaks.take (breaks : Breaks p cs) (n : Nat) : Breaks p (cs.take n) := by
  cases n with
  | zero => exact .nil
  | succ n => cases cs with
    | nil => exact .nil
    | cons c cs => exact .cons (breaks c rfl)

/-- A text that starts with a character of a kind does not start with one of another kind. -/
theorem cons_ne_cons {d : Char} {cs' : List Char} (here : p c = true) (other : p d = false) :
    c :: cs ≠ d :: cs' := by
  rintro ⟨⟩
  exact Bool.eq_false_iff.1 other here

/-! ## Taking a run -/

/-- A run is taken up to where it does not go on. -/
theorem takeWhile_append (all : ∀ c ∈ run, p c = true) (breaks : Breaks p rest) :
    (run ++ rest).takeWhile p = run := by
  rw [List.takeWhile_append_of_pos all, breaks.takeWhile, List.append_nil]

/-- A run is dropped up to where it does not go on. -/
theorem dropWhile_append (all : ∀ c ∈ run, p c = true) (breaks : Breaks p rest) :
    (run ++ rest).dropWhile p = rest := by
  rw [List.dropWhile_append_of_pos all, breaks.dropWhile]

/-- **A run is taken as a whole** and nothing else. -/
theorem span_append (all : ∀ c ∈ run, p c = true) (breaks : Breaks p rest) :
    (run ++ rest).span p = (run, rest) := by
  rw [List.span_eq_takeWhile_dropWhile, takeWhile_append all breaks, dropWhile_append all breaks]

/-! ## The digits of a number -/

/-- The digits of a number are digits. -/
theorem isDigit_of_mem_toDigits {n : Nat} (here : c ∈ Nat.toDigits 10 n) : c.isDigit = true :=
  Nat.isDigit_of_mem_toDigits (by decide) (by decide) here

/-- **No number but zero starts with a zero.** -/
theorem head?_toDigits_ne {n : Nat} (positive : 0 < n) : (Nat.toDigits 10 n).head? ≠ some '0' := by
  induction n using Nat.strongRecOn with
  | ind n ih =>
    by_cases small : n < 10
    · rw [Nat.toDigits_of_lt_base small, List.head?_cons]
      intro zero
      exact Nat.ne_of_gt positive (Nat.digitChar_eq_zero.1 (Option.some.inj zero))
    · have more : 0 < n / 10 := Nat.div_pos (Nat.le_of_not_lt small) (by decide)
      rw [Nat.toDigits_of_base_le (by decide) (Nat.le_of_not_lt small),
        List.head?_append_of_ne_nil _ Nat.toDigits_ne_nil]
      exact ih (n / 10) (Nat.div_lt_self positive (by decide)) more

/-- The digits of a number: a first one, which is zero for the number zero only, and the others. -/
theorem toDigits_eq_cons (n : Nat) :
    ∃ d ds, Nat.toDigits 10 n = d :: ds ∧ d.isDigit = true ∧ (∀ c ∈ ds, c.isDigit = true) ∧
      (d = '0' → ds = []) := by
  obtain ⟨d, ds, digits⟩ := List.exists_cons_of_ne_nil (Nat.toDigits_ne_nil (n := n) (b := 10))
  have all : ∀ c ∈ d :: ds, c.isDigit = true := fun c here =>
    isDigit_of_mem_toDigits (digits ▸ here)
  refine ⟨d, ds, digits, all d List.mem_cons_self,
    fun c here => all c (List.mem_cons_of_mem d here), ?_⟩
  rintro rfl
  obtain rfl | positive := Nat.eq_zero_or_pos n
  · exact (List.cons.inj digits).2.symm
  · exact absurd (digits ▸ rfl) (head?_toDigits_ne positive)

end ResourceLocks.Text
