import ResourceLocks.Proofs.Text.Runs
import ResourceLocks.Toml.Reader

/-!
# Flat documents

A **flat** document is a list of lines with a bare key, an equals sign between two spaces, and a
value (`Line`). Where no key stands twice, such a document is read as the table of its lines
(`parse?_lines`): one line adds one entry (`readDocument_line`), and so by induction do all of them.

Truth values and natural numbers below 2⁶³ are values that may stand on a line
(`IsWritten.boolean`, `IsWritten.integer`). For a number it has to be ruled out that its first
digits are taken for a date, for a time of day or for the mark of a base.
-/

namespace ResourceLocks.Toml

open Text (Breaks cons_ne_cons)

variable {c : Char} {ds cs rest : List Char} {n : Nat}

/-! ## Numbers at the end of a line -/

/-- A pair of digits is taken off a run of digits, which is left shorter. -/
theorem readPair_digits {p : Nat × List Char} (digits : ∀ c ∈ ds, c.isDigit = true)
    (pair : Calendar.readPair (ds ++ '\n' :: cs) = some p) :
    ∃ ds', (∀ c ∈ ds', c.isDigit = true) ∧ p.2 = ds' ++ '\n' :: cs := by
  match ds, digits, pair with
  | [], _, pair =>
    cases cs with
    | nil => cases pair
    | cons _ _ => cases pair
  | [d], _, pair =>
    rw [List.singleton_append, Calendar.readPair, if_neg (by simp)] at pair
    cases pair
  | d :: e :: ds, digits, pair =>
    rw [List.cons_append, List.cons_append, Calendar.readPair] at pair
    split at pair
    · cases pair
      exact ⟨ds, fun c here => digits c (List.mem_cons_of_mem d (List.mem_cons_of_mem e here)), rfl⟩
    · cases pair

/-- A run of digits at the end of a line does not go on with any other character. -/
theorem expect_digits (digits : ∀ c ∈ ds, c.isDigit = true) (other : c.isDigit = false)
    (within : c ≠ '\n') : expect c (ds ++ '\n' :: cs) = none := by
  cases ds with
  | nil => exact if_neg (Ne.symm within)
  | cons d ds =>
    refine if_neg ?_
    rintro rfl
    exact Bool.eq_false_iff.1 other (digits d List.mem_cons_self)

/-- A number is no date. -/
theorem startsDate_digits (digits : ∀ c ∈ ds, c.isDigit = true) :
    startsDate (ds ++ '\n' :: cs) = false := by
  cases century : Calendar.readPair (ds ++ '\n' :: cs) with
  | none => simp [startsDate, century]
  | some p =>
    obtain ⟨ds', digits', rest⟩ := readPair_digits digits century
    cases year : Calendar.readPair p.2 with
    | none => simp [startsDate, century, year]
    | some q =>
      obtain ⟨ds'', digits'', rest'⟩ := readPair_digits digits' (rest ▸ year)
      simp [startsDate, century, year, rest', expect_digits digits'' (c := '-')]

/-- A number is no time of day. -/
theorem startsTime_digits (digits : ∀ c ∈ ds, c.isDigit = true) :
    startsTime (ds ++ '\n' :: cs) = false := by
  cases hour : readPairIn 0 23 (ds ++ '\n' :: cs) with
  | none => simp [startsTime, hour]
  | some p =>
    obtain ⟨ds', digits', rest⟩ := readPair_digits digits (Option.filter_eq_some_iff.1 hour).1
    simp [startsTime, hour, rest, expect_digits digits' (c := ':')]

/-- The digits of a number are read up to the end of its line. -/
theorem readMoreDigits_append (digits : ∀ c ∈ ds, c.isDigit = true) :
    readMoreDigits Char.isDigit (ds ++ '\n' :: cs) = some (ds, '\n' :: cs) := by
  induction ds with
  | nil => rfl
  | cons d ds ih =>
    rw [List.forall_mem_cons] at digits
    have plain : d ≠ '_' := by
      rintro rfl
      cases digits.1
    rw [List.cons_append, readMoreDigits, if_pos digits.1, ih digits.2]
    · rfl
    · simp [plain]
    · simp [plain]

/-- Digits spell the same number for every reader. -/
theorem valueIn_digits (digits : ∀ c ∈ ds, c.isDigit = true) :
    valueIn 10 ds = Nat.ofDigitChars 10 ds 0 := by
  rw [valueIn, Nat.ofDigitChars_eq_foldl]
  refine List.foldl_ext _ _ _ fun n d here => ?_
  rw [Text.hexValue?, if_pos (digits d here), Option.getD_some, Nat.mul_comm]

/-- A natural number below 2⁶³ is in the range of integers. -/
theorem integer?_natCast (small : n < UInt64.size / 2) :
    integer? (n : Int) = some (.integer n) := by
  unfold integer?
  refine if_pos ⟨?_, Int.ofNat_lt.2 small⟩
  exact Int.le_trans (Int.neg_nonpos_of_nonneg (Int.natCast_nonneg _)) (Int.natCast_nonneg n)

/-- The digits of a number are taken up to the end of its line. -/
theorem readDecimal_toDigits (n : Nat) (cs : List Char) :
    readDecimal (Nat.toDigits 10 n ++ '\n' :: cs) = some (Nat.toDigits 10 n, '\n' :: cs) := by
  obtain ⟨d, ds, eq, digit, digits, zero⟩ := Text.toDigits_eq_cons n
  rw [eq, List.cons_append]
  by_cases first : d = '0'
  · rw [zero first, first]
    rfl
  · rw [readDecimal, readDigits, if_pos digit, readMoreDigits_append digits]
    · rfl
    · simp [first]

/-- A number without a sign is read up to the end of its line. -/
theorem readUnsigned_toDigits (start : List Char) (small : n < UInt64.size / 2) :
    readUnsigned start false (Nat.toDigits 10 n ++ '\n' :: cs) =
      some (.integer n, '\n' :: cs) := by
  have whole : startsFloat ('\n' :: cs) = false := rfl
  have value : valueIn 10 (Nat.toDigits 10 n) = n := by
    rw [valueIn_digits fun c => Text.isDigit_of_mem_toDigits, Nat.ofDigitChars_ten_toDigits]
  rw [readUnsigned, readDecimal_toDigits, Option.bind_eq_bind, Option.bind_some]
  simp only [whole, value, Bool.false_eq_true, if_false]
  rw [integer?_natCast small]
  rfl

/-- **A number is read as itself**, and not as a date, as a time or in another base. -/
theorem readNumeric_toDigits (small : n < UInt64.size / 2) :
    readNumeric (Nat.toDigits 10 n ++ '\n' :: cs) = some (.integer n, '\n' :: cs) := by
  have digits : ∀ c ∈ Nat.toDigits 10 n, c.isDigit = true := fun c => Text.isDigit_of_mem_toDigits
  have unsigned : readUnsigned (Nat.toDigits 10 n ++ '\n' :: cs) false
      (Nat.toDigits 10 n ++ '\n' :: cs) = some (.integer n, '\n' :: cs) :=
    readUnsigned_toDigits _ small
  obtain ⟨d, ds, eq, digit, -, zero⟩ := Text.toDigits_eq_cons n
  unfold readNumeric
  rw [startsDate_digits digits, startsTime_digits digits]
  rw [eq, List.cons_append] at unsigned ⊢
  have unmarked {x : Char} {cs' : List Char} (other : x ≠ '\n') :
      d :: (ds ++ '\n' :: cs) ≠ '0' :: x :: cs' := by
    intro marked
    obtain ⟨first, others⟩ := List.cons.inj marked
    rw [zero first] at others
    exact other (List.cons.inj others).1.symm
  simp only [Bool.false_eq_true, if_false]
  split
  case h_1 marked | h_2 marked | h_3 marked => exact absurd marked (unmarked (by decide))
  case h_4 signed | h_5 signed => exact absurd signed (cons_ne_cons digit (by decide))
  case h_6 =>
    rw [readSigned]
    · exact unsigned
    · exact fun cs' => cons_ne_cons digit (by decide)
    · exact fun cs' => cons_ne_cons digit (by decide)

/-! ## Lines -/

/-- A value has a written form, which is read as that value at the end of a line. -/
structure IsWritten (item : Item) (text : List Char) : Prop where
  /-- It does not start with a blank. -/
  solid : ∀ cs, Breaks isBlank (text ++ '\n' :: cs)
  /-- It is read up to the end of its line. -/
  read : ∀ bound cs, readValue maxDepth (bound + 1) (text ++ '\n' :: cs) = some (item, '\n' :: cs)

/-- Digits may stand in a key. -/
theorem isBare_of_isDigit (digit : c.isDigit = true) : isBare c = true := by
  simp [isBare, Char.isAlphanum, digit]

/-- What may stand in a key is no blank. -/
theorem isBlank_of_isBare (bare : isBare c = true) : isBlank c = false := by
  refine Bool.eq_false_iff.2 fun blank => ?_
  rcases Bool.or_eq_true .. ▸ blank with here | here <;>
    · rw [of_decide_eq_true here] at bare
      cases bare

/-- Truth values are written as words. -/
theorem IsWritten.boolean (b : Bool) : IsWritten (.boolean b) (toString b).toList where
  solid cs := by cases b <;> exact .cons (by decide)
  read bound cs := by cases b <;> rfl

/-- Natural numbers are written in decimal. -/
theorem IsWritten.integer (small : n < UInt64.size / 2) :
    IsWritten (.integer n) (Nat.toDigits 10 n) where
  solid cs := by
    obtain ⟨d, ds, eq, digit, -⟩ := Text.toDigits_eq_cons n
    rw [eq, List.cons_append]
    exact .cons (isBlank_of_isBare (isBare_of_isDigit digit))
  read bound cs := by
    have numeric : readNumeric (Nat.toDigits 10 n ++ '\n' :: cs) = some (.integer n, '\n' :: cs) :=
      readNumeric_toDigits small
    obtain ⟨d, ds, eq, digit, -⟩ := Text.toDigits_eq_cons n
    rw [eq, List.cons_append] at numeric ⊢
    unfold readValue
    split
    case h_7 => exact numeric
    all_goals rename_i other; exact absurd other (cons_ne_cons digit (by decide))

/-- A line of a flat document. -/
structure Line where
  /-- The key. -/
  key : String
  /-- The value. -/
  item : Item
  /-- The written form of the value. -/
  text : List Char
  /-- There is a key. -/
  keyed : key.toList ≠ []
  /-- The key needs no quotes. -/
  bare : ∀ c ∈ key.toList, isBare c = true
  /-- The value is written in that form. -/
  written : IsWritten item text

namespace Line

/-- The characters of a line. -/
def chars (l : Line) : List Char := l.key.toList ++ ' ' :: '=' :: ' ' :: (l.text ++ ['\n'])

/-- The entry of a line in the table of its document. -/
def entry (l : Line) : String × Item := (l.key, l.item)

/-- The first character of a line may stand in a key. -/
theorem chars_eq_cons (l : Line) : ∃ c cs, l.chars = c :: cs ∧ isBare c = true := by
  obtain ⟨c, cs, eq⟩ := List.exists_cons_of_ne_nil l.keyed
  exact ⟨c, _, by rw [chars, eq, List.cons_append], l.bare c (eq ▸ List.mem_cons_self)⟩

/-- A document has no more lines than characters. -/
theorem length_le (ls : List Line) : ls.length ≤ (ls.flatMap chars).length := by
  induction ls with
  | nil => exact Nat.le_refl _
  | cons l ls ih =>
    obtain ⟨c, cs, eq, -⟩ := l.chars_eq_cons
    rw [List.flatMap_cons, eq]
    simp only [List.length_cons, List.length_append]
    omega

end Line

/-- A bare key is read up to the blank behind it. -/
theorem readPart_bare (keyed : ds ≠ []) (bare : ∀ c ∈ ds, isBare c = true) :
    readPart (ds ++ ' ' :: cs) = some (ds, ' ' :: cs) := by
  have taken : (ds ++ ' ' :: cs).span isBare = (ds, ' ' :: cs) :=
    Text.span_append bare (.cons (by decide))
  obtain ⟨d, ds, rfl⟩ := List.exists_cons_of_ne_nil keyed
  have first : isBare d = true := bare d List.mem_cons_self
  rw [List.cons_append] at taken ⊢
  unfold readPart
  split
  case h_1 quoted | h_2 quoted => exact absurd quoted (cons_ne_cons first (by decide))
  case h_3 => rw [taken]

/-- A key without quotes is read with the blank behind it. -/
theorem readKey_bare (keyed : ds ≠ []) (bare : ∀ c ∈ ds, isBare c = true) :
    readKey maxDepth (ds ++ ' ' :: '=' :: cs) = some ([String.ofList ds], '=' :: cs) := by
  have solid : Breaks isBlank (ds ++ ' ' :: '=' :: cs) := by
    obtain ⟨d, ds, rfl⟩ := List.exists_cons_of_ne_nil keyed
    exact .cons (isBlank_of_isBare (bare d List.mem_cons_self))
  rw [maxDepth, readKey, skipBlanks, solid.dropWhile, readPart_bare keyed bare]
  rfl

/-- The key and the value of a line are read up to its end. -/
theorem readKeyValue_line (bound : Nat) (l : Line) (cs : List Char) :
    readKeyValue (bound + 1) (l.chars ++ cs) =
      some (([l.key], l.item), cs) := by
  have skipped : skipBlanks (' ' :: (l.text ++ '\n' :: cs)) = l.text ++ '\n' :: cs :=
    (l.written.solid cs).dropWhile
  have chars : l.chars ++ cs = l.key.toList ++ ' ' :: '=' :: ' ' :: (l.text ++ '\n' :: cs) := by
    simp [Line.chars]
  rw [readKeyValue, chars, readKey_bare l.keyed l.bare, String.ofList_toList]
  simp only [Option.bind_eq_bind, Option.bind_some, expect, if_true, skipped]
  rw [l.written.read]
  rfl

/-- **One line adds one entry** to the table, if there is none of its key. -/
theorem readDocument_line {bound : Nat} {es : Entries} (l : Line)
    (fresh : es.lookup l.entry.1 = none) :
    readDocument (bound + 2) [] es (l.chars ++ cs) =
      readDocument (bound + 1) [] (es ++ [l.entry]) cs := by
  have keyValue := readKeyValue_line bound l cs
  have added : within (define true l.item [l.key]) [] es = some (es ++ [l.entry]) :=
    if_pos (by rw [show es.lookup l.key = none from fresh]; rfl)
  obtain ⟨c, cs', eq, bare⟩ := l.chars_eq_cons
  have plain : (decide (c = '#') || decide (c = '\n') || decide (c = '\r')) ≠ true := by
    intro here
    simp only [Bool.or_eq_true, decide_eq_true_eq] at here
    rcases here with (rfl | rfl) | rfl <;> cases bare
  have solid : skipBlanks (c :: (cs' ++ cs)) = c :: (cs' ++ cs) :=
    Breaks.dropWhile (.cons (isBlank_of_isBare bare))
  rw [eq, List.cons_append] at keyValue ⊢
  rw [readDocument, solid]
  split
  case h_1 ends => cases ends
  case h_2 opens | h_3 opens => exact absurd opens (cons_ne_cons bare (by decide))
  case h_4 c' cs'' same =>
    cases same
    rw [if_neg plain, keyValue, Option.bind_eq_bind, Option.bind_some]
    simp only [added, Option.bind_eq_bind, Option.bind_some]

/-- **A flat document is read as the table of its lines**, if no key stands twice. -/
theorem readDocument_lines (ls : List Line) {bound : Nat} {es : Entries}
    (enough : ls.length < bound) (distinct : ((es ++ ls.map Line.entry).map Prod.fst).Nodup) :
    readDocument bound [] es (ls.flatMap Line.chars) = some (es ++ ls.map Line.entry) := by
  induction ls generalizing bound es with
  | nil =>
    obtain ⟨bound, rfl⟩ := Nat.exists_eq_succ_of_ne_zero (Nat.ne_of_gt enough)
    rw [List.map_nil, List.append_nil]
    rfl
  | cons l ls ih =>
    obtain ⟨bound, rfl⟩ : ∃ k, bound = k + 2 :=
      ⟨bound - 2, by rw [List.length_cons] at enough; omega⟩
    have fresh : es.lookup l.entry.1 = none := by
      rw [List.map_append, List.nodup_append] at distinct
      refine List.lookup_eq_none_iff.2 fun e here => ?_
      have apart := distinct.2.2 e.1 (List.mem_map_of_mem here) l.entry.1 List.mem_cons_self
      exact bne_iff_ne.2 (Ne.symm apart)
    rw [List.map_cons, List.append_cons] at distinct ⊢
    rw [List.flatMap_cons, readDocument_line l fresh]
    exact ih (Nat.lt_of_succ_lt_succ enough) distinct

/-- **Reading a flat document** gives the entries of its lines. -/
theorem parse?_lines (ls : List Line) (distinct : (ls.map fun l => l.entry.1).Nodup) :
    parse? (String.ofList (ls.flatMap Line.chars)) = some (ls.map Line.entry) := by
  have unmarked : skipMark (ls.flatMap Line.chars) = ls.flatMap Line.chars := by
    cases ls with
    | nil => rfl
    | cons l ls =>
      obtain ⟨c, cs, eq, bare⟩ := l.chars_eq_cons
      rw [List.flatMap_cons, eq, List.cons_append]
      unfold skipMark
      split
      · rename_i marked
        exact absurd marked (cons_ne_cons bare (by decide))
      · rfl
  have long : ls.length ≤ (ls.flatMap Line.chars).length := Line.length_le ls
  have entries : (([] ++ ls.map Line.entry).map Prod.fst).Nodup := by
    rw [List.nil_append, List.map_map]
    exact distinct
  rw [parse?, String.toList_ofList, unmarked]
  exact readDocument_lines ls (by omega) entries

end ResourceLocks.Toml
