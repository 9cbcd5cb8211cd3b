import ResourceLocks.Json.Reader
import ResourceLocks.Json.Writer
import ResourceLocks.Proofs.Text.Runs

/-!
# What is written as JSON is read again

`Json.parse?_render`: the written form of a value is read as that value. It holds of every value
that has a written form (`Json.Writable`): texts are whole, and a fraction consists of digits.

Each reader takes exactly what the writer of the same kind wrote, whatever comes behind it. Only a
number has to ask something of what follows, which must not go on with it (`goesOn`): digits, a
point and the letter of an exponent do. What follows a value within a list or an object does not.

`readValue` and its two companions call themselves with a bound. The induction over the value
carries that twice the number of characters suffices (`ReadsBack`).
-/

namespace ResourceLocks.Json

open Text (Breaks cons_ne_cons)

variable {c : Char} {cs rest : List Char}

/-! ## Texts -/

/-- A code point before the others. -/
def beforeCodes (n : Nat) (p : List Nat × List Char) : List Nat × List Char := (n :: p.1, p.2)

/-- An escape by a letter is read as the character that the letter stands for. -/
theorem readCodes_letter {e : Char} (letter : letterEscape? e = some c) (rest : List Char) :
    readCodes ('\\' :: e :: rest) = (readCodes rest).map (beforeCodes c.toNat) := by
  have named : e ≠ 'u' := by
    rintro rfl
    cases letter
  rw [readCodes, letter]
  · cases readCodes rest <;> rfl
  · intros
    exact named ‹_›

/-- The number of a control character has two hexadecimal digits. -/
theorem hexNumber?_digitChars {n : Nat} (small : n < 256) :
    Text.hexNumber? ['0', '0', Nat.digitChar (n / 16), Nat.digitChar (n % 16)] = some n := by
  have high := Text.hexValue?_digitChar (n := n / 16) (by omega)
  have low := Text.hexValue?_digitChar (n := n % 16) (by omega)
  have zero : Text.hexValue? '0' = some 0 := rfl
  simp only [Text.hexNumber?, List.foldlM_cons, List.foldlM_nil, zero, high, low, Option.map_some,
    Option.bind_eq_bind, Option.bind_some, Option.pure_def, Option.some.injEq]
  omega

/-- A character that needs no escape is read as itself. -/
theorem readCodes_plain (quote : c ≠ '"') (backslash : c ≠ '\\') (control : ¬ c.toNat < 0x20)
    (rest : List Char) : readCodes (c :: rest) = (readCodes rest).map (beforeCodes c.toNat) := by
  rw [readCodes, if_neg control]
  · cases readCodes rest <;> rfl
  · exact quote
  · intros
    exact backslash ‹_›
  · intros
    exact backslash ‹_›

/-- **A character is read as its own code point**, escaped or not. -/
theorem readCodes_escapeChar (c : Char) (rest : List Char) :
    readCodes (escapeChar c ++ rest) = (readCodes rest).map (beforeCodes c.toNat) := by
  unfold escapeChar
  split_ifs with quote backslash feed carriage tab back form control
  · exact readCodes_letter (by rw [quote]; rfl) rest
  · exact readCodes_letter (by rw [backslash]; rfl) rest
  · exact readCodes_letter (by rw [feed]; rfl) rest
  · exact readCodes_letter (by rw [carriage]; rfl) rest
  · exact readCodes_letter (by rw [tab]; rfl) rest
  · exact readCodes_letter (by rw [back]; rfl) rest
  · exact readCodes_letter (by rw [form]; rfl) rest
  · have number := hexNumber?_digitChars (n := c.toNat) (by omega)
    simp only [List.cons_append, List.nil_append]
    rw [readCodes, number]
    cases readCodes rest <;> rfl
  · exact readCodes_plain quote backslash control rest

/-- The code points of a text are read up to its closing quote. -/
theorem readCodes_escaped (s rest : List Char) :
    readCodes (s.flatMap escapeChar ++ '"' :: rest) = some (s.map Char.toNat, rest) := by
  induction s with
  | nil => rfl
  | cons c s ih =>
    rw [List.flatMap_cons, List.append_assoc, readCodes_escapeChar, ih]
    rfl

/-- **A character is no half of a surrogate pair.** -/
theorem isHalf_toNat (c : Char) : isHighHalf c.toNat = false ∧ isLowHalf c.toNat = false := by
  have valid : c.toNat < 0xD800 ∨ 0xDFFF < c.toNat ∧ c.toNat < 0x110000 := c.valid
  simp only [isHighHalf, isLowHalf, Bool.and_eq_false_iff, decide_eq_false_iff_not]
  omega

/-- So the code points of characters are joined to the characters. -/
theorem joinPairs_toNat (s : List Char) : joinPairs (s.map Char.toNat) = some s := by
  induction s with
  | nil => rfl
  | cons c s ih =>
    obtain ⟨high, low⟩ := isHalf_toNat c
    cases s with
    | nil => rw [List.map_cons, List.map_nil, joinPairs, high, low, Char.ofNat_toNat]; rfl
    | cons d s =>
      rw [List.map_cons] at ih
      rw [List.map_cons, List.map_cons, joinPairs, high, low, ih, Char.ofNat_toNat]
      rfl

/-- An escaped text is read up to its quotation mark. -/
theorem readText_renderText (s : String) (rest : List Char) :
    readText (s.toList.flatMap escapeChar ++ '"' :: rest) = some (some s, rest) := by
  rw [readText, readCodes_escaped]
  simp only [Option.bind_eq_bind, Option.bind_some, joinPairs_toNat, Option.map_some,
    String.ofList_toList]

/-! ## Numbers -/

/-- A character with which a number could go on. -/
def goesOn (c : Char) : Bool := c.isDigit || c = '.' || c = 'e' || c = 'E'

/-- A digit goes on with a number. -/
theorem goesOn_of_isDigit (digit : c.isDigit = true) : goesOn c = true := by
  simp [goesOn, digit]

/-- What does not go on with a number does not go on with its digits. -/
theorem noDigit (ends : Breaks goesOn rest) : Breaks Char.isDigit rest :=
  ends.mono fun _ => goesOn_of_isDigit

/-- The digits of a natural number are taken up to where another character stands. -/
theorem takeDigits_toDigits (n : Nat) (ends : Breaks Char.isDigit rest) :
    takeDigits (Nat.toDigits 10 n ++ rest) = (Nat.toDigits 10 n, rest) :=
  Text.span_append (fun _ => Text.isDigit_of_mem_toDigits) ends

/-- So they are read as the number, by the branch for a single zero or by the other one. -/
theorem readWhole_toDigits (n : Nat) (ends : Breaks Char.isDigit rest) :
    readWhole (Nat.toDigits 10 n ++ rest) = some (n, rest) := by
  have taken := takeDigits_toDigits n ends
  have value : Nat.ofDigitChars 10 (Nat.toDigits 10 n) 0 = n := Nat.ofDigitChars_ten_toDigits
  obtain ⟨d, ds, eq, digit, digits, zero⟩ := Text.toDigits_eq_cons n
  rw [eq, List.cons_append] at taken ⊢
  rw [eq] at value
  by_cases first : d = '0'
  · have alone : takeDigits rest = ([], rest) := ends.span
    subst first
    rw [zero rfl] at value ⊢
    rw [List.nil_append, readWhole, alone, if_pos rfl, ← value]
    rfl
  · rw [readWhole, taken, ← value]
    exact fun _ same => first (List.cons.inj same).1

/-- Behind a number there is no fraction. -/
theorem readFraction_none (ends : Breaks goesOn rest) : readFraction rest = some (none, rest) := by
  unfold readFraction
  split
  · cases ends '.' rfl
  · rfl

/-- Behind a number there is no exponent. -/
theorem readExponent_none (ends : Breaks goesOn rest) : readExponent rest = some (none, rest) := by
  unfold readExponent
  split
  case h_7 => rfl
  all_goals cases ends _ rfl

/-- The written form of a fraction, which is empty where there is none. -/
def fractionChars : List Nat → List Char
  | [] => []
  | d :: ds => '.' :: (d :: ds).map Nat.digitChar

/-- The digits of a fraction are read up to the exponent. -/
theorem readFraction_fractionChars {ds : List Nat} (digits : ∀ d ∈ ds, d < 10) (cs : List Char) :
    ∃ fraction, readFraction (fractionChars ds ++ 'e' :: cs) = some (fraction, 'e' :: cs) ∧
      fraction.getD [] = ds := by
  have all : ∀ c ∈ ds.map Nat.digitChar, c.isDigit = true := by
    intro c here
    obtain ⟨d, mem, rfl⟩ := List.mem_map.1 here
    rw [Nat.isDigit_digitChar]
    exact decide_eq_true (digits d mem)
  have values : (ds.map Nat.digitChar).map digitValue = ds := by
    rw [List.map_map]
    refine (List.map_congr_left fun d mem => ?_).trans (List.map_id ds)
    exact Nat.toNat_digitChar_sub_48_of_lt_ten (digits d mem)
  have taken : takeDigits (ds.map Nat.digitChar ++ 'e' :: cs) = (ds.map Nat.digitChar, 'e' :: cs) :=
    Text.span_append all (.cons rfl)
  cases ds with
  | nil => exact ⟨none, rfl, rfl⟩
  | cons d ds =>
    refine ⟨some (d :: ds), ?_, rfl⟩
    rw [fractionChars, List.cons_append, readFraction, taken]
    exact congrArg (fun ds => some (some ds, 'e' :: cs)) values

/-- An exponent is read behind its sign. -/
theorem readExponentDigits_toDigits (negative : Bool) (n : Nat) (ends : Breaks Char.isDigit rest) :
    readExponentDigits negative (Nat.toDigits 10 n ++ rest) =
      some (some (if negative then -(n : Int) else n), rest) := by
  rw [readExponentDigits, takeDigits_toDigits n ends]
  split
  · rename_i empty
    exact absurd (Prod.mk.inj empty).1 Nat.toDigits_ne_nil
  · rename_i filled
    rw [← (Prod.mk.inj filled).1, ← (Prod.mk.inj filled).2, Nat.ofDigitChars_ten_toDigits]

/-- The written exponent is read as itself. -/
theorem readExponent_int (e : Int) (ends : Breaks Char.isDigit rest) :
    readExponent ('e' :: ((if e < 0 then ['-'] else []) ++ (Nat.toDigits 10 e.natAbs ++ rest))) =
      some (some e, rest) := by
  by_cases negative : e < 0
  · rw [if_pos negative]
    have value : -(e.natAbs : Int) = e := by omega
    have read := readExponentDigits_toDigits true e.natAbs ends
    rw [if_pos rfl, value] at read
    exact read
  · rw [if_neg negative, List.nil_append]
    have value : (e.natAbs : Int) = e := by omega
    have read : readExponentDigits false (Nat.toDigits 10 e.natAbs ++ rest) = some (some e, rest) :=
      value ▸ readExponentDigits_toDigits false e.natAbs ends
    obtain ⟨d, ds, eq, digit, -⟩ := Text.toDigits_eq_cons e.natAbs
    rw [eq, List.cons_append] at read ⊢
    rw [readExponent]
    · exact read
    · exact fun cs => cons_ne_cons digit (by decide)
    · exact fun cs => cons_ne_cons digit (by decide)

namespace Number

/-- A number has a written form if its fraction consists of digits. -/
def Writable : Number → Prop
  | integer _ _ => True
  | decimal _ _ fraction _ => ∀ d ∈ fraction, d < 10

/-- The number has a minus sign. -/
def isNegative : Number → Bool
  | integer negative _ => negative
  | decimal negative _ _ _ => negative

/-- The written form behind the sign. -/
def unsigned : Number → List Char
  | integer _ n => Nat.toDigits 10 n
  | decimal _ whole fraction exponent =>
    Nat.toDigits 10 whole ++ (fractionChars fraction
      ++ 'e' :: ((if exponent < 0 then ['-'] else []) ++ Nat.toDigits 10 exponent.natAbs))

end Number

/-- A number is written with its sign before the rest. -/
theorem renderNumber_eq (n : Number) :
    renderNumber n = (if n.isNegative then ['-'] else []) ++ n.unsigned := by
  cases n with
  | integer negative n => rfl
  | decimal negative whole fraction exponent =>
    cases negative <;> cases fraction <;>
      simp [renderNumber, Number.isNegative, Number.unsigned, fractionChars]

/-- The written form starts with a digit behind the sign. -/
theorem Number.unsigned_eq_cons (n : Number) :
    ∃ d ds, n.unsigned = d :: ds ∧ d.isDigit = true := by
  cases n with
  | integer negative n =>
    obtain ⟨d, ds, eq, digit, -⟩ := Text.toDigits_eq_cons n
    exact ⟨d, ds, eq, digit⟩
  | decimal negative whole fraction exponent =>
    obtain ⟨d, ds, eq, digit, -⟩ := Text.toDigits_eq_cons whole
    exact ⟨d, _, by rw [unsigned, eq, List.cons_append], digit⟩

/-- **A number is read as itself** behind its sign. -/
theorem readNumber_unsigned {n : Number} (writable : n.Writable) (ends : Breaks goesOn rest) :
    readNumber n.isNegative (n.unsigned ++ rest) = some (number n, rest) := by
  cases n with
  | integer negative n =>
    simp only [readNumber, Number.unsigned, Number.isNegative, readWhole_toDigits n (noDigit ends),
      readFraction_none ends, readExponent_none ends, Option.bind_eq_bind, Option.bind_some]
  | decimal negative whole fraction e =>
    obtain ⟨f, point, same⟩ := readFraction_fractionChars writable
      ((if e < 0 then ['-'] else []) ++ (Nat.toDigits 10 e.natAbs ++ rest))
    have ends' : Breaks Char.isDigit (fractionChars fraction ++
        'e' :: ((if e < 0 then ['-'] else []) ++ (Nat.toDigits 10 e.natAbs ++ rest))) := by
      cases fraction <;> exact .cons rfl
    simp only [readNumber, Number.unsigned, Number.isNegative, List.append_assoc, List.cons_append]
    rw [readWhole_toDigits whole ends']
    simp only [Option.bind_eq_bind, Option.bind_some, point, readExponent_int e (noDigit ends)]
    rw [same]
    rfl

/-! ## Values -/

/-- A value has a written form: its texts are whole, and its numbers have one. -/
inductive Writable : Json → Prop where
  /-- The literal `null`. -/
  | null : Writable null
  /-- The truth values. -/
  | bool (b : Bool) : Writable (bool b)
  /-- Numbers with a written form. -/
  | number {n : Number} (writable : n.Writable) : Writable (number n)
  /-- Texts that are whole. -/
  | text (s : String) : Writable (text (some s))
  /-- Lists of such values. -/
  | array {items : List Json} (writable : ∀ j ∈ items, Writable j) : Writable (array items)
  /-- Objects with whole names and such values. -/
  | object {fields : List (Text × Json)} (whole : ∀ f ∈ fields, f.1.isSome = true)
    (writable : ∀ f ∈ fields, Writable f.2) : Writable (object fields)

/-- A value is read from its written form, whatever follows that does not go on with a number. -/
def ReadsBack (j : Json) : Prop :=
  ∀ bound rest, 2 * (renderChars j).length ≤ bound → Breaks goesOn rest →
    readValue bound (renderChars j ++ rest) = some (j, rest)

/-- A digit is neither a blank nor the end of a list. -/
theorem solid_of_isDigit (digit : c.isDigit = true) : isBlank c = false ∧ c ≠ ']' := by
  constructor
  · refine Bool.eq_false_iff.2 fun blank => ?_
    simp only [isBlank, Bool.or_eq_true, decide_eq_true_eq] at blank
    rcases blank with ((rfl | rfl) | rfl) | rfl <;> cases digit
  · rintro rfl
    cases digit

/-- What a value starts with is neither a blank nor the end of a list. -/
theorem renderChars_eq_cons (j : Json) :
    ∃ c cs, renderChars j = c :: cs ∧ isBlank c = false ∧ c ≠ ']' := by
  cases j with
  | null => exact ⟨'n', _, rfl, by decide, by decide⟩
  | bool b => cases b <;> exact ⟨_, _, rfl, by decide, by decide⟩
  | text s => exact ⟨'"', _, rfl, by decide, by decide⟩
  | array items => exact ⟨'[', _, rfl, by decide, by decide⟩
  | object fields => exact ⟨'{', _, rfl, by decide, by decide⟩
  | number n =>
    rw [renderChars, renderNumber_eq]
    split
    · exact ⟨'-', _, rfl, by decide, by decide⟩
    · obtain ⟨d, ds, eq, digit⟩ := n.unsigned_eq_cons
      exact ⟨d, ds, eq, solid_of_isDigit digit⟩

/-- A bound that is long enough allows for one call. -/
theorem exists_bound {j : Json} {bound : Nat} (enough : 2 * (renderChars j).length ≤ bound) :
    ∃ k, bound = k + 1 := by
  obtain ⟨c, cs, eq, -⟩ := renderChars_eq_cons j
  rw [eq, List.length_cons] at enough
  exact ⟨bound - 1, by omega⟩

/-- Numbers are read from their written form. -/
theorem readsBack_number {n : Number} (writable : n.Writable) : ReadsBack (number n) := by
  intro bound rest enough ends
  obtain ⟨bound, rfl⟩ := exists_bound enough
  have read := readNumber_unsigned writable ends
  obtain ⟨d, ds, eq, digit⟩ := n.unsigned_eq_cons
  rw [renderChars, renderNumber_eq]
  cases sign : n.isNegative with
  | true =>
    rw [sign] at read
    exact read
  | false =>
    rw [sign, eq, List.cons_append] at read
    have solid : skipBlanks (d :: (ds ++ rest)) = d :: (ds ++ rest) :=
      Breaks.dropWhile (.cons (solid_of_isDigit digit).1)
    rw [if_neg Bool.false_ne_true, List.nil_append, eq, List.cons_append, readValue, solid]
    split
    case h_8 => exact read
    all_goals rename_i other; exact absurd other (cons_ne_cons digit (by decide))

/-- Texts are read from their written form. -/
theorem readsBack_text (s : String) : ReadsBack (text (some s)) := by
  intro bound rest enough ends
  obtain ⟨bound, rfl⟩ := exists_bound enough
  have read := readText_renderText s rest
  have chars : renderChars (text (some s)) ++ rest =
      '"' :: (s.toList.flatMap escapeChar ++ '"' :: rest) := by
    simp [renderChars, renderText]
  rw [chars]
  show (readText _).map _ = _
  rw [read]
  rfl

/-- A comma stands between two items. -/
theorem renderItems_cons_cons (j j' : Json) (js : List Json) :
    renderItems (j :: j' :: js) = renderChars j ++ ',' :: renderItems (j' :: js) := rfl

/-- **Items are read from their written form** up to the closing bracket. -/
theorem readItems_renderItems {items : List Json} (filled : items ≠ [])
    (readsBack : ∀ j ∈ items, ReadsBack j) (bound : Nat)
    (enough : 2 * (renderItems items).length < bound) (rest : List Char) :
    readItems bound (renderItems items ++ ']' :: rest) = some (items, rest) := by
  induction items generalizing bound with
  | nil => exact absurd rfl filled
  | cons j js ih =>
    rw [List.forall_mem_cons] at readsBack
    obtain ⟨bound, rfl⟩ : ∃ k, bound = k + 1 := ⟨bound - 1, by omega⟩
    cases js with
    | nil =>
      rw [renderItems] at enough ⊢
      rw [readItems, readsBack.1 bound _ (by omega) (.cons (by decide))]
      rfl
    | cons j' js =>
      rw [renderItems_cons_cons, List.length_append, List.length_cons] at enough
      have others := ih (List.cons_ne_nil j' js) readsBack.2 bound (by omega)
      rw [renderItems_cons_cons, List.append_assoc, List.cons_append, readItems,
        readsBack.1 bound _ (by omega) (.cons (by decide))]
      show (readItems bound _).bind _ = _
      rw [others]
      rfl

/-- What the items of a list start with is neither a blank nor the end of the list. -/
theorem renderItems_eq_cons {items : List Json} (filled : items ≠ []) :
    ∃ c cs, renderItems items = c :: cs ∧ isBlank c = false ∧ c ≠ ']' := by
  match items, filled with
  | [j], _ => exact renderChars_eq_cons j
  | j :: j' :: js, _ =>
    obtain ⟨c, cs, eq, solid⟩ := renderChars_eq_cons j
    exact ⟨c, _, by rw [renderItems_cons_cons, eq, List.cons_append], solid⟩

/-- Behind an opening bracket the items are read, unless it is closed at once. -/
theorem readValue_items (solid : isBlank c = false) (inside : c ≠ ']') (bound : Nat)
    (cs : List Char) :
    readValue (bound + 1) ('[' :: c :: cs) =
      (readItems bound (c :: cs)).map fun p => (array p.1, p.2) := by
  have opened : skipBlanks ('[' :: c :: cs) = '[' :: c :: cs := rfl
  have skipped : skipBlanks (c :: cs) = c :: cs := Breaks.dropWhile (.cons solid)
  rw [readValue, opened]
  simp only [skipped]
  split
  · rename_i closed
    exact absurd (List.cons.inj closed).1 inside
  · rfl

/-- Lists are read from their written form if their items are. -/
theorem readsBack_array {items : List Json} (readsBack : ∀ j ∈ items, ReadsBack j) :
    ReadsBack (array items) := by
  intro bound rest enough ends
  obtain ⟨bound, rfl⟩ := exists_bound enough
  have chars : renderChars (array items) ++ rest = '[' :: (renderItems items ++ ']' :: rest) := by
    simp [renderChars]
  rw [chars]
  by_cases empty : items = []
  · rw [empty]
    rfl
  · have length : (renderChars (array items)).length = (renderItems items).length + 2 := by
      simp [renderChars]
    have read := readItems_renderItems empty readsBack bound (by omega) rest
    obtain ⟨c, cs, eq, solid, inside⟩ := renderItems_eq_cons empty
    rw [eq, List.cons_append] at read ⊢
    rw [readValue_items solid inside, read]
    rfl

/-- A text is written between quotation marks, before what follows. -/
theorem renderText_append (s : String) (cs : List Char) :
    renderText s ++ cs = '"' :: (s.toList.flatMap escapeChar ++ '"' :: cs) := by
  simp [renderText]

/-- Behind the name of a field its value is read, and then the other fields. -/
theorem readFields_renderText (name : String) (bound : Nat) (cs : List Char) :
    readFields (bound + 1) (renderText name ++ ':' :: cs) =
      (readValue bound cs).bind fun p =>
        match skipBlanks p.2 with
        | '}' :: cs => some ([(some name, p.1)], cs)
        | ',' :: cs => (readFields bound cs).bind fun q => some ((some name, p.1) :: q.1, q.2)
        | _ => none := by
  rw [renderText_append, readFields]
  show (readText _).bind _ = _
  rw [readText_renderText]
  rfl

/-- A comma stands between two fields, and a colon behind the name of each. -/
theorem renderFields_cons_cons (name : Text) (j : Json) (f : Text × Json)
    (fs : List (Text × Json)) :
    renderFields ((name, j) :: f :: fs) =
      renderText (name.getD "") ++ ':' :: (renderChars j ++ ',' :: renderFields (f :: fs)) :=
  List.append_assoc ..

/-- **Fields are read from their written form** up to the closing brace. -/
theorem readFields_renderFields {fields : List (Text × Json)} (filled : fields ≠ [])
    (whole : ∀ f ∈ fields, f.1.isSome = true) (readsBack : ∀ f ∈ fields, ReadsBack f.2)
    (bound : Nat) (enough : 2 * (renderFields fields).length < bound) (rest : List Char) :
    readFields bound (renderFields fields ++ '}' :: rest) = some (fields, rest) := by
  induction fields generalizing bound with
  | nil => exact absurd rfl filled
  | cons f fs ih =>
    obtain ⟨name, j⟩ := f
    rw [List.forall_mem_cons] at readsBack whole
    have value : ReadsBack j := readsBack.1
    obtain ⟨name, rfl⟩ := Option.isSome_iff_exists.1 whole.1
    obtain ⟨bound, rfl⟩ : ∃ k, bound = k + 1 := ⟨bound - 1, by omega⟩
    cases fs with
    | nil =>
      rw [renderFields, Option.getD_some] at enough ⊢
      rw [List.length_append, List.length_cons] at enough
      rw [List.append_assoc, List.cons_append, readFields_renderText,
        value bound _ (by omega) (.cons (by decide))]
      rfl
    | cons f' fs =>
      rw [renderFields_cons_cons, Option.getD_some] at enough ⊢
      rw [List.length_append, List.length_cons, List.length_append, List.length_cons] at enough
      have others := ih (List.cons_ne_nil f' fs) whole.2 readsBack.2 bound (by omega)
      rw [List.append_assoc, List.cons_append, List.append_assoc, List.cons_append,
        readFields_renderText, value bound _ (by omega) (.cons (by decide))]
      show (readFields bound _).bind _ = _
      rw [others]
      rfl

/-- The fields of an object start with a quote. -/
theorem renderFields_eq_cons {fields : List (Text × Json)} (filled : fields ≠ []) :
    ∃ cs, renderFields fields = '"' :: cs := by
  match fields, filled with
  | [_], _ => exact ⟨_, rfl⟩
  | _ :: _ :: _, _ => exact ⟨_, rfl⟩

/-- Objects are read from their written form if their values are. -/
theorem readsBack_object {fields : List (Text × Json)}
    (whole : ∀ f ∈ fields, f.1.isSome = true) (readsBack : ∀ f ∈ fields, ReadsBack f.2) :
    ReadsBack (object fields) := by
  intro bound rest enough ends
  obtain ⟨bound, rfl⟩ := exists_bound enough
  have chars :
      renderChars (object fields) ++ rest = '{' :: (renderFields fields ++ '}' :: rest) := by
    simp [renderChars]
  rw [chars]
  by_cases empty : fields = []
  · rw [empty]
    rfl
  · have length : (renderChars (object fields)).length = (renderFields fields).length + 2 := by
      simp [renderChars]
    have read := readFields_renderFields empty whole readsBack bound (by omega) rest
    obtain ⟨cs, eq⟩ := renderFields_eq_cons empty
    rw [eq, List.cons_append] at read ⊢
    show (readFields bound _).map _ = _
    rw [read]
    rfl

/-- **Every value with a written form is read from it.** -/
theorem Writable.readsBack {j : Json} (writable : Writable j) : ReadsBack j := by
  induction writable with
  | null =>
    intro bound rest enough ends
    obtain ⟨bound, rfl⟩ := exists_bound enough
    rfl
  | bool b =>
    intro bound rest enough ends
    obtain ⟨bound, rfl⟩ := exists_bound enough
    cases b <;> rfl
  | number writable => exact readsBack_number writable
  | text s => exact readsBack_text s
  | array _ ih => exact readsBack_array ih
  | object whole _ ih => exact readsBack_object whole ih

/-- **What is written as JSON is read as the same value.** -/
theorem parse?_render {j : Json} (writable : Writable j) : parse? (render j) = some j := by
  -- nothing follows the value, and the bound that `parse?` sets is more than it needs
  have read := writable.readsBack (2 * (renderChars j).length + 2) [] (by omega) .nil
  rw [List.append_nil] at read
  rw [parse?, render, String.toList_ofList]
  simp only [read, Option.bind_eq_bind, Option.bind_some]
  rfl

end ResourceLocks.Json
