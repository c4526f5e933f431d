import Mathlib.Data.List.Induction
import Mathlib.Data.List.DropRight
import Mathlib.Data.List.TakeDrop
import Mathlib.Data.List.TakeWhile
import Retrace.Json.Value
import Retrace.Json.Printer

/-!
# Literals

How the smallest values are written and read. An unsigned integer has exactly one literal, its
decimal digits without a superfluous zero, and it is read from that literal alone: a number with a
sign, a fraction or an exponent is read as something else, and so is one that is past the largest
index. Keywords and plain words are read back as they are printed.

## Main definitions

* `EndsNumber` — a text that a number in front of it does not run into.
* `Starts` — how a kind is written, from the first letter on.
* `Plain` — a word that is printed as it is.

## Main statements

* `printNatural_digitsValue` — digits without a superfluous zero are those of their value.
* `starts_of_readKind` — a kind is read from what is written.
* `readNumber_eq_natural_iff`, `readKind_eq_natural_iff` — an unsigned integer is read exactly from
  its literal.
* `readKind_printBoolean`, `readKind_printWord` — a Boolean and a plain word are read back.
-/

namespace Retrace.Json

/-! ### Results -/

theorem map_eq_ok_iff {ε α β : Type} {f : α → β} {x : Except ε α} {b : β} :
    x.map f = .ok b ↔ ∃ a, x = .ok a ∧ f a = b := by
  cases x <;> simp [Except.map]

theorem bind_eq_ok_iff {ε α β : Type} {f : α → Except ε β} {x : Except ε α} {b : β} :
    x >>= f = .ok b ↔ ∃ a, x = .ok a ∧ f a = .ok b := by
  cases x <;> simp [bind, Except.bind]

/-! ### Digits -/

theorem not_isDigit_eq {c d : Char} (digit : isDigit c = true) (other : isDigit d = false) :
    c ≠ d := by
  rintro rfl
  rw [digit] at other
  cases other

theorem readDigits_eq (text : List Char) :
    readDigits text = (text.takeWhile isDigit, text.dropWhile isDigit) :=
  List.span_eq_takeWhile_dropWhile ..

/-- A run of digits ends where there is no further digit. -/
theorem readDigits_append {digits rest : List Char} (all : ∀ c ∈ digits, isDigit c = true)
    (ends : ∀ c, rest.head? = some c → isDigit c = false) :
    readDigits (digits ++ rest) = (digits, rest) := by
  rw [readDigits_eq, List.takeWhile_append_of_pos all, List.dropWhile_append_of_pos all]
  cases rest with
  | nil => rw [List.takeWhile_nil, List.dropWhile_nil, List.append_nil]
  | cons c rest =>
    have other : ¬ isDigit c = true := Bool.eq_false_iff.1 (ends c rfl)
    rw [List.takeWhile_cons_of_neg other, List.dropWhile_cons_of_neg other, List.append_nil]

theorem isDigit_of_mem_printNatural {n : Nat} {c : Char} (hc : c ∈ printNatural n) :
    isDigit c = true :=
  Nat.isDigit_of_mem_toDigits (by decide) (by decide) hc

theorem digitsValue_printNatural (n : Nat) : digitsValue (printNatural n) = n :=
  Nat.ofDigitChars_ten_toDigits

theorem printNatural_ne_nil (n : Nat) : printNatural n ≠ [] := Nat.toDigits_ne_nil

/-- The value of a digit, and the digit of the value. -/
theorem digitChar_digitsValue {c : Char} (digit : isDigit c = true) :
    c.toNat - '0'.toNat < 10 ∧ (c.toNat - '0'.toNat).digitChar = c := by
  have bounds : 48 ≤ c.toNat ∧ c.toNat ≤ 57 := Char.isDigit_iff_toNat.1 digit
  have small : c.toNat - '0'.toNat < 10 := by
    show c.toNat - 48 < 10
    omega
  refine ⟨small, Char.toNat_inj.1 ?_⟩
  have value := Nat.toNat_digitChar_sub_48_of_lt_ten small
  have written : (c.toNat - '0'.toNat).digitChar.isDigit = true := by
    rw [Nat.isDigit_digitChar, decide_eq_true small]
  have bounds' := (Char.isDigit_iff_toNat.1 written).1
  change 48 ≤ _ at bounds'
  change _ = c.toNat - 48 at value
  omega

theorem digitsValue_concat (digits : List Char) (c : Char) :
    digitsValue (digits ++ [c]) = 10 * digitsValue digits + (c.toNat - '0'.toNat) := by
  rw [digitsValue, Nat.ofDigitChars_append, Nat.ofDigitChars_cons, Nat.ofDigitChars_nil]
  rfl

/-- Digits that do not start with a zero have a positive value. -/
theorem digitsValue_pos {digits : List Char} (nonempty : digits ≠ [])
    (all : ∀ c ∈ digits, isDigit c = true) (nonzero : digits.head? ≠ some '0') :
    0 < digitsValue digits := by
  obtain ⟨c, rest, rfl⟩ := List.exists_cons_of_ne_nil nonempty
  obtain ⟨-, written⟩ := digitChar_digitsValue (all c List.mem_cons_self)
  have positive : c.toNat - '0'.toNat ≠ 0 := by
    intro zero
    rw [zero] at written
    exact nonzero (congrArg some written.symm)
  rw [digitsValue, Nat.ofDigitChars_cons, Nat.ofDigitChars_eq_ofDigitChars_zero]
  have scaled : 0 < 10 ^ rest.length * (10 * 0 + (c.toNat - '0'.toNat)) :=
    Nat.mul_pos (Nat.pow_pos (by decide)) (by omega)
  omega

/-- **Digits without a superfluous zero are those of their value.** -/
theorem printNatural_digitsValue {digits : List Char} (nonempty : digits ≠ [])
    (all : ∀ c ∈ digits, isDigit c = true) (exact : ∀ rest, digits = '0' :: rest → rest = []) :
    printNatural (digitsValue digits) = digits := by
  induction digits using List.reverseRecOn with
  | nil => exact absurd rfl nonempty
  | append_singleton front c ih =>
    obtain ⟨small, written⟩ := digitChar_digitsValue (all c (by simp))
    rw [printNatural, digitsValue_concat]
    cases front with
    | nil =>
      rw [digitsValue, Nat.ofDigitChars_nil, Nat.mul_zero, Nat.zero_add,
        Nat.toDigits_of_lt_base small, written]
      rfl
    | cons d front =>
      -- the digits in front start with no zero, since there is one more digit behind them
      have leading : d ≠ '0' := by
        rintro rfl
        exact absurd (exact (front ++ [c]) rfl) (by simp)
      have digits : ∀ d' ∈ d :: front, isDigit d' = true :=
        fun d' listed => all d' (List.mem_append_left _ listed)
      have positive : 0 < digitsValue (d :: front) :=
        digitsValue_pos (List.cons_ne_nil _ _) digits fun same => leading (Option.some.inj same)
      have front_eq := ih (List.cons_ne_nil _ _) digits
        fun rest same => absurd (List.cons.inj same).1 leading
      rw [← Nat.toDigits_append_toDigits (by decide) positive small,
        Nat.toDigits_of_lt_base small, written]
      exact congrArg (· ++ [c]) front_eq

/-- The digits of a number have no superfluous zero. -/
theorem eq_nil_of_printNatural {n : Nat} {rest : List Char}
    (starts : printNatural n = '0' :: rest) : rest = [] := by
  induction n using Nat.strongRecOn generalizing rest with
  | ind n ih =>
    rcases Nat.lt_or_ge n 10 with small | large
    · rw [printNatural, Nat.toDigits_of_lt_base small] at starts
      exact (List.cons.inj starts).2.symm
    · have front : 0 < n / 10 := Nat.div_pos large (by decide)
      have split : printNatural n = printNatural (n / 10) ++ Nat.toDigits 10 (n % 10) := by
        rw [printNatural, printNatural, Nat.toDigits_append_toDigits (by decide) front
          (Nat.mod_lt n (by decide)), Nat.div_add_mod]
      obtain ⟨d, others, digits⟩ := List.exists_cons_of_ne_nil (printNatural_ne_nil (n / 10))
      rw [split, digits, List.cons_append] at starts
      obtain ⟨rfl, -⟩ := List.cons.inj starts
      -- the digits in front would be a single zero, and then there are none
      have zero : others = [] := ih (n / 10) (Nat.div_lt_self (by omega) (by decide)) digits
      have value := digitsValue_printNatural (n / 10)
      rw [digits, zero] at value
      exact absurd value (Nat.ne_of_lt front)

/-! ### Unsigned integers -/

/-- **A text that a number in front of it does not run into.** -/
def EndsNumber (rest : List Char) : Prop :=
  ∀ c, rest.head? = some c → isDigit c = false ∧ c ≠ '.' ∧ c ≠ 'e' ∧ c ≠ 'E'

theorem endsNumber_of_cons {c : Char} {rest : List Char} (comma : c = ',' ∨ c = '}') :
    EndsNumber (c :: rest) := by
  intro d first
  obtain rfl := Option.some.inj first
  rcases comma with rfl | rfl
  · decide
  · decide

theorem integer_eq_natural_iff {negative : Bool} {digits : List Char} {n : Nat} :
    integer negative digits = .ok (.natural n) ↔
      negative = false ∧ digitsValue digits = n ∧ n ≤ Index.maxIndex := by
  have float : (scaleFloat (wholeSignificand digits)).map
      (fun x => Number.float (signed negative x)) ≠ .ok (.natural n) := by
    intro float
    obtain ⟨x, -, other⟩ := map_eq_ok_iff.1 float
    cases other
  unfold integer
  cases negative with
  | true =>
    dsimp only
    rw [if_pos rfl]
    split
    · simp
    · simp [float]
  | false =>
    dsimp only
    rw [if_neg Bool.false_ne_true]
    split
    · next within =>
      rw [Except.ok.injEq, Number.natural.injEq]
      exact ⟨fun same => ⟨rfl, same, same ▸ within⟩, fun h => h.2.1⟩
    · next past =>
      refine ⟨fun same => absurd same float, ?_⟩
      rintro ⟨-, rfl, within⟩
      exact absurd within past

/-- What a run of digits leaves starts with no digit. -/
theorem readDigits_parts {text digits rest : List Char} (read : readDigits text = (digits, rest)) :
    text = digits ++ rest ∧ (∀ c ∈ digits, isDigit c = true) ∧
      ∀ c, rest.head? = some c → isDigit c = false := by
  rw [readDigits_eq] at read
  obtain ⟨rfl, rfl⟩ := Prod.mk.inj read
  refine ⟨List.takeWhile_append_dropWhile.symm, fun c taken => List.mem_takeWhile_imp taken, ?_⟩
  intro c first
  have stops := List.head?_dropWhile_not isDigit text
  rwa [first] at stops

/-- **An unsigned integer is read exactly from its literal,** if it is an index and the text does
not go on with the number. -/
theorem readNumber_eq_natural_iff {negative : Bool} {text rest : List Char} {n : Nat} :
    readNumber negative text = .ok (.natural n, rest) ↔
      negative = false ∧ text = printNatural n ++ rest ∧ n ≤ Index.maxIndex ∧ EndsNumber rest := by
  constructor
  · intro read
    unfold readNumber at read
    split at read
    · cases read
    · cases read
    · cases read
    · obtain ⟨_, -, other⟩ := map_eq_ok_iff.1 read
      cases other
    · obtain ⟨_, -, other⟩ := map_eq_ok_iff.1 read
      cases other
    · obtain ⟨_, -, other⟩ := map_eq_ok_iff.1 read
      cases other
    · next digits left unfinished undigested exact fraction exponent exponent' parts =>
      obtain ⟨number, natural, same⟩ := map_eq_ok_iff.1 read
      obtain ⟨rfl, rfl⟩ := Prod.mk.inj same
      obtain ⟨unsigned, value, within⟩ := integer_eq_natural_iff.1 natural
      obtain ⟨rfl, all, ends⟩ := readDigits_parts parts
      have nonempty : digits ≠ [] := by
        rintro rfl
        cases left with
        | nil => exact unfinished rfl rfl
        | cons c left => exact undigested c left rfl rfl
      have canonical : ∀ others, digits = '0' :: others → others = [] := by
        intro others zero
        cases others with
        | nil => rfl
        | cons d others => exact (exact d others zero).elim
      refine ⟨unsigned, ?_, within, fun c first => ⟨ends c first, ?_, ?_, ?_⟩⟩
      · rw [← value, printNatural_digitsValue nonempty all canonical]
      · rintro rfl
        obtain ⟨others, left⟩ := List.head?_eq_some_iff.1 first
        exact fraction others left
      · rintro rfl
        obtain ⟨others, left⟩ := List.head?_eq_some_iff.1 first
        exact exponent others left
      · rintro rfl
        obtain ⟨others, left⟩ := List.head?_eq_some_iff.1 first
        exact exponent' others left
  · rintro ⟨rfl, rfl, within, ends⟩
    have parts : readDigits (printNatural n ++ rest) = (printNatural n, rest) :=
      readDigits_append (fun c => isDigit_of_mem_printNatural) fun c first => (ends c first).1
    unfold readNumber
    rw [parts]
    split
    · next digits => exact absurd (Prod.mk.inj digits).1 (printNatural_ne_nil n)
    · next digits => exact absurd (Prod.mk.inj digits).1 (printNatural_ne_nil n)
    · next digits => cases eq_nil_of_printNatural (Prod.mk.inj digits).1
    · next digits => exact absurd rfl (ends '.' (by rw [(Prod.mk.inj digits).2]; rfl)).2.1
    · next digits => exact absurd rfl (ends 'e' (by rw [(Prod.mk.inj digits).2]; rfl)).2.2.1
    · next digits => exact absurd rfl (ends 'E' (by rw [(Prod.mk.inj digits).2]; rfl)).2.2.2
    · next digits =>
      obtain ⟨rfl, rfl⟩ := Prod.mk.inj digits
      rw [integer_eq_natural_iff.2 ⟨rfl, digitsValue_printNatural n, within⟩]
      rfl

/-! ### Kinds -/

/-- A character that is not blank is not skipped. -/
theorem skipBlanks_cons {c : Char} {text : List Char} (visible : isBlank c = false) :
    skipBlanks (c :: text) = c :: text :=
  List.dropWhile_cons_of_neg (Bool.eq_false_iff.1 visible)

theorem skipBlanks_skipBlanks (text : List Char) :
    skipBlanks (skipBlanks text) = skipBlanks text :=
  List.dropWhile_idempotent ..

theorem isBlank_of_isDigit {c : Char} (digit : isDigit c = true) : isBlank c = false := by
  rw [Bool.eq_false_iff]
  intro blank
  simp only [isBlank, Bool.or_eq_true, beq_iff_eq] at blank
  rcases blank with ((rfl | rfl) | rfl) | rfl
  all_goals exact absurd digit (by decide)

/-- No digit is skipped. -/
theorem skipBlanks_printNatural (n : Nat) (rest : List Char) :
    skipBlanks (printNatural n ++ rest) = printNatural n ++ rest := by
  obtain ⟨c, digits, number⟩ := List.exists_cons_of_ne_nil (printNatural_ne_nil n)
  have digit : isDigit c = true := isDigit_of_mem_printNatural (number ▸ List.mem_cons_self)
  rw [number, List.cons_append, skipBlanks_cons (isBlank_of_isDigit digit)]

/-- **How a kind is written,** from the first letter on, which tells it. -/
inductive Starts : List Char → Kind → List Char → Prop
  | null {text rest : List Char} (keyword : expectKeyword ['u', 'l', 'l'] text = .ok rest) :
      Starts ('n' :: text) .null rest
  | true {text rest : List Char} (keyword : expectKeyword ['r', 'u', 'e'] text = .ok rest) :
      Starts ('t' :: text) (.boolean true) rest
  | false {text rest : List Char} (keyword : expectKeyword ['a', 'l', 's', 'e'] text = .ok rest) :
      Starts ('f' :: text) (.boolean false) rest
  | string {text rest : List Char} {word : String} (read : readString text = .ok (word, rest)) :
      Starts ('"' :: text) (.string word) rest
  | array {text : List Char} : Starts ('[' :: text) .array text
  | object {text : List Char} : Starts ('{' :: text) .object text
  | negative {text rest : List Char} {n : Number} (read : readNumber true text = .ok (n, rest)) :
      Starts ('-' :: text) (.number n) rest
  | number {c : Char} {text rest : List Char} {n : Number}
      (read : readNumber false (c :: text) = .ok (n, rest)) : Starts (c :: text) (.number n) rest

/-- **A kind is read from what is written,** blanks apart. -/
theorem starts_of_readKind {text rest : List Char} {kind : Kind}
    (read : readKind text = .ok (kind, rest)) : Starts (skipBlanks text) kind rest := by
  unfold readKind at read
  split at read
  · cases read
  · next starts =>
    obtain ⟨left, keyword, same⟩ := map_eq_ok_iff.1 read
    obtain ⟨rfl, rfl⟩ := Prod.mk.inj same
    exact starts ▸ .null keyword
  · next starts =>
    obtain ⟨left, keyword, same⟩ := map_eq_ok_iff.1 read
    obtain ⟨rfl, rfl⟩ := Prod.mk.inj same
    exact starts ▸ .true keyword
  · next starts =>
    obtain ⟨left, keyword, same⟩ := map_eq_ok_iff.1 read
    obtain ⟨rfl, rfl⟩ := Prod.mk.inj same
    exact starts ▸ .false keyword
  · next starts =>
    obtain ⟨⟨word, left⟩, string, same⟩ := map_eq_ok_iff.1 read
    obtain ⟨rfl, rfl⟩ := Prod.mk.inj same
    exact starts ▸ .string string
  · next starts =>
    obtain ⟨rfl, rfl⟩ := Prod.mk.inj (Except.ok.inj read)
    exact starts ▸ .array
  · next starts =>
    obtain ⟨rfl, rfl⟩ := Prod.mk.inj (Except.ok.inj read)
    exact starts ▸ .object
  · next starts =>
    obtain ⟨⟨number, left⟩, whole, same⟩ := map_eq_ok_iff.1 read
    obtain ⟨rfl, rfl⟩ := Prod.mk.inj same
    exact starts ▸ .negative whole
  · next starts =>
    split at read
    · obtain ⟨⟨number, left⟩, whole, same⟩ := map_eq_ok_iff.1 read
      obtain ⟨rfl, rfl⟩ := Prod.mk.inj same
      exact starts ▸ .number whole
    · cases read

/-- **So is its kind.** -/
theorem readKind_eq_natural_iff {text rest : List Char} {n : Nat} :
    readKind text = .ok (.number (.natural n), rest) ↔
      skipBlanks text = printNatural n ++ rest ∧ n ≤ Index.maxIndex ∧ EndsNumber rest := by
  constructor
  · intro read
    have starts := starts_of_readKind read
    generalize skipBlanks text = visible at starts ⊢
    cases starts with
    | negative whole => cases (readNumber_eq_natural_iff.1 whole).1
    | number whole => exact (readNumber_eq_natural_iff.1 whole).2
  · rintro ⟨starts, within, ends⟩
    obtain ⟨c, digits, number⟩ := List.exists_cons_of_ne_nil (printNatural_ne_nil n)
    have digit : isDigit c = true := isDigit_of_mem_printNatural (number ▸ List.mem_cons_self)
    have whole : readNumber false (c :: (digits ++ rest)) = .ok (.natural n, rest) := by
      rw [← List.cons_append, ← number]
      exact readNumber_eq_natural_iff.2 ⟨rfl, rfl, within, ends⟩
    -- no digit is the first letter of anything else
    have other : ∀ {d left}, isDigit d = false → c :: (digits ++ rest) ≠ d :: left :=
      fun notDigit same => not_isDigit_eq digit notDigit (List.cons.inj same).1
    unfold readKind
    rw [starts, number, List.cons_append]
    split
    · next none => cases none
    · next same => exact absurd same (other rfl)
    · next same => exact absurd same (other rfl)
    · next same => exact absurd same (other rfl)
    · next same => exact absurd same (other rfl)
    · next same => exact absurd same (other rfl)
    · next same => exact absurd same (other rfl)
    · next same => exact absurd same (other rfl)
    · next same =>
      obtain ⟨rfl, rfl⟩ := List.cons.inj same
      rw [if_pos digit, whole]
      rfl

/-- **A printed integer is read back,** if it is an index. -/
theorem readKind_printNatural {n : Nat} (within : n ≤ Index.maxIndex) {rest : List Char}
    (ends : EndsNumber rest) :
    readKind (printNatural n ++ rest) = .ok (.number (.natural n), rest) :=
  readKind_eq_natural_iff.2 ⟨skipBlanks_printNatural n rest, within, ends⟩

/-- A number is a value at any depth. -/
theorem readValue_of_number {text rest : List Char} {n : Number} (depth : Nat)
    (read : readKind text = .ok (.number n, rest)) :
    readValue depth text = .ok (.number n, rest) := by
  cases depth with
  | zero =>
    rw [readValue, read]
    rfl
  | succ depth =>
    rw [readValue, read]
    rfl

/-- **A printed Boolean is read back.** -/
theorem readKind_printBoolean (b : Bool) (rest : List Char) :
    readKind (printBoolean b ++ rest) = .ok (.boolean b, rest) := by
  cases b with
  | true => rfl
  | false => rfl

/-! ### Words -/

/-- Whether a character stands for itself: it is no quote, backslash or control character. -/
def isPlain (c : Char) : Bool := c != '"' && c != '\\' && !isControl c

/-- **A word that is printed as it is.** -/
def Plain (word : String) : Prop := word.toList.all isPlain = true

theorem readChars_plain {chars : List Char} (rest : List Char) (plain : chars.all isPlain = true) :
    readChars (chars ++ '"' :: rest) = .ok (chars, rest) := by
  induction chars with
  | nil => rfl
  | cons c chars ih =>
    rw [List.all_cons, Bool.and_eq_true] at plain
    obtain ⟨first, others⟩ := plain
    simp only [isPlain, Bool.and_eq_true, bne_iff_ne, Bool.not_eq_true'] at first
    obtain ⟨⟨unquoted, unescaped⟩, uncontrolled⟩ := first
    rw [List.cons_append, readChars]
    · rw [uncontrolled, if_neg Bool.false_ne_true, ih others]
      rfl
    · exact unquoted
    · exact fun same _ => unescaped same
    · exact fun _ _ _ _ _ same _ => unescaped same
    · exact fun _ same _ => unescaped same
    · exact fun _ _ same _ => unescaped same

theorem printWord_append (word : String) (rest : List Char) :
    printWord word ++ rest = '"' :: (word.toList ++ '"' :: rest) := by
  rw [printWord, List.append_assoc]
  rfl

theorem readString_plain {word : String} (plain : Plain word) (rest : List Char) :
    readString (word.toList ++ '"' :: rest) = .ok (word, rest) := by
  rw [readString, readChars_plain rest plain]
  show Except.ok (String.ofList word.toList, rest) = _
  rw [String.ofList_toList]

/-- **A plain word is read back.** -/
theorem readKind_printWord {word : String} (plain : Plain word) (rest : List Char) :
    readKind (printWord word ++ rest) = .ok (.string word, rest) := by
  rw [printWord_append]
  show (readString (word.toList ++ '"' :: rest)).map _ = _
  rw [readString_plain plain]
  rfl

/-- **So is a plain key.** -/
theorem readKey_printWord {word : String} (plain : Plain word) (rest : List Char) :
    readKey (printWord word ++ rest) = .ok (word, rest) := by
  rw [printWord_append]
  exact readString_plain plain rest

end Retrace.Json
