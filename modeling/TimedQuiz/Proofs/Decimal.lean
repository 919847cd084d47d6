/-
**Reading whole numbers of 32 bits.**

* `Numeral`: how a whole number may be written: a sign or none, and at least one digit, with any
  number of zeros in front.
* `read_eq_ok_iff`: exactly the numbers of 32 bits are read, however they are written.
* `numeral_toString`: the shortest way to write a number is one of them.
-/

import TimedQuiz.Decimal.Whole
import TimedQuiz.Proofs.Text.Trim

namespace TimedQuiz.Decimal

/-- The text consists of digits, at least one, and this is their value. -/
structure Digits (text : List Char) (value : Nat) : Prop where
  some : text ≠ []
  digits : ∀ c ∈ text, c.isDigit = true
  value : Nat.ofDigitChars 10 text 0 = value

/-- The text begins with a digit. -/
theorem Digits.isDigit_head {c : Char} {text : List Char} {value : Nat}
    (digits : Digits (c :: text) value) : c.isDigit = true := digits.digits c List.mem_cons_self

/-- The text is a way to write the number. -/
inductive Numeral : List Char → Int → Prop
  | unsigned {text : List Char} {value : Nat} (digits : Digits text value) : Numeral text value
  | plus {text : List Char} {value : Nat} (digits : Digits text value) :
      Numeral ('+' :: text) value
  | minus {text : List Char} {value : Nat} (digits : Digits text value) :
      Numeral ('-' :: text) (-value)

/-- No number has white space in it. -/
theorem Numeral.isBlank_eq_false {text : List Char} {value : Int} (numeral : Numeral text value) :
    ∀ c ∈ text, Text.isBlank c = false := by
  have inside {text : List Char} {value : Nat} (digits : Digits text value) :
      ∀ c ∈ text, Text.isBlank c = false := fun c member =>
    Text.isBlank_of_isDigit (digits.digits c member)
  cases numeral with
  | unsigned digits => exact inside digits
  | plus digits => exact List.forall_mem_cons.mpr ⟨by decide, inside digits⟩
  | minus digits => exact List.forall_mem_cons.mpr ⟨by decide, inside digits⟩

namespace Whole

/-! ### Digits -/

/-- More digits make no number smaller. -/
theorem le_ofDigitChars (text : List Char) (start : Nat) :
    start ≤ Nat.ofDigitChars 10 text start := by
  induction text generalizing start with
  | nil => exact Nat.le_refl start
  | cons c rest ih =>
    rw [Nat.ofDigitChars_cons]
    exact Nat.le_trans (by omega) (ih _)

/-- The digits are taken in to the last one exactly when their value does not pass the limit. No
value on the way passes it then. -/
theorem takeDigits_eq_ok_iff {limit start value : Nat} {beyond : Fault} {text : List Char}
    (below : start ≤ limit) :
    takeDigits limit beyond start text = .ok value ↔
      (∀ c ∈ text, c.isDigit = true) ∧ Nat.ofDigitChars 10 text start = value ∧ value ≤ limit := by
  induction text generalizing start with
  | nil =>
    simp only [takeDigits, Except.ok.injEq, Nat.ofDigitChars_nil]
    constructor
    · rintro rfl
      exact ⟨fun _ impossible => (by cases impossible), rfl, below⟩
    · exact fun same => same.2.1
  | cons c rest ih =>
    have next : start * 10 + digitValue c = 10 * start + (c.toNat - '0'.toNat) := by
      rw [digitValue, Nat.mul_comm]
    rw [takeDigits, next, Nat.ofDigitChars_cons, List.forall_mem_cons]
    split
    · rename_i digit
      dsimp only
      split
      · rename_i fits
        rw [ih fits]
        exact ⟨fun taken => ⟨⟨digit, taken.1⟩, taken.2⟩, fun taken => ⟨taken.1.2, taken.2⟩⟩
      · rename_i passes
        refine iff_of_false (fun impossible => by cases impossible) fun taken => passes ?_
        have grown := le_ofDigitChars rest (10 * start + (c.toNat - '0'.toNat))
        omega
    · rename_i other
      exact iff_of_false (fun impossible => by cases impossible) fun taken => other taken.1.1

theorem magnitude_eq_ok_iff {limit value : Nat} {beyond : Fault} {text : List Char} :
    magnitude limit beyond text = .ok value ↔ Digits text value ∧ value ≤ limit := by
  cases text with
  | nil => exact iff_of_false (fun impossible => by cases impossible) fun taken => taken.1.some rfl
  | cons c rest =>
    have some : (c :: rest).isEmpty = false := rfl
    rw [magnitude, some, if_neg Bool.false_ne_true, takeDigits_eq_ok_iff (Nat.zero_le limit)]
    constructor
    · exact fun taken => ⟨⟨List.cons_ne_nil c rest, taken.1, taken.2.1⟩, taken.2.2⟩
    · exact fun taken => ⟨taken.1.digits, taken.1.value, taken.2⟩

/-- What is read behind a sign, or without one, is a number whose digits fit the limit. -/
theorem signed_eq_ok_iff {limit : Nat} {beyond : Fault} {text : List Char} {value : Int}
    (signed : Int → Int) :
    Except.map signed (do let number ← magnitude limit beyond text; pure (number : Int)) =
        .ok value ↔
      ∃ number : Nat, Digits text number ∧ number ≤ limit ∧ signed number = value := by
  constructor
  · intro read
    cases taken : magnitude limit beyond text with
    | error fault => rw [taken] at read; cases read
    | ok number =>
      rw [taken] at read
      obtain ⟨digits, fits⟩ := magnitude_eq_ok_iff.mp taken
      exact ⟨number, digits, fits, Except.ok.inj read⟩
  · rintro ⟨number, digits, fits, rfl⟩
    rw [magnitude_eq_ok_iff.mpr ⟨digits, fits⟩]
    rfl

/-! ### The numbers of 32 bits -/

/-- The number is one of 32 bits. -/
def InRange (value : Int) : Prop := -2147483648 ≤ value ∧ value ≤ 2147483647

instance (value : Int) : Decidable (InRange value) :=
  inferInstanceAs (Decidable (_ ∧ _))

theorem inRange_natCast_iff {number : Nat} : InRange number ↔ number ≤ greatest := by
  unfold InRange greatest
  omega

theorem inRange_neg_iff {number : Nat} : InRange (-number) ↔ number ≤ leastMagnitude := by
  unfold InRange leastMagnitude
  omega

/-- **Exactly the numbers of 32 bits are read**, in whatever way they are written. -/
theorem read_eq_ok_iff {text : List Char} {value : Int} :
    read text = .ok value ↔ Numeral text value ∧ InRange value := by
  unfold read
  split
  · refine iff_of_false (fun impossible => by cases impossible) ?_
    rintro ⟨⟨digits⟩, -⟩
    exact digits.some rfl
  · rw [signed_eq_ok_iff]
    constructor
    · rintro ⟨number, digits, fits, rfl⟩
      exact ⟨.plus digits, inRange_natCast_iff.mpr fits⟩
    · rintro ⟨numeral, range⟩
      cases numeral with
      | unsigned digits => exact absurd digits.isDigit_head (by decide)
      | plus digits => exact ⟨_, digits, inRange_natCast_iff.mp range, rfl⟩
  · rw [signed_eq_ok_iff]
    constructor
    · rintro ⟨number, digits, fits, rfl⟩
      exact ⟨.minus digits, inRange_neg_iff.mpr fits⟩
    · rintro ⟨numeral, range⟩
      cases numeral with
      | unsigned digits => exact absurd digits.isDigit_head (by decide)
      | minus digits => exact ⟨_, digits, inRange_neg_iff.mp range, rfl⟩
  · rename_i noPlus noMinus
    rw [signed_eq_ok_iff]
    constructor
    · rintro ⟨number, digits, fits, rfl⟩
      exact ⟨.unsigned digits, inRange_natCast_iff.mpr fits⟩
    · rintro ⟨numeral, range⟩
      cases numeral with
      | unsigned digits => exact ⟨_, digits, inRange_natCast_iff.mp range, rfl⟩
      | plus digits => exact (noPlus _ rfl).elim
      | minus digits => exact (noMinus _ rfl).elim

end Whole

/-! ### Writing -/

theorem digits_repr (value : Nat) : Digits value.repr.toList value := by
  rw [Nat.repr_eq_ofList_toDigits, String.toList_ofList]
  exact
    { some := Nat.toDigits_ne_nil
      digits := fun c => Nat.isDigit_of_mem_toDigits (by decide) (by decide)
      value := Nat.ofDigitChars_toDigits (by decide) (by decide) }

/-- The usual way to write a number is a way to write it. -/
theorem numeral_toString (value : Int) : Numeral (toString value).toList value := by
  cases value with
  | ofNat value => exact .unsigned (digits_repr value)
  | negSucc value =>
    have text : (toString (Int.negSucc value)).toList = '-' :: (value + 1).repr.toList :=
      String.toList_append
    rw [text]
    exact .minus (digits_repr (value + 1))

end TimedQuiz.Decimal
