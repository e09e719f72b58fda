import Mathlib.Tactic.IntervalCases
import Socks.Text.Numeral

/-!
Numerals are read back as they were written. The spelling of a number consists of
digits alone, so a reader takes all of it and stops at the first character behind
it that is no digit; and the value of the digits is the number.
-/
namespace Socks.Proofs.NumeralReading

open Socks.Text

/-- No digit stands at the front of a text, so a run of digits ends before it. -/
def DigitFree (base : Nat) (text : List Char) : Prop :=
  ∀ c ∈ text.head?, Numeral.isDigit base c = false

theorem digitFree_nil (base : Nat) : DigitFree base [] := by
  simp [DigitFree]

theorem digitFree_cons {base : Nat} {c : Char} (other : Numeral.isDigit base c = false)
    (text : List Char) : DigitFree base (c :: text) := by
  simpa [DigitFree] using other

variable {base number : Nat}

private theorem digitValue?_digitChar {digit : Nat} (small : digit < base) (hexadecimal : base ≤ 16) :
    Numeral.digitValue? base digit.digitChar = some digit := by
  have sixteen : digit < 16 := by omega
  interval_cases digit <;> simp [Numeral.digitValue?, Nat.digitChar, small]

theorem isDigit_of_mem_spelling (positional : 1 < base) (hexadecimal : base ≤ 16) {c : Char}
    (member : c ∈ Numeral.spelling base number) : Numeral.isDigit base c = true := by
  unfold Numeral.spelling at member
  induction number using Nat.base_induction base positional with
  | single digit small =>
    rw [Nat.toDigits_of_lt_base small, List.mem_singleton] at member
    simp [member, Numeral.isDigit, digitValue?_digitChar small hexadecimal]
  | digit front digit small positive ih =>
    rw [← Nat.toDigits_append_toDigits positional positive small, List.mem_append,
      Nat.toDigits_of_lt_base small, List.mem_singleton] at member
    rcases member with member | rfl
    · exact ih member
    · simp [Numeral.isDigit, digitValue?_digitChar small hexadecimal]

/-- The digits of a number stand for that number. -/
theorem value_spelling (positional : 1 < base) (hexadecimal : base ≤ 16) :
    Numeral.value base (Numeral.spelling base number) = number := by
  unfold Numeral.spelling
  induction number using Nat.base_induction base positional with
  | single digit small =>
    simp [Nat.toDigits_of_lt_base small, Numeral.value, digitValue?_digitChar small hexadecimal]
  | digit front digit small positive ih =>
    rw [← Nat.toDigits_append_toDigits positional positive small, Nat.toDigits_of_lt_base small]
    simp only [Numeral.value, List.foldl_append, List.foldl_cons, List.foldl_nil] at ih ⊢
    rw [ih, digitValue?_digitChar small hexadecimal, Option.getD_some, Nat.mul_comm]

/-- Only zero starts with the digit zero. -/
theorem head?_spelling_ne_zero (positional : 1 < base) (positive : 0 < number) :
    (Numeral.spelling base number).head? ≠ some '0' := by
  unfold Numeral.spelling
  induction number using Nat.base_induction base positional with
  | single digit small =>
    rw [Nat.toDigits_of_lt_base small]
    simpa using Nat.ne_of_gt positive
  | digit front digit small leading ih =>
    obtain ⟨first, later, digits⟩ :=
      List.exists_cons_of_ne_nil (Nat.toDigits_ne_nil (b := base) (n := front))
    rw [← Nat.toDigits_append_toDigits positional leading small, digits]
    simpa [digits] using ih leading

theorem length_spelling_le {limit : Nat} (positional : 1 < base) (room : 0 < limit)
    (bound : number < base ^ limit) : (Numeral.spelling base number).length ≤ limit :=
  (Nat.length_toDigits_le_iff positional room).mpr bound

theorem takeWhile_digits {digits rest : List Char}
    (all : ∀ c ∈ digits, Numeral.isDigit base c = true) (free : DigitFree base rest) :
    (digits ++ rest).takeWhile (Numeral.isDigit base) = digits ∧
      (digits ++ rest).dropWhile (Numeral.isDigit base) = rest := by
  rw [List.takeWhile_append_of_pos all, List.dropWhile_append_of_pos all]
  cases rest with
  | nil => simp
  | cons c rest =>
    have other : Numeral.isDigit base c = false := free c rfl
    simp [other]

/-- A number of few enough digits is read back from its spelling, and nothing of
what follows is taken. -/
theorem read?_spelling {limit : Nat} {rest : List Char} (positional : 1 < base)
    (hexadecimal : base ≤ 16) (room : 0 < limit) (bound : number < base ^ limit)
    (free : DigitFree base rest) :
    Numeral.read? base limit (Numeral.spelling base number ++ rest) =
      some (Numeral.spelling base number, rest) := by
  have digits : ∀ c ∈ Numeral.spelling base number, Numeral.isDigit base c = true :=
    fun _ member => isDigit_of_mem_spelling positional hexadecimal member
  obtain ⟨run, left⟩ := takeWhile_digits digits free
  have short := length_spelling_le positional room bound
  have nonempty : (Numeral.spelling base number).isEmpty = false := by
    simp [Numeral.spelling]
  simp only [Numeral.read?, run, left, nonempty, Bool.false_or, decide_eq_true_eq]
  rw [if_neg (by omega)]

theorem read?_of_digitFree {limit : Nat} {text : List Char} (free : DigitFree base text) :
    Numeral.read? base limit text = none := by
  cases text with
  | nil => rfl
  | cons c rest =>
    have other : Numeral.isDigit base c = false := free c rfl
    simp [Numeral.read?, other]

end Socks.Proofs.NumeralReading
