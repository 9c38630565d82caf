import ScopedStore.Proofs.Json.Numbers

/-!
# Integers are read back

An integer is written as its sign and its digits. The reader gathers digits as long as they fit
into 64 bits, so an integer of 64 bits, signed or unsigned, is read back as it is
(`readNumber_integerChars`). A larger one is read as a double or is refused: what the reader gives
is the same integer or no integer at all (`readNumber_integerChars_only`).
-/

set_option autoImplicit false

namespace ScopedStore

namespace Decimal

/-- The digits of a number, as numbers. -/
def digitsOf (magnitude : Nat) : List Nat :=
  (Nat.toDigits 10 magnitude).map fun digit => digit.toNat - 0x30

/-- The literal of an integer. -/
def plainLiteral (value : Int) : Literal := ⟨decide (value < 0), digitsOf value.natAbs, none, none⟩

theorem ofDigits_digitsOf (magnitude : Nat) : ofDigits (digitsOf magnitude) = magnitude := by
  have written := @Nat.ofDigitChars_ten_toDigits magnitude
  rw [Nat.ofDigitChars_eq_foldl] at written
  rw [ofDigits, digitsOf, List.foldl_map]
  simp only [Nat.mul_comm _ 10]
  exact written

/-- Only zero begins with the digit zero. -/
theorem digitsOf_cons {magnitude first : Nat} {others : List Nat}
    (written : digitsOf magnitude = first :: others) : magnitude = 0 ∨ first ≠ 0 := by
  induction magnitude using Nat.strongRecOn generalizing first others with
  | ind magnitude ih =>
      rw [digitsOf, Nat.toDigits_eq_if (by decide)] at written
      split at written
      · rename_i small
        cases written
        refine (Decidable.em (magnitude = 0)).imp_right fun other same => other ?_
        exact (Nat.toNat_digitChar_sub_48_of_lt_ten small).symm.trans same
      · rename_i large
        rw [List.map_append, ← digitsOf] at written
        obtain ⟨front, digits⟩ : ∃ front, digitsOf (magnitude / 10) = first :: front := by
          rcases digits : digitsOf (magnitude / 10) with _ | ⟨head, front⟩
          · exact absurd (List.map_eq_nil_iff.1 digits) Nat.toDigits_ne_nil
          · rw [digits] at written
            cases written
            exact ⟨front, rfl⟩
        exact .inr ((ih (magnitude / 10) (by omega) digits).resolve_left (by omega))

namespace Significand

/-- How the digit behind some others is gathered. -/
def gather (gathered : Significand) (digit : Nat) : Significand :=
  if gathered.power == 0 && gathered.value * 10 + digit ≤ maxSignificand then
    ⟨gathered.value * 10 + digit, 0⟩
  else ⟨gathered.value, gathered.power + 1⟩

/-- Digits that fit are all gathered. -/
theorem foldl_gather_of_le {digits : List Nat} {value : Nat}
    (fits : digits.foldl (fun value digit => value * 10 + digit) value ≤ maxSignificand) :
    digits.foldl gather ⟨value, 0⟩ =
      ⟨digits.foldl (fun value digit => value * 10 + digit) value, 0⟩ := by
  induction digits generalizing value with
  | nil => rfl
  | cons digit rest ih =>
      -- The number only grows with every digit, so what fits at the end has always fitted.
      have grows (digits : List Nat) (value : Nat) :
          value ≤ digits.foldl (fun value digit => value * 10 + digit) value := by
        induction digits generalizing value with
        | nil => exact Nat.le_refl value
        | cons digit rest ih => exact Nat.le_trans (by omega) (ih (value * 10 + digit))
      have now : value * 10 + digit ≤ maxSignificand := Nat.le_trans (grows rest _) fits
      have step : gather ⟨value, 0⟩ digit = ⟨value * 10 + digit, 0⟩ :=
        if_pos (by simp only [beq_self_eq_true, Bool.true_and, decide_eq_true now])
      rw [List.foldl_cons, step]
      exact ih fits

/-- Where all digits were gathered they make the number that they write. -/
theorem value_of_power_eq_zero {digits : List Nat} {gathered : Significand}
    (start : 0 ≤ gathered.power) (all : (digits.foldl gather gathered).power = 0) :
    gathered.power = 0 ∧ (digits.foldl gather gathered).value =
      digits.foldl (fun value digit => value * 10 + digit) gathered.value := by
  induction digits generalizing gathered with
  | nil => exact ⟨all, rfl⟩
  | cons digit rest ih =>
      rw [List.foldl_cons] at all ⊢
      rw [gather] at all ⊢
      split at all
      · rename_i plain
        rw [if_pos plain]
        rw [Bool.and_eq_true, beq_iff_eq] at plain
        exact ⟨plain.1, (ih (Int.le_refl 0) all).2⟩
      · have raised := (@ih ⟨gathered.value, gathered.power + 1⟩
          (show 0 ≤ gathered.power + 1 by omega) all).1
        have : gathered.power + 1 = 0 := raised
        omega

end Significand

/-- The literal of an integer of 64 bits has that integer as its value. -/
theorem value?_plainLiteral {value : Int} (range : -Bounds.signed64 ≤ value)
    (range' : value < Bounds.unsigned64) :
    (plainLiteral value).value? = some (.integer value) := by
  have fits : ofDigits (digitsOf value.natAbs) ≤ maxSignificand := by
    rw [ofDigits_digitsOf, maxSignificand]
    rw [Bounds.signed64] at range
    rw [Bounds.unsigned64] at range' ⊢
    omega
  have gathered : (plainLiteral value).significand = ⟨value.natAbs, 0⟩ := by
    have all := Significand.foldl_gather_of_le fits
    rw [← ofDigits, ofDigits_digitsOf] at all
    exact all
  rw [Literal.value?, gathered]
  dsimp only [plainLiteral, Option.isNone_none]
  by_cases negative : value < 0
  · have positive : 0 < value.natAbs := by omega
    have bounded : value.natAbs ≤ Bounds.signed64 := by omega
    simp only [decide_eq_true negative, decide_eq_true positive, decide_eq_true bounded,
      beq_self_eq_true, Bool.and_self, Bool.not_true, Bool.and_false, Bool.false_eq_true, if_false,
      if_true]
    exact congrArg (fun value => some (Quantity.integer value)) (by omega)
  · simp only [decide_eq_false negative, beq_self_eq_true, Bool.and_self, Bool.not_false, if_true]
    exact congrArg (fun value => some (Quantity.integer value)) (by omega)

/-- The literal of an integer has no other integer as its value. -/
theorem value?_plainLiteral_only {value other : Int}
    (read : (plainLiteral value).value? = some (.integer other)) : other = value := by
  have whole : (plainLiteral value).significand =
      (digitsOf value.natAbs).foldl Significand.gather ⟨0, 0⟩ := rfl
  have gathered (plain : (plainLiteral value).significand.power = 0) :
      (plainLiteral value).significand.value = value.natAbs := by
    rw [whole] at plain ⊢
    rw [(Significand.value_of_power_eq_zero (Int.le_refl 0) plain).2]
    exact ofDigits_digitsOf value.natAbs
  rw [Literal.value?] at read
  split at read
  · rename_i plain
    simp only [Bool.and_eq_true, beq_iff_eq, Bool.not_eq_true'] at plain
    have nonnegative : ¬value < 0 := of_decide_eq_false plain.2
    rw [gathered plain.1.2] at read
    cases read
    omega
  · split at read
    · rename_i mixed plain
      simp only [Bool.and_eq_true, Bool.not_eq_true', beq_iff_eq, not_and,
        Bool.not_eq_false] at mixed plain
      have negative : value < 0 := of_decide_eq_true (mixed plain.1.1)
      rw [gathered plain.1.1.2] at read
      cases read
      omega
    · obtain ⟨double, _, same⟩ := Option.map_eq_some_iff.1 read
      cases same

end Decimal

namespace Json

open Decimal

theorem readDigits_toDigits (magnitude : Nat) :
    readDigits (Nat.toDigits 10 magnitude) = (digitsOf magnitude, []) := by
  have digits (character : Char) (member : character ∈ Nat.toDigits 10 magnitude) :
      character.isDigit = true := Nat.isDigit_of_mem_toDigits (by decide) (by decide) member
  rw [← List.append_nil (Nat.toDigits 10 magnitude), readDigits,
    List.takeWhile_append_of_pos digits, List.dropWhile_append_of_pos digits, List.takeWhile_nil,
    List.append_nil, digitsOf]
  rfl

/-- The digits of a number without its sign. -/
theorem readUnsigned_toDigits (negative : Bool) (magnitude : Nat) :
    readUnsigned negative (Nat.toDigits 10 magnitude) =
      some (⟨negative, digitsOf magnitude, none, none⟩, []) := by
  rw [readUnsigned, readDigits_toDigits magnitude]
  split
  · rename_i digits
    exact absurd (List.map_eq_nil_iff.1 (congrArg Prod.fst digits)) Nat.toDigits_ne_nil
  · rename_i second others behind digits
    -- Zero itself has one digit only.
    have written : digitsOf magnitude = 0 :: second :: others := congrArg Prod.fst digits
    rcases digitsOf_cons written with rfl | other
    · cases written
    · exact absurd rfl other
  · rename_i digits
    cases digits
    rfl

theorem readLiteral_integerChars (value : Int) :
    readLiteral (integerChars value) = some (plainLiteral value, []) := by
  cases value with
  | negSucc magnitude =>
      have sign : plainLiteral (.negSucc magnitude) =
          ⟨true, digitsOf (magnitude + 1), none, none⟩ := by
        rw [plainLiteral, decide_eq_true (Int.negSucc_lt_zero magnitude)]
        rfl
      rw [sign]
      exact readUnsigned_toDigits true (magnitude + 1)
  | ofNat magnitude =>
      have sign : plainLiteral (.ofNat magnitude) = ⟨false, digitsOf magnitude, none, none⟩ := by
        have nonnegative : ¬Int.ofNat magnitude < 0 := Int.not_lt.2 (Int.natCast_nonneg magnitude)
        rw [plainLiteral, decide_eq_false nonnegative]
        rfl
      have unsigned : ∀ behind, Nat.toDigits 10 magnitude ≠ '-' :: behind := by
        intro behind same
        have digit : '-'.isDigit = true :=
          Nat.isDigit_of_mem_toDigits (by decide) (by decide) (same ▸ List.mem_cons_self)
        cases digit
      rw [sign, integerChars, readLiteral_unsigned unsigned]
      exact readUnsigned_toDigits false magnitude

/-- **An integer of 64 bits is read back.** -/
theorem readNumber_integerChars {value : Int} (range : IntegerRange value) :
    readNumber (integerChars value) = some (.integer value, []) := by
  rw [readNumber, readLiteral_integerChars value]
  simp only [bind, Option.bind]
  rw [value?_plainLiteral range.1 range.2]
  rfl

/-- **No other integer is read** from the text of an integer. -/
theorem readNumber_integerChars_only {value : Int} {rest behind : List Char} {again : Json}
    (stops : Stops rest)
    (read : readNumber (integerChars value ++ rest) = some (again, behind)) :
    again = .integer value ∨ ∃ double, again = .double double := by
  rw [readNumber_append stops] at read
  obtain ⟨_, alone, same⟩ := Option.map_eq_some_iff.1 read
  cases same
  rw [readNumber, readLiteral_integerChars value] at alone
  obtain ⟨_, same, behind⟩ := Option.bind_eq_some_iff.1 alone
  cases same
  obtain ⟨quantity, held, given⟩ := Option.bind_eq_some_iff.1 behind
  cases quantity with
  | integer other =>
      cases given
      exact .inl (congrArg Json.integer (value?_plainLiteral_only held))
  | double other =>
      cases given
      exact .inr ⟨other, rfl⟩

end Json

end ScopedStore
