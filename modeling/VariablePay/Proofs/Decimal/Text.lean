import VariablePay.Proofs.Decimal.ReadBack

set_option autoImplicit false

/-!
# Numerals read back from their texts

The text of a numeral is read as that numeral wherever what follows cannot be taken for more of it.
-/

namespace VariablePay

namespace Digit

@[simp]
theorem ofChar?_toChar (digit : Digit) : ofChar? digit.toChar = some digit := by
  revert digit
  decide

/-- Whether a text does not go on with a digit. -/
def Ends (text : List Char) : Prop := ∀ char ∈ text.head?, ofChar? char = none

theorem span_eq_nil {text : List Char} (ends : Ends text) : span text = ([], text) := by
  cases text with
  | nil => rfl
  | cons char rest =>
      unfold span
      rw [ends char rfl]

theorem span_map_toChar (digits : List Digit) {rest : List Char} (ends : Ends rest) :
    span (digits.map toChar ++ rest) = (digits, rest) := by
  induction digits with
  | nil => exact span_eq_nil ends
  | cons digit digits ih =>
      rw [List.map_cons, List.cons_append, span]
      simp only [ofChar?_toChar, ih]

@[simp]
theorem value_ofNat (number : Nat) : value 0 (ofNat number) = number := by
  have whole := value_lastOf (count number) number
  rwa [Nat.div_eq_of_lt (lt_pow_count number)] at whole

theorem ofNat_ne_nil (number : Nat) : ofNat number ≠ [] := by
  intro empty
  have length := length_lastOf (count number) number
  rw [← ofNat, empty, List.length_nil] at length
  exact (count_pos number).ne length

private theorem lastOf_succ (width number : Nat) :
    lastOf (width + 1) number = Fin.ofNat 10 (number / 10 ^ width) :: lastOf width number := by
  induction width generalizing number with
  | zero => simp [lastOf]
  | succ width ih =>
      rw [lastOf, ih, lastOf, List.cons_append, pow_succ', Nat.div_div_eq_div_mul]

/-- The digits of a number start with zero only if there is no other. -/
theorem eq_nil_of_ofNat {number : Nat} {digits : List Digit} (same : ofNat number = 0 :: digits) :
    digits = [] := by
  obtain ⟨width, width_eq⟩ := Nat.exists_eq_add_one.mpr (count_pos number)
  rw [ofNat, width_eq, lastOf_succ] at same
  obtain ⟨first, rfl⟩ := List.cons.inj same
  rcases Nat.eq_zero_or_pos number with rfl | positive
  · have : width = 0 := by
      simpa [count] using width_eq.symm
    rw [this]
    rfl
  · have low := pow_count_le positive
    have high := lt_pow_count number
    rw [width_eq, Nat.add_sub_cancel] at low
    rw [width_eq, pow_succ'] at high
    have leading : number / 10 ^ width < 10 := Nat.div_lt_of_lt_mul (by rwa [mul_comm])
    have some : 0 < number / 10 ^ width := Nat.div_pos low (by positivity)
    have zero : number / 10 ^ width % 10 = 0 := congrArg Fin.val first
    omega

end Digit

namespace Numeral

/-- Whether a text does not go on with a part of a numeral. -/
def Ends (text : List Char) : Prop :=
  ∀ char ∈ text.head?, Digit.ofChar? char = none ∧ char ≠ '.' ∧ char ≠ 'e' ∧ char ≠ 'E'

theorem Ends.noDigit {text : List Char} (ends : Ends text) : Digit.Ends text :=
  fun char first => (ends char first).1

private theorem readWhole?_text (whole : Nat) {rest : List Char} (ends : Digit.Ends rest) :
    readWhole? ((Digit.ofNat whole).map Digit.toChar ++ rest) = some (whole, rest) := by
  unfold readWhole?
  rw [Digit.span_map_toChar _ ends]
  cases digits : Digit.ofNat whole with
  | nil => exact absurd digits (Digit.ofNat_ne_nil whole)
  | cons first others =>
      have plain : ¬(first = 0 ∧ others ≠ []) := by
        intro ⟨zero, more⟩
        subst zero
        exact more (Digit.eq_nil_of_ofNat digits)
      simp only
      rw [if_neg plain, ← digits, Digit.value_ofNat]

private def fractionText (fraction : List Digit) : List Char :=
  if fraction.isEmpty then [] else '.' :: fraction.map Digit.toChar

private def powerText? : Option Int → List Char
  | some power => powerText power
  | none => []

private theorem readFraction?_text (fraction : List Digit) {rest : List Char}
    (noDigit : Digit.Ends rest) (noPoint : ∀ char ∈ rest.head?, char ≠ '.') :
    readFraction? (fractionText fraction ++ rest) = some (fraction, rest) := by
  cases fraction with
  | nil =>
      change readFraction? rest = some ([], rest)
      unfold readFraction?
      split
      · exact absurd rfl (noPoint '.' rfl)
      · rfl
  | cons digit digits =>
      change readFraction? ('.' :: ((digit :: digits).map Digit.toChar ++ rest)) = _
      unfold readFraction?
      simp only [Digit.span_map_toChar _ noDigit]

private theorem readPowerDigits?_text (negative : Bool) (size : Nat) {rest : List Char}
    (ends : Digit.Ends rest) :
    readPowerDigits? negative ((Digit.ofNat size).map Digit.toChar ++ rest) =
      some (some (if negative then -(size : Int) else size), rest) := by
  unfold readPowerDigits?
  rw [Digit.span_map_toChar _ ends]
  cases digits : Digit.ofNat size with
  | nil => exact absurd digits (Digit.ofNat_ne_nil size)
  | cons first others =>
      simp only
      rw [← digits, Digit.value_ofNat]

private theorem readPower?_text (power : Option Int) {rest : List Char} (ends : Ends rest) :
    readPower? (powerText? power ++ rest) = some (power, rest) := by
  cases power with
  | none =>
      change readPower? rest = some (none, rest)
      cases rest with
      | nil => rfl
      | cons char rest =>
          obtain ⟨_, _, small, large⟩ := ends char rfl
          unfold readPower?
          simp only
          rw [if_neg (by simp [small, large])]
  | some power =>
      by_cases below : power < 0
      · have text : powerText? (some power) ++ rest =
            'e' :: '-' :: ((Digit.ofNat power.natAbs).map Digit.toChar ++ rest) := by
          simp [powerText?, powerText, below]
        rw [text]
        unfold readPower?
        simp only [true_or, if_true]
        rw [readPowerDigits?_text _ _ ends.noDigit, if_pos rfl, Int.ofNat_natAbs_of_nonpos below.le,
          neg_neg]
      · have text : powerText? (some power) ++ rest =
            'e' :: '+' :: ((Digit.ofNat power.natAbs).map Digit.toChar ++ rest) := by
          simp [powerText?, powerText, below]
        rw [text]
        unfold readPower?
        simp only [true_or, if_true]
        rw [readPowerDigits?_text _ _ ends.noDigit, if_neg (by simp),
          Int.natAbs_of_nonneg (Int.not_lt.mp below)]

private theorem text_eq (numeral : Numeral) :
    numeral.text = (if numeral.negative then ['-'] else []) ++
      ((Digit.ofNat numeral.whole).map Digit.toChar ++
        (fractionText numeral.fraction ++ powerText? numeral.power)) := by
  unfold text fractionText
  cases numeral.power <;> simp [powerText?]

private theorem head_powerText? (power : Option Int) {rest : List Char} (ends : Ends rest) :
    ∀ char ∈ (powerText? power ++ rest).head?, Digit.ofChar? char = none ∧ char ≠ '.' := by
  intro char first
  cases power with
  | none => exact ⟨(ends char first).1, (ends char first).2.1⟩
  | some power =>
      have mark : 'e' = char := Option.some.inj first
      subst mark
      decide

private theorem noDigit_fractionText (fraction : List Digit) {rest : List Char}
    (noDigit : Digit.Ends rest) : Digit.Ends (fractionText fraction ++ rest) := by
  cases fraction with
  | nil => exact noDigit
  | cons digit digits =>
      intro char first
      have point : '.' = char := Option.some.inj first
      subst point
      decide

private theorem readUnsigned?_text (numeral : Numeral) {rest : List Char} (ends : Ends rest) :
    readUnsigned? numeral.negative ((Digit.ofNat numeral.whole).map Digit.toChar ++
        (fractionText numeral.fraction ++ (powerText? numeral.power ++ rest))) =
      some (numeral, rest) := by
  have head := head_powerText? numeral.power ends
  have noDigit : Digit.Ends (powerText? numeral.power ++ rest) := fun char first =>
    (head char first).1
  unfold readUnsigned?
  rw [readWhole?_text _ (noDigit_fractionText _ noDigit)]
  simp only [bind, Option.bind]
  rw [readFraction?_text _ noDigit fun char first => (head char first).2]
  simp only
  rw [readPower?_text _ ends]
  rfl

private theorem toChar_ne_minus (digit : Digit) : digit.toChar ≠ '-' := by
  revert digit
  decide

/-- The text of a numeral is read as that numeral. -/
theorem read?_text (numeral : Numeral) {rest : List Char} (ends : Ends rest) :
    read? (numeral.text ++ rest) = some (numeral, rest) := by
  have unsigned := readUnsigned?_text numeral ends
  rw [text_eq]
  simp only [List.append_assoc]
  generalize fractionText numeral.fraction ++ (powerText? numeral.power ++ rest) = after
    at unsigned ⊢
  cases sign : numeral.negative with
  | true =>
      rw [sign] at unsigned
      exact unsigned
  | false =>
      rw [sign] at unsigned
      rw [if_neg (by simp), List.nil_append]
      cases digits : Digit.ofNat numeral.whole with
      | nil => exact absurd digits (Digit.ofNat_ne_nil _)
      | cons first others =>
          rw [digits] at unsigned
          rw [← unsigned]
          unfold read?
          split
          · rename_i same
            exact absurd (List.cons.inj same).1 (toChar_ne_minus first)
          · rfl

/-- The characters that a numeral may start with. -/
def starts : List Char := ['-', '0', '1', '2', '3', '4', '5', '6', '7', '8', '9']

theorem exists_head (numeral : Numeral) :
    ∃ first rest, numeral.text = first :: rest ∧ first ∈ starts := by
  have digitMark : ∀ digit, Digit.toChar digit ∈ starts := by decide
  rw [text_eq]
  cases numeral.negative with
  | true => exact ⟨_, _, rfl, by decide⟩
  | false =>
      cases digits : Digit.ofNat numeral.whole with
      | nil => exact absurd digits (Digit.ofNat_ne_nil _)
      | cons first others => exact ⟨_, _, rfl, digitMark first⟩

end Numeral

end VariablePay
