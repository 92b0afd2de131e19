import VariablePay.Metrics.Aggregation
import VariablePay.Proofs.Decimal.Whole
import VariablePay.Proofs.Double.Order

set_option autoImplicit false

/-!
# What location keys tell apart

The key of a location is the text of a number, and a number within the range of 64-bit integers is
read back from it, so that different numbers have different keys there. All numbers from the upper
end of the range on have one key, and so have all numbers from the lower end down.
-/

open Float.Model

namespace VariablePay

/-- The upper end of the range of 64-bit integers, itself beyond it; its negative is the lower
end. -/
def keyBound : Float := 9223372036854775808.0

/-- Whether a text is a numeral of a double. -/
def Spells (text : String) (number : Float) : Prop :=
  ∃ numeral : Numeral, text.toList = numeral.text ∧ numeral.toFloat? = some number

theorem Spells.unique {text : String} {left right : Float} (first : Spells text left)
    (second : Spells text right) : left = right := by
  obtain ⟨numeral, text_eq, read⟩ := first
  obtain ⟨other, other_eq, otherRead⟩ := second
  have same : numeral = other := Numeral.text_injective (text_eq.symm.trans other_eq)
  rw [same, otherRead] at read
  exact (Option.some.inj read).symm

theorem Spells.isFinite {text : String} {number : Float} (spells : Spells text number) :
    number.isFinite = true := by
  obtain ⟨_, _, read⟩ := spells
  exact Numeral.isFinite_of_toFloat? read

theorem spells_toString {number : Int} {value : Float}
    (read : (Numeral.ofInt number).toFloat? = some value) : Spells (toString number) value :=
  ⟨_, Numeral.text_ofInt number, read⟩

theorem spells_messageText {value : Float} (finite : value.isFinite = true) :
    Spells (messageText value) value := by
  refine ⟨_, ?_, Layout.message.toFloat?_ofFloat finite⟩
  rw [messageText, if_pos finite, String.toList_ofList]

/-- The number that the key of a number spells: it has no sign of zero, and lies between the ends
of the range. -/
def keyNumber (value : Float) : Float :=
  if value == 0.0 then 0.0
  else if keyBound ≤ value then keyBound
  else if value ≤ -keyBound then -keyBound
  else value

private theorem place_keyBound :
    Double.place keyBound = toLex (1, toLex (11, 4503599627370496)) := rfl

private theorem place_neg_keyBound :
    Double.place (-keyBound) = toLex (-1, toLex (-11, -4503599627370496)) := rfl

section Unpacked

variable {value : Float} {sign : UnpackedFloat.Sign} {mantissa : Nat} {exponent : Int}
  {positive : 0 < mantissa}
  (unpacked : value.toModel.unpack = .finite sign mantissa exponent positive)

include unpacked

private theorem beq_zero : (value == 0.0) = false := by
  change value.toModel.unpack.beq (.zero .positive) = false
  rw [unpacked]
  cases sign <;> rfl

private theorem isNaN_eq : value.isNaN = false := by
  change value.toModel.unpack.isNaN = false
  rw [unpacked]
  rfl

theorem keyBound_le_iff : keyBound ≤ value ↔ sign = .positive ∧ 11 ≤ exponent := by
  obtain ⟨⟨_, _, full⟩, _⟩ := Double.isForm_of_unpack unpacked
  have number : keyBound.isNaN = false := rfl
  rw [Double.le_iff, place_keyBound, Double.place, unpacked]
  simp only [number, isNaN_eq unpacked, true_and]
  cases sign with
  | positive =>
      simp only [Double.placeOf, Prod.Lex.toLex_le_toLex, lt_self_iff_false, false_or, true_and]
      omega
  | negative =>
      simp only [Double.placeOf, Prod.Lex.toLex_le_toLex]
      exact iff_of_false (by omega) (by simp)

theorem le_neg_keyBound_iff : value ≤ -keyBound ↔ sign = .negative ∧ 11 ≤ exponent := by
  obtain ⟨⟨_, _, full⟩, _⟩ := Double.isForm_of_unpack unpacked
  have number : (-keyBound).isNaN = false := rfl
  rw [Double.le_iff, place_neg_keyBound, Double.place, unpacked]
  simp only [number, isNaN_eq unpacked, true_and]
  cases sign with
  | positive =>
      simp only [Double.placeOf, Prod.Lex.toLex_le_toLex]
      exact iff_of_false (by omega) (by simp)
  | negative =>
      simp only [Double.placeOf, Prod.Lex.toLex_le_toLex, lt_self_iff_false, false_or, true_and]
      omega

theorem keyNumber_of_near (near : exponent < 11) : keyNumber value = value := by
  unfold keyNumber
  rw [beq_zero unpacked, if_neg Bool.false_ne_true,
    if_neg fun above => near.not_ge ((keyBound_le_iff unpacked).mp above).2,
    if_neg fun below => near.not_ge ((le_neg_keyBound_iff unpacked).mp below).2]

theorem keyNumber_of_far (far : 11 ≤ exponent) :
    keyNumber value = if Dyadic.signOf value then -keyBound else keyBound := by
  unfold keyNumber
  rw [beq_zero unpacked, if_neg Bool.false_ne_true]
  obtain ⟨signed, rfl⟩ | ⟨unsigned, rfl⟩ := Double.signOf_cases unpacked
  · rw [if_neg (by rw [keyBound_le_iff unpacked]; simp),
      if_pos ((le_neg_keyBound_iff unpacked).mpr ⟨rfl, far⟩), if_pos signed]
  · rw [if_pos ((keyBound_le_iff unpacked).mpr ⟨rfl, far⟩), unsigned, if_neg Bool.false_ne_true]

theorem locationKeyText_of_far (finite : value.isFinite = true) (far : 11 ≤ exponent) :
    locationKeyText value = locationKeyText (keyNumber value) := by
  obtain ⟨form, _⟩ := Double.isForm_of_unpack unpacked
  obtain ⟨size, whole, wide⟩ := Dyadic.whole?_of_le form far
  rw [keyNumber_of_far unpacked far, locationKeyText, if_pos finite, Dyadic.ofFloat_eq unpacked,
    whole]
  simp only [Nat.pow_eq, Nat.min_eq_right wide, Nat.min_eq_right ((Nat.sub_le _ _).trans wide)]
  cases Dyadic.signOf value <;> decide

theorem spells_of_near (finite : value.isFinite = true) (near : exponent < 11) :
    Spells (locationKeyText value) value := by
  obtain ⟨form, _⟩ := Double.isForm_of_unpack unpacked
  rw [locationKeyText, if_pos finite, Dyadic.ofFloat_eq unpacked]
  cases whole : Dyadic.whole? ⟨mantissa, exponent⟩ with
  | none => exact spells_messageText finite
  | some size =>
      have narrow := Dyadic.lt_of_whole? form near whole
      have read := Dyadic.toFloat_of_whole? unpacked whole
      have some : 0 < size := Dyadic.pos_of_whole? positive whole
      simp only [Nat.pow_eq, Nat.min_eq_left narrow.le,
        Nat.min_eq_left (Nat.le_sub_one_of_lt narrow)]
      cases sign_eq : Dyadic.signOf value with
      | true =>
          refine spells_toString (Numeral.toFloat?_ofInt ?_ finite ?_)
          · rwa [Int.natAbs_neg, Int.natAbs_natCast]
          · rw [sign_eq]
            simp [some]
      | false =>
          change Spells (toString (size : Int)) value
          refine spells_toString (Numeral.toFloat?_ofInt ?_ finite ?_)
          · rwa [Int.natAbs_natCast]
          · rw [sign_eq]
            simp

end Unpacked

private theorem locationKeyText_zero (sign : UnpackedFloat.Sign) :
    locationKeyText (.ofModel (.pack (.zero sign))) = "0" := by
  cases sign <;> decide +kernel

private theorem keyNumber_zero (sign : UnpackedFloat.Sign) :
    keyNumber (.ofModel (.pack (.zero sign))) = 0.0 := by
  cases sign <;> decide

private theorem spells_end (signed : Bool) :
    Spells (locationKeyText (if signed then -keyBound else keyBound))
      (if signed then -keyBound else keyBound) := by
  cases signed with
  | true => exact ⟨.ofInt (-9223372036854775808), by decide +kernel, by decide +kernel⟩
  | false => exact ⟨.ofInt 9223372036854775807, by decide +kernel, by decide +kernel⟩

/-- The number that a key spells has that same key. -/
theorem spells_keyNumber {value : Float} (finite : value.isFinite = true) :
    locationKeyText value = locationKeyText (keyNumber value) ∧
      Spells (locationKeyText value) (keyNumber value) := by
  have finite_eq : value.toModel.unpack.isFinite = true := finite
  cases unpacked : value.toModel.unpack with
  | notANumber => simp [unpacked, UnpackedFloat.isFinite] at finite_eq
  | infinity => simp [unpacked, UnpackedFloat.isFinite] at finite_eq
  | zero sign =>
      rw [← Double.ofModel_pack_unpack value, unpacked, locationKeyText_zero, keyNumber_zero]
      exact ⟨by decide +kernel, .ofInt 0, by decide +kernel, by decide +kernel⟩
  | finite sign mantissa exponent positive =>
      rcases lt_or_ge exponent 11 with near | far
      · rw [keyNumber_of_near unpacked near]
        exact ⟨rfl, spells_of_near unpacked finite near⟩
      · have same := locationKeyText_of_far unpacked finite far
        refine ⟨same, ?_⟩
        rw [same, keyNumber_of_far unpacked far]
        exact spells_end _

theorem locationKeyText_eq_iff {left right : Float} (leftFinite : left.isFinite = true)
    (rightFinite : right.isFinite = true) :
    locationKeyText left = locationKeyText right ↔ keyNumber left = keyNumber right := by
  obtain ⟨leftText, leftSpells⟩ := spells_keyNumber leftFinite
  obtain ⟨rightText, rightSpells⟩ := spells_keyNumber rightFinite
  constructor
  · intro same
    rw [same] at leftSpells
    exact leftSpells.unique rightSpells
  · intro same
    rw [leftText, rightText, same]

/-- The place of the number that a key spells lies between those of the ends of the range. -/
theorem place_keyNumber {value : Float} (finite : value.isFinite = true) :
    Double.place (keyNumber value) =
      max (Double.place (-keyBound)) (min (Double.place value) (Double.place keyBound)) := by
  have number := Double.isNaN_of_isFinite finite
  have low_lt_zero : Double.place (-keyBound) < Double.place 0.0 := by decide
  have zero_lt_high : Double.place 0.0 < Double.place keyBound := by decide
  unfold keyNumber
  split_ifs with zero above below
  · obtain ⟨_, _, place_eq⟩ := (Double.beq_iff _ _).mp zero
    rw [place_eq, min_eq_left zero_lt_high.le, max_eq_right low_lt_zero.le]
  · obtain ⟨_, _, above⟩ := (Double.le_iff _ _).mp above
    rw [min_eq_right above, max_eq_right (low_lt_zero.trans zero_lt_high).le]
  · obtain ⟨_, _, below⟩ := (Double.le_iff _ _).mp below
    rw [min_eq_left (below.trans (low_lt_zero.trans zero_lt_high).le), max_eq_left below]
  · obtain ⟨_, _, above⟩ := (Double.lt_iff _ _).mp ((Double.not_le_iff rfl number).mp above)
    obtain ⟨_, _, below⟩ := (Double.lt_iff _ _).mp ((Double.not_le_iff number rfl).mp below)
    rw [min_eq_left above.le, max_eq_right below.le]

theorem sign_of_keyNumber {value : Float} {sign : UnpackedFloat.Sign}
    (isZero : (keyNumber value).toModel.unpack = .zero sign) : sign = .positive := by
  cases sign with
  | positive => rfl
  | negative =>
      unfold keyNumber at isZero
      split_ifs at isZero with same
      · nomatch isZero
      · nomatch isZero
      · nomatch isZero
      · refine absurd ?_ same
        change value.toModel.unpack.beq (.zero .positive) = true
        rw [isZero]
        rfl

private theorem clamped_eq_iff {α : Type} [LinearOrder α] {low high left right : α}
    (ordered : low < high) :
    max low (min left high) = max low (min right high) ↔
      left = right ∨ high ≤ left ∧ high ≤ right ∨ left ≤ low ∧ right ≤ low := by
  grind

theorem keyNumber_eq_iff {left right : Float} (leftFinite : left.isFinite = true)
    (rightFinite : right.isFinite = true) :
    keyNumber left = keyNumber right ↔
      (left == right) = true ∨ keyBound ≤ left ∧ keyBound ≤ right ∨
        left ≤ -keyBound ∧ right ≤ -keyBound := by
  have leftNumber := Double.isNaN_of_isFinite leftFinite
  have rightNumber := Double.isNaN_of_isFinite rightFinite
  have highNumber : keyBound.isNaN = false := rfl
  have lowNumber : (-keyBound).isNaN = false := rfl
  have placed : keyNumber left = keyNumber right ↔
      Double.place (keyNumber left) = Double.place (keyNumber right) := by
    refine ⟨congrArg Double.place, fun same => ?_⟩
    rw [← Double.ofModel_pack_unpack (keyNumber left),
      ← Double.ofModel_pack_unpack (keyNumber right)]
    obtain same | ⟨leftSign, rightSign, leftZero, rightZero⟩ := Double.eq_of_placeOf_eq
      (Double.isNaN_of_isFinite (spells_keyNumber leftFinite).2.isFinite)
      (Double.isNaN_of_isFinite (spells_keyNumber rightFinite).2.isFinite) same
    · rw [same]
    · rw [leftZero, rightZero, sign_of_keyNumber leftZero, sign_of_keyNumber rightZero]
  rw [placed, place_keyNumber leftFinite, place_keyNumber rightFinite,
    clamped_eq_iff (by decide), Double.beq_iff, Double.le_iff, Double.le_iff, Double.le_iff,
    Double.le_iff]
  simp only [leftNumber, rightNumber, highNumber, lowNumber, true_and]

/-- The first value that rows have for a field. -/
def firstValue? (field : String) (rows : List MetricRow) : Option Float :=
  rows.findSome? fun row => row.values.get? field

theorem locationKey?_eq {config : AggregationConfig} {field : String}
    (named : config.locationKeyField = some field) {rows : List MetricRow} {value : Float}
    (first : firstValue? field rows = some value) (more : List MetricRow) :
    locationKey? config (rows ++ more) = some (locationKeyText value) := by
  unfold firstValue? at first
  rw [locationKey?, named, Option.bind_some, List.findSome?_append, first]
  rfl

/-- Rows have the key of their first value, whatever rows follow. Two numbers give one key just when
they are equal, or both lie beyond the same end of the range of 64-bit integers. -/
theorem locationKey?_eq_iff {config : AggregationConfig} {field : String}
    (named : config.locationKeyField = some field) {left right : List MetricRow}
    {leftValue rightValue : Float} (leftFirst : firstValue? field left = some leftValue)
    (rightFirst : firstValue? field right = some rightValue)
    (leftFinite : leftValue.isFinite = true) (rightFinite : rightValue.isFinite = true) :
    (∃ key, ∀ more, locationKey? config (left ++ more) = some key) ∧
      (locationKey? config left = locationKey? config right ↔
        (leftValue == rightValue) = true ∨ keyBound ≤ leftValue ∧ keyBound ≤ rightValue ∨
          leftValue ≤ -keyBound ∧ rightValue ≤ -keyBound) := by
  refine ⟨⟨_, locationKey?_eq named leftFirst⟩, ?_⟩
  have leftKey := locationKey?_eq named leftFirst []
  have rightKey := locationKey?_eq named rightFirst []
  rw [List.append_nil] at leftKey rightKey
  rw [leftKey, rightKey, Option.some_inj, locationKeyText_eq_iff leftFinite rightFinite,
    keyNumber_eq_iff leftFinite rightFinite]

/-- The rows of an entity that names its store by a number. -/
def storeRows (store : Float) : List MetricRow :=
  [⟨.entity, "entity", "staff", .ofList [("store", store)]⟩]

/-- The greatest number below the end of the range has a key of its own. -/
theorem storeRows_keys_differ :
    let config : AggregationConfig := ⟨[], some "store"⟩
    let last : Float := 9223372036854774784.0
    firstValue? "store" (storeRows last) = some last ∧
      firstValue? "store" (storeRows keyBound) = some keyBound ∧
      last.isFinite = true ∧ keyBound.isFinite = true ∧
      locationKey? config (storeRows last) ≠ locationKey? config (storeRows keyBound) := by
  intro config last
  have named : config.locationKeyField = some "store" := rfl
  have first : firstValue? "store" (storeRows last) = some last := by decide
  have second : firstValue? "store" (storeRows keyBound) = some keyBound := by decide
  have firstFinite : last.isFinite = true := by decide
  have secondFinite : keyBound.isFinite = true := by decide
  have distinct := (locationKey?_eq_iff named first second firstFinite secondFinite).2
  refine ⟨first, second, firstFinite, secondFinite, fun same => ?_⟩
  exact absurd (distinct.mp same) (by decide)

/-- Different numbers beyond the end of the range share a key. -/
theorem storeRows_keys_collide :
    let config : AggregationConfig := ⟨[], some "store"⟩
    let left : Float := 10000000000000000000.0
    let right : Float := 20000000000000000000.0
    firstValue? "store" (storeRows left) = some left ∧
      firstValue? "store" (storeRows right) = some right ∧
      left.isFinite = true ∧ right.isFinite = true ∧ (left == right) = false ∧
      locationKey? config (storeRows left) = some "9223372036854775807" ∧
      locationKey? config (storeRows right) = some "9223372036854775807" := by
  refine ⟨?_, ?_, ?_, ?_, ?_, ?_, ?_⟩ <;> decide

end VariablePay
