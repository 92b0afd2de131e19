import VariablePay.Json.Codec
import VariablePay.Proofs.Decimal.Scaled
import VariablePay.Proofs.Json.Text
import VariablePay.Proofs.StringMap

set_option autoImplicit false

/-!
# Values read back from their trees

What a codec writes is always legible. What is read back from it is said value by value, since
numbers that are not finite, and counts beyond 64 bits, are written but not read, and a finite
number may be read as another one.
-/

namespace VariablePay

/-- What a finite double is read as from the number that is written for it. -/
def Double.reread (value : Float) : Float :=
  (FloatForm.number.read? (FloatForm.number.write value)).getD value

theorem FloatForm.write_number {value : Float} (finite : value.isFinite = true) :
    FloatForm.number.write value = .number (Layout.json.ofFloat value) := if_pos finite

theorem Double.read?_write {value : Float} (finite : value.isFinite = true) :
    FloatForm.number.read? (FloatForm.number.write value) = some (reread value) := by
  obtain ⟨back, read⟩ := Option.isSome_iff_exists.mp (Layout.isSome_scaled?_ofFloat finite)
  unfold reread
  rw [FloatForm.write_number finite]
  change (Layout.json.ofFloat value).scaled? = some ((Layout.json.ofFloat value).scaled?.getD value)
  rw [read, Option.getD_some]

/-- A double whose digits make up a number of 53 bits, so any of at most fifteen digits, is read as
itself if the point is not too far from them. -/
theorem Double.reread_eq_self {value : Float} (finite : value.isFinite = true)
    (fits : (Layout.json.ofFloat value).magnitude.coefficient < 2 ^ 53)
    (near : (Layout.json.ofFloat value).magnitude.exponent.natAbs ≤ 22) :
    reread value = value := by
  have read := read?_write finite
  rw [FloatForm.write_number finite] at read
  change (Layout.json.ofFloat value).scaled? = some (reread value) at read
  rw [Numeral.scaled?_eq_toFloat? fits near, Layout.toFloat?_ofFloat .json finite] at read
  exact (Option.some.inj read).symm

example : Double.reread 12.5 = 12.5 := by decide +kernel

namespace Codec

variable {α : Type}

/-- Whether all values are written so that their texts can be read. -/
def IsLegible (codec : Codec α) : Prop := ∀ value, (codec.encode value).Legible

/-- Whether reading what is written for one value gives another, at every place where containers
may still be nested to a depth. -/
def ReadsAs (codec : Codec α) (depth : Nat) (value back : α) : Prop :=
  ∀ room, depth ≤ room → codec.decode? room (codec.encode value) = some back

/-- Whether what is written for a value is legible, and read just under a condition. -/
structure ReadsWhen (codec : Codec α) (depth : Nat) (value : α) (condition : Prop) : Prop where
  legible : codec.IsLegible
  reads : condition → ∃ back, codec.ReadsAs depth value back
  fails : ¬condition → ∀ room, codec.decode? room (codec.encode value) = none

/-- The text of a value is read like its tree. -/
theorem read?_write {codec : Codec α} (legible : codec.IsLegible) (value : α) :
    codec.read? (codec.write value) = codec.decode? Json.nestingLimit (codec.encode value) := by
  unfold read? write
  rw [(legible value).parse?_compact]
  rfl

theorem isLegible_string : Codec.string.IsLegible := fun text =>
  .string (Json.Quoted.legible_escape text.toList)

theorem string_readsAs (text : String) : Codec.string.ReadsAs 0 text text := by
  intro room _
  change (Json.Quoted.unescape? (Json.Quoted.escape text.toList)).map String.ofList = some text
  rw [Json.Quoted.unescape?_escape, Option.map_some, String.ofList_toList]

theorem isLegible_bool : Codec.bool.IsLegible := fun value => .bool value

theorem bool_readsAs (value : Bool) : Codec.bool.ReadsAs 0 value value := fun _ _ => rfl

theorem isLegible_natBelow (bound : Nat) : (natBelow bound).IsLegible := fun _ => .number _

theorem natBelow_readsAs {bound number : Nat} (below : number < bound) :
    (natBelow bound).ReadsAs 0 number number := by
  intro room _
  have natural : (Numeral.ofNat number).natural? = some number := rfl
  change (Numeral.ofNat number).natural?.filter (fun value => decide (value < bound)) = some number
  rw [natural, Option.filter_some, if_pos (decide_eq_true below)]

theorem natBelow_readsWhen (bound number : Nat) :
    (natBelow bound).ReadsWhen 0 number (number < bound) where
  legible := isLegible_natBelow bound
  reads below := ⟨number, natBelow_readsAs below⟩
  fails beyond room := by
    have natural : (Numeral.ofNat number).natural? = some number := rfl
    change (Numeral.ofNat number).natural?.filter (fun value => decide (value < bound)) = none
    rw [natural, Option.filter_some, if_neg (by simpa using beyond)]

theorem isLegible_float : (Codec.float .number).IsLegible := by
  intro value
  change (if value.isFinite then Json.number _ else Json.null).Legible
  split
  · exact .number _
  · exact .null

theorem encode_float {value : Float} (finite : value.isFinite = true) :
    (Codec.float .number).encode value = .number (Layout.json.ofFloat value) :=
  FloatForm.write_number finite

theorem encode_float_ne_null {value : Float} (finite : value.isFinite = true) :
    (Codec.float .number).encode value ≠ .null := by
  rw [encode_float finite]
  exact Json.noConfusion

theorem float_readsAs {value : Float} (finite : value.isFinite = true) :
    (Codec.float .number).ReadsAs 0 value (Double.reread value) :=
  fun _ _ => Double.read?_write finite

theorem encode_float_eq_null {value : Float} (infinite : ¬value.isFinite = true) :
    (Codec.float .number).encode value = .null := if_neg infinite

theorem float_readsWhen (value : Float) :
    (Codec.float .number).ReadsWhen 0 value (value.isFinite = true) where
  legible := isLegible_float
  reads finite := ⟨_, float_readsAs finite⟩
  fails infinite room := by
    rw [encode_float_eq_null infinite]
    rfl

theorem isLegible_nullable {codec : Codec α} (legible : codec.IsLegible) :
    codec.nullable.IsLegible := by
  intro value?
  cases value? with
  | none => exact .null
  | some value => exact legible value

theorem nullable_none_readsAs (codec : Codec α) (depth : Nat) :
    codec.nullable.ReadsAs depth none none := fun _ _ => rfl

theorem nullable_readsAs_none {codec : Codec α} {value : α} (null : codec.encode value = .null)
    (depth : Nat) : codec.nullable.ReadsAs depth (some value) none := by
  intro room _
  change codec.nullable.decode? room (codec.encode value) = some none
  rw [null]
  rfl

theorem nullable_readsAs {codec : Codec α} {depth : Nat} {value back : α}
    (reads : codec.ReadsAs depth value back) (given : codec.encode value ≠ .null) :
    codec.nullable.ReadsAs depth (some value) (some back) := by
  intro room enough
  have read := reads room enough
  change codec.nullable.decode? room (codec.encode value) = some (some back)
  unfold nullable
  simp only
  cases tree : codec.encode value with
  | null => exact absurd tree given
  | bool | number | string | array | object =>
      rw [tree] at read
      rw [read]
      rfl

/-- A double that is not finite is read back as none. -/
theorem nullable_float_reads (value? : Option Float) :
    (Codec.float .number).nullable.ReadsAs 0 value?
      ((value?.filter Float.isFinite).map Double.reread) := by
  cases value? with
  | none => exact nullable_none_readsAs _ _
  | some value =>
      by_cases finite : value.isFinite = true
      · rw [Option.filter_some, if_pos finite]
        exact nullable_readsAs (float_readsAs finite) (encode_float_ne_null finite)
      · rw [Option.filter_some, if_neg finite]
        exact nullable_readsAs_none (encode_float_eq_null finite) _

theorem isLegible_list {codec : Codec α} (legible : codec.IsLegible) : codec.list.IsLegible := by
  intro values
  refine .array fun tree included => ?_
  obtain ⟨value, _, rfl⟩ := List.mem_map.mp included
  exact legible value

theorem list_readsAs {codec : Codec α} {depth : Nat} {values : List α} {back : α → α}
    (each : ∀ value ∈ values, codec.ReadsAs depth value (back value)) :
    codec.list.ReadsAs (depth + 1) values (values.map back) := by
  intro room enough
  obtain ⟨room, rfl⟩ := Nat.exists_eq_add_of_le' (show 1 ≤ room by omega)
  change codec.decodeItems? room (values.map codec.encode) = some (values.map back)
  induction values with
  | nil => rfl
  | cons value values ih =>
      rw [List.map_cons, decodeItems?, each value (.head _) room (by omega),
        ih fun other included => each other (.tail _ included)]
      rfl

theorem isLegible_stringMap {codec : Codec α} (legible : codec.IsLegible) :
    codec.stringMap.IsLegible := by
  intro map
  refine .object (fun member included => ?_) fun member included => ?_
  · obtain ⟨entry, _, rfl⟩ := List.mem_map.mp included
    exact Json.Quoted.legible_escape _
  · obtain ⟨entry, _, rfl⟩ := List.mem_map.mp included
    exact legible entry.2

private theorem decodeMembers?_map_member {codec : Codec α} {depth room : Nat}
    (enough : depth ≤ room) {entries : List (String × α)} {back : α → α}
    (each : ∀ entry ∈ entries, codec.ReadsAs depth entry.2 (back entry.2)) :
    codec.decodeMembers? room
        (entries.map fun entry => Json.member entry.1 (codec.encode entry.2)) =
      some (entries.map fun entry => (entry.1, back entry.2)) := by
  induction entries with
  | nil => rfl
  | cons entry rest ih =>
      obtain ⟨first, later⟩ := List.forall_mem_cons.mp each
      rw [List.map_cons, Json.member, decodeMembers?, Json.Quoted.unescape?_escape,
        first room enough, ih later]
      change some ((String.ofList entry.1.toList, back entry.2) :: _) = _
      rw [String.ofList_toList]
      rfl

theorem stringMap_readsAs {codec : Codec α} {depth : Nat} {map : StringMap α} {back : α → α}
    (each : ∀ entry ∈ map.entries, codec.ReadsAs depth entry.2 (back entry.2)) :
    codec.stringMap.ReadsAs (depth + 1) map (map.mapValues back) := by
  intro room enough
  obtain ⟨room, rfl⟩ := Nat.exists_eq_add_of_le' (show 1 ≤ room by omega)
  change (codec.decodeMembers? room (map.entries.map fun entry =>
    Json.member entry.1 (codec.encode entry.2))).map StringMap.ofList = some (map.mapValues back)
  rw [decodeMembers?_map_member (Nat.le_of_succ_le_succ enough) each, Option.map_some]
  exact congrArg some (StringMap.ofList_entries (map.mapValues back))

/-- What a value is read as from its text, if containers may be nested so deep. -/
theorem ReadsAs.read?_write {codec : Codec α} {depth : Nat} {value back : α}
    (reads : codec.ReadsAs depth value back) (legible : codec.IsLegible)
    (shallow : depth ≤ Json.nestingLimit) : codec.read? (codec.write value) = some back := by
  rw [Codec.read?_write legible]
  exact reads _ shallow

/-- The text of a value is read just under the condition, if containers may be nested so deep. -/
theorem ReadsWhen.read?_write {codec : Codec α} {depth : Nat} {value : α} {condition : Prop}
    (splits : codec.ReadsWhen depth value condition) (shallow : depth ≤ Json.nestingLimit) :
    (∃ back, codec.read? (codec.write value) = some back) ↔ condition := by
  rw [Codec.read?_write splits.legible]
  constructor
  · intro ⟨back, read⟩
    by_contra broken
    rw [splits.fails broken] at read
    cases read
  · intro holds
    obtain ⟨back, reads⟩ := splits.reads holds
    exact ⟨back, reads _ shallow⟩

end Codec

end VariablePay
