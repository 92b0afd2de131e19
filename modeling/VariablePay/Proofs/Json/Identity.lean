import VariablePay.Proofs.Json.Canonical

set_option autoImplicit false

/-!
# Values told apart by their canonical trees

Two values agree under a condition if they are written alike, once their trees are canonical, just
under it. A list, a map or a record agrees under the condition that its parts do, item by item and
member by member.
-/

namespace VariablePay

namespace Codec

variable {α β : Type}

/-- Whether two values are written as legible trees, and have one canonical tree just under a
condition. -/
structure AgreesWhen (codec : Codec α) (left right : α) (condition : Prop) : Prop where
  legible : codec.IsLegible
  iff : (codec.encode left).canonical = (codec.encode right).canonical ↔ condition

theorem string_agreesWhen (left right : String) :
    Codec.string.AgreesWhen left right (left = right) :=
  ⟨isLegible_string, Json.ofString_inj⟩

theorem float_agreesWhen {left right : Float} (leftFinite : left.isFinite = true)
    (rightFinite : right.isFinite = true) :
    (Codec.float .number).AgreesWhen left right
      (Double.foldZero left = Double.foldZero right) where
  legible := isLegible_float
  iff := by
    rw [encode_float leftFinite, encode_float rightFinite]
    constructor
    · intro same
      obtain ⟨numeral, written, read⟩ := Json.exists_canonical_ofFloat leftFinite
      obtain ⟨other, otherWritten, otherRead⟩ := Json.exists_canonical_ofFloat rightFinite
      rw [written, otherWritten, Json.number.injEq] at same
      rw [same, otherRead] at read
      exact (Option.some.inj read).symm
    · intro same
      rw [← Json.canonical_ofFloat_foldZero left, same, Json.canonical_ofFloat_foldZero]

private theorem map_eq_map_iff {γ : Type} {first : α → β} {second : α → γ} {left right : List α}
    (each : ∀ a ∈ left, ∀ b ∈ right, (first a = first b ↔ second a = second b)) :
    left.map first = right.map first ↔ left.map second = right.map second := by
  induction left generalizing right with
  | nil => cases right <;> simp
  | cons a left ih =>
      cases right with
      | nil => simp
      | cons b right =>
          have rest := @ih right fun a inLeft b inRight =>
            each a (.tail _ inLeft) b (.tail _ inRight)
          rw [List.map_cons, List.map_cons, List.map_cons, List.map_cons, List.cons.injEq,
            List.cons.injEq, each a (.head _) b (.head _), rest]

theorem AgreesWhen.list {codec : Codec α} {fold : α → β} {left right : List α}
    (legible : codec.IsLegible)
    (each : ∀ a ∈ left, ∀ b ∈ right, codec.AgreesWhen a b (fold a = fold b)) :
    codec.list.AgreesWhen left right (left.map fold = right.map fold) where
  legible := isLegible_list legible
  iff := by
    change (Json.array _).canonical = (Json.array _).canonical ↔ _
    rw [Json.canonical, Json.canonical, Json.array.injEq, Json.canonicalItems_eq_map,
      Json.canonicalItems_eq_map, List.map_map, List.map_map]
    exact map_eq_map_iff fun a inLeft b inRight => (each a inLeft b inRight).iff

theorem AgreesWhen.stringMap {codec : Codec α} {fold : α → β} {left right : StringMap α}
    (legible : codec.IsLegible)
    (each : ∀ a ∈ left.entries, ∀ b ∈ right.entries,
      codec.AgreesWhen a.2 b.2 (fold a.2 = fold b.2)) :
    codec.stringMap.AgreesWhen left right (left.mapValues fold = right.mapValues fold) where
  legible := isLegible_stringMap legible
  iff := by
    change (Json.object _).canonical = (Json.object _).canonical ↔ _
    rw [Json.canonical, Json.canonical, Json.object.injEq,
      Json.canonicalMembers_of_sorted codec.encode left.sorted,
      Json.canonicalMembers_of_sorted codec.encode right.sorted, StringMap.mapValues,
      StringMap.mapValues, StringMap.mk.injEq]
    refine map_eq_map_iff fun a inLeft b inRight => ?_
    rw [Json.member_inj, Prod.mk.injEq, (each a inLeft b inRight).iff]

theorem AgreesWhen.nullable {codec : Codec α} {fold : α → β} {left right : Option α}
    (legible : codec.IsLegible)
    (leftGiven : ∀ a ∈ left, codec.encode a ≠ .null)
    (rightGiven : ∀ b ∈ right, codec.encode b ≠ .null)
    (each : ∀ a ∈ left, ∀ b ∈ right, codec.AgreesWhen a b (fold a = fold b)) :
    codec.nullable.AgreesWhen left right (left.map fold = right.map fold) where
  legible := isLegible_nullable legible
  iff := by
    cases left with
    | none =>
        cases right with
        | none => exact iff_of_true rfl rfl
        | some b =>
            refine iff_of_false (fun same => rightGiven b rfl ?_) nofun
            exact Json.canonical_eq_null_iff.mp same.symm
    | some a =>
        cases right with
        | none =>
            refine iff_of_false (fun same => leftGiven a rfl ?_) nofun
            exact Json.canonical_eq_null_iff.mp same
        | some b =>
            rw [Option.map_some, Option.map_some, Option.some.injEq]
            exact (each a rfl b rfl).iff

theorem nullable_string_agreesWhen (left right : Option String) :
    Codec.string.nullable.AgreesWhen left right (left = right) := by
  have agrees : Codec.string.nullable.AgreesWhen left right (left.map id = right.map id) :=
    .nullable isLegible_string (fun _ _ => Json.noConfusion) (fun _ _ => Json.noConfusion)
      fun a _ b _ => string_agreesWhen a b
  rwa [Option.map_id, id, id] at agrees

/-- A double that may be absent counts as absent unless it is finite. -/
theorem nullable_float_agreesWhen (left right : Option Float) :
    (Codec.float .number).nullable.AgreesWhen left right
      ((left.filter Float.isFinite).map Double.foldZero =
        (right.filter Float.isFinite).map Double.foldZero) := by
  have encode_filter (value? : Option Float) :
      (Codec.float .number).nullable.encode value? =
        (Codec.float .number).nullable.encode (value?.filter Float.isFinite) := by
    cases value? with
    | none => rfl
    | some value =>
        by_cases finite : value.isFinite = true
        · rw [Option.filter_some, if_pos finite]
        · rw [Option.filter_some, if_neg finite]
          exact encode_float_eq_null finite
  have finite {value? : Option Float} :
      ∀ value ∈ value?.filter Float.isFinite, value.isFinite = true := fun value member =>
    (Option.filter_eq_some_iff.mp member).2
  have agrees := AgreesWhen.nullable isLegible_float
    (fun a inLeft => encode_float_ne_null (@finite left a inLeft))
    (fun b inRight => encode_float_ne_null (@finite right b inRight))
    fun a inLeft b inRight => float_agreesWhen (finite a inLeft) (finite b inRight)
  refine ⟨agrees.legible, ?_⟩
  rw [encode_filter left, encode_filter right]
  exact agrees.iff

end Codec

namespace Fields

variable {ρ α β : Type}

theorem IsLegible.areSaid {fields : Fields ρ α} (legible : fields.IsLegible) (record : ρ) :
    Json.AreSaid fields.names (fields.write record) :=
  ⟨legible.length_write record, legible.isSaid record⟩

/-- Whether two records say the same about each of their members, in canonical values, just under a
condition. -/
structure AgreesWhen (fields : Fields ρ α) (left right : ρ) (condition : Prop) : Prop where
  legible : fields.IsLegible
  iff : (fields.write left).map Json.Slot.canonical =
    (fields.write right).map Json.Slot.canonical ↔ condition

namespace AgreesWhen

variable {left right : ρ} {condition : Prop}

theorem congr {fields : Fields ρ α} {other : Prop} (agrees : fields.AgreesWhen left right condition)
    (same : condition ↔ other) : fields.AgreesWhen left right other :=
  ⟨agrees.legible, agrees.iff.trans same⟩

theorem seq {function : Fields ρ (α → β)} {argument : Fields ρ α} {other : Prop}
    (first : function.AgreesWhen left right condition)
    (second : argument.AgreesWhen left right other) :
    (function <*> argument).AgreesWhen left right (condition ∧ other) where
  legible := first.legible.seq second.legible
  iff := by
    change (function.write left ++ argument.write left).map _ =
      (function.write right ++ argument.write right).map _ ↔ _
    rw [List.map_append, List.map_append, List.append_eq_append_iff_of_size_eq_left, first.iff,
      second.iff]
    rw [List.length_map, List.length_map, first.legible.length_write, first.legible.length_write]

theorem map {argument : Fields ρ α} (apply : α → β)
    (agrees : argument.AgreesWhen left right condition) :
    (apply <$> argument).AgreesWhen left right condition :=
  ⟨agrees.legible.map apply, agrees.iff⟩

theorem required {codec : Codec α} (name : String) (get : ρ → α)
    (agrees : codec.AgreesWhen (get left) (get right) condition) :
    (Fields.required name codec get).AgreesWhen left right condition where
  legible := .required name get agrees.legible
  iff := by
    change [Json.Slot.given _] = [Json.Slot.given _] ↔ _
    rw [List.singleton_inj, Json.Slot.given.injEq, agrees.iff]

theorem defaulted {codec : Codec α} (name : String) (default : α) (get : ρ → α)
    (agrees : codec.AgreesWhen (get left) (get right) condition) :
    (Fields.defaulted name codec default get).AgreesWhen left right condition where
  legible := .defaulted name default get agrees.legible
  iff := by
    change [Json.Slot.given _] = [Json.Slot.given _] ↔ _
    rw [List.singleton_inj, Json.Slot.given.injEq, agrees.iff]

theorem sparse {codec : Codec α} (name : String) (get : ρ → Option α) (left right : ρ)
    (legible : codec.IsLegible)
    (each : ∀ a ∈ get left, ∀ b ∈ get right, codec.AgreesWhen a b (a = b)) :
    (Fields.sparse name codec get).AgreesWhen left right (get left = get right) where
  legible := .sparse name get legible
  iff := by
    unfold Fields.sparse single
    simp only [List.map_cons, List.map_nil, List.singleton_inj]
    cases leftGiven : get left with
    | none =>
        cases rightGiven : get right with
        | none => exact iff_of_true rfl rfl
        | some b => exact iff_of_false nofun nofun
    | some a =>
        cases rightGiven : get right with
        | none => exact iff_of_false nofun nofun
        | some b =>
            rw [Option.some.injEq, ← (each a leftGiven b rightGiven).iff]
            exact iff_of_eq (Json.Slot.given.injEq _ _)

end AgreesWhen

theorem codec_agreesWhen {fields : Fields ρ ρ} {left right : ρ} {condition : Prop}
    (distinct : fields.names.Nodup) (agrees : fields.AgreesWhen left right condition) :
    fields.codec.AgreesWhen left right condition where
  legible := isLegible_codec agrees.legible
  iff := ((agrees.legible.areSaid left).canonical_object_eq_iff (agrees.legible.areSaid right)
    distinct).trans agrees.iff

/-- Records that stand behind the same tag agree just when they would without it. -/
theorem canonical_tagged_eq_iff {fields : Fields ρ ρ} {left right : ρ} {condition : Prop}
    {name : String} {tag : Json} (tagLegible : tag.Legible)
    (distinct : (name :: fields.names).Nodup)
    (agrees : fields.AgreesWhen left right condition) :
    (Json.object (Json.member name tag :: fields.members left)).canonical =
        (Json.object (Json.member name tag :: fields.members right)).canonical ↔ condition := by
  have said (record : ρ) := (agrees.legible.areSaid record).cons tagLegible name
  rw [← agrees.iff]
  refine ((said left).canonical_object_eq_iff (said right) distinct).trans ?_
  rw [List.map_cons, List.map_cons, List.cons.injEq, and_iff_right rfl]

end Fields

end VariablePay
