import VariablePay.Proofs.Digest
import VariablePay.Proofs.Json.Identity
import VariablePay.Proofs.Plan.Coding
import VariablePay.Proofs.Plan.Numeric

set_option autoImplicit false

/-!
# What signatures identify

Validation leaves no number in a configuration that its canonical text could not tell from another,
but for the sign of a zero and for an infinite maximum, which is written like none. So two
configurations have one text just when they are the same but for those, and if their digests do not
collide, one signature.
-/

namespace VariablePay

/-!
## Configurations without a sign at zero and without infinite maxima
-/

/-- The band with zero for negative zeros and no maximum for an infinite one. -/
def Band.folded (band : Band) : Band where
  min := Double.foldZero band.min
  max := (band.max.filter fun max => !max.isInf).map Double.foldZero
  label := band.label

def Tier.folded (tier : Tier) : Tier where
  toBand := tier.toBand.folded
  value := Double.foldZero tier.value

def RateBucket.folded (bucket : RateBucket) : RateBucket where
  toBand := bucket.toBand.folded
  rate := Double.foldZero bucket.rate

def Grid.folded (grid : Grid) : Grid := grid.map (List.map Double.foldZero)

def TierLookup.folded (config : TierLookup) : TierLookup :=
  { config with tiers := config.tiers.map Tier.folded }

def MatrixLookup.folded (config : MatrixLookup) : MatrixLookup :=
  { config with
    rowBands := config.rowBands.map Band.folded
    columnBands := config.columnBands.map Band.folded
    grids := config.grids.mapValues Grid.folded }

def Percentage.folded (config : Percentage) : Percentage :=
  { config with
    rate := Double.foldZero config.rate
    minThreshold := config.minThreshold.map Double.foldZero }

def BucketedRate.folded (config : BucketedRate) : BucketedRate :=
  { config with buckets := config.buckets.map RateBucket.folded }

def FlatPercentage.folded (config : FlatPercentage) : FlatPercentage :=
  { config with rate := Double.foldZero config.rate }

def ComponentConfig.folded : ComponentConfig → ComponentConfig
  | tierLookup config => tierLookup config.folded
  | matrixLookup config => matrixLookup config.folded
  | percentage config => percentage config.folded
  | conditionalPercentage config => conditionalPercentage config.folded
  | percentageWithGate config => percentageWithGate config.folded
  | flatPercentage config => flatPercentage config.folded

theorem ComponentConfig.kind_folded (config : ComponentConfig) :
    config.folded.kind = config.kind := by
  cases config <;> rfl

/-!
## Records that agree
-/

theorem Band.IsNumeric.filter_max {band : Band} (numeric : band.IsNumeric) :
    (band.max.filter fun max => !max.isInf) = band.max.filter Float.isFinite := by
  cases bounded : band.max with
  | none => rfl
  | some max =>
      have number : max.toModel.unpack.isNaN = false := numeric.max_isNaN max bounded
      have same : (!max.isInf) = max.isFinite := by
        change (!max.toModel.unpack.isInf) = max.toModel.unpack.isFinite
        cases unpacked : max.toModel.unpack with
        | notANumber => rw [unpacked] at number; cases number
        | infinity | zero | finite => rfl
      rw [Option.filter_some, Option.filter_some, same]

theorem Band.fieldsOf_agreesWhen {ρ : Type} (get : ρ → Band) {left right : ρ}
    (leftNumeric : (get left).IsNumeric) (rightNumeric : (get right).IsNumeric) :
    (Band.fieldsOf .number get).AgreesWhen left right
      ((get left).folded = (get right).folded) := by
  have min := Fields.AgreesWhen.required "min" (fun record => (get record).min)
    (Codec.float_agreesWhen leftNumeric.min_isFinite rightNumeric.min_isFinite)
  have max := Fields.AgreesWhen.defaulted "max" none (fun record => (get record).max)
    (Codec.nullable_float_agreesWhen (get left).max (get right).max)
  have label := Fields.AgreesWhen.sparse "label" (fun record => (get record).label) left right
    Codec.isLegible_string fun a _ b _ => Codec.string_agreesWhen a b
  refine (((min.map Band.mk).seq max).seq label).congr ?_
  rw [Band.folded, Band.folded, leftNumeric.filter_max, rightNumeric.filter_max, Band.mk.injEq,
    and_assoc]

theorem Band.codec_agreesWhen {left right : Band} (leftNumeric : left.IsNumeric)
    (rightNumeric : right.IsNumeric) :
    (Band.codec .number).AgreesWhen left right (left.folded = right.folded) :=
  Fields.codec_agreesWhen (by decide) (Band.fieldsOf_agreesWhen id leftNumeric rightNumeric)

theorem Tier.codec_agreesWhen {left right : Tier} (leftNumeric : left.IsNumeric)
    (rightNumeric : right.IsNumeric) :
    (Tier.codec .number).AgreesWhen left right (left.folded = right.folded) := by
  have band := Band.fieldsOf_agreesWhen Tier.toBand leftNumeric.band rightNumeric.band
  have value := Fields.AgreesWhen.required "value" Tier.value
    (Codec.float_agreesWhen leftNumeric.value_isFinite rightNumeric.value_isFinite)
  refine Fields.codec_agreesWhen (by decide) (((band.map Tier.mk).seq value).congr ?_)
  rw [Tier.folded, Tier.folded, Tier.mk.injEq]

theorem RateBucket.codec_agreesWhen {left right : RateBucket} (leftNumeric : left.IsNumeric)
    (rightNumeric : right.IsNumeric) :
    (RateBucket.codec .number).AgreesWhen left right (left.folded = right.folded) := by
  have band := Band.fieldsOf_agreesWhen RateBucket.toBand leftNumeric.band rightNumeric.band
  have rate := Fields.AgreesWhen.required "rate" RateBucket.rate
    (Codec.float_agreesWhen leftNumeric.rate_isFinite rightNumeric.rate_isFinite)
  refine Fields.codec_agreesWhen (by decide) (((band.map RateBucket.mk).seq rate).congr ?_)
  rw [RateBucket.folded, RateBucket.folded, RateBucket.mk.injEq]

theorem TierLookup.fields_agreesWhen {left right : TierLookup}
    (leftNumeric : ∀ tier ∈ left.tiers, tier.IsNumeric)
    (rightNumeric : ∀ tier ∈ right.tiers, tier.IsNumeric) :
    (TierLookup.fields .number).AgreesWhen left right (left.folded = right.folded) := by
  have metric := Fields.AgreesWhen.required "metric" TierLookup.metric
    (Codec.string_agreesWhen left.metric right.metric)
  have tiers := Fields.AgreesWhen.required "tiers" TierLookup.tiers
    (Codec.AgreesWhen.list (Tier.faithful 0).legible fun a inLeft b inRight =>
      Tier.codec_agreesWhen (leftNumeric a inLeft) (rightNumeric b inRight))
  refine ((metric.map TierLookup.mk).seq tiers).congr ?_
  rw [TierLookup.folded, TierLookup.folded, TierLookup.mk.injEq]

theorem Grid.codec_agreesWhen {left right : Grid} (leftFinite : left.IsFinite)
    (rightFinite : right.IsFinite) :
    (Codec.float .number).list.list.AgreesWhen left right (left.folded = right.folded) :=
  .list (Codec.isLegible_list Codec.isLegible_float) fun a inLeft b inRight =>
    .list Codec.isLegible_float fun leftCell inRow rightCell inOther =>
      Codec.float_agreesWhen (leftFinite a inLeft leftCell inRow)
        (rightFinite b inRight rightCell inOther)

theorem Grid.mapCodec_agreesWhen {left right : StringMap Grid}
    (leftFinite : ∀ entry ∈ left.entries, Grid.IsFinite entry.2)
    (rightFinite : ∀ entry ∈ right.entries, Grid.IsFinite entry.2) :
    (Grid.mapCodec .number).AgreesWhen left right
      (left.mapValues Grid.folded = right.mapValues Grid.folded) :=
  .stringMap (Codec.isLegible_list (Codec.isLegible_list Codec.isLegible_float))
    fun a inLeft b inRight => Grid.codec_agreesWhen (leftFinite a inLeft) (rightFinite b inRight)

theorem MatrixLookup.fields_agreesWhen {left right : MatrixLookup}
    (leftNumeric : (ComponentConfig.matrixLookup left).IsNumeric)
    (rightNumeric : (ComponentConfig.matrixLookup right).IsNumeric) :
    (MatrixLookup.fields .number).AgreesWhen left right (left.folded = right.folded) := by
  obtain ⟨leftRows, leftColumns, leftCells⟩ := leftNumeric
  obtain ⟨rightRows, rightColumns, rightCells⟩ := rightNumeric
  have rowMetric := Fields.AgreesWhen.required "row_metric" MatrixLookup.rowMetric
    (Codec.string_agreesWhen left.rowMetric right.rowMetric)
  have columnMetric := Fields.AgreesWhen.required "column_metric" MatrixLookup.columnMetric
    (Codec.string_agreesWhen left.columnMetric right.columnMetric)
  have rowBands := Fields.AgreesWhen.required "row_bands" MatrixLookup.rowBands
    (.list (Band.faithful 0).legible fun a inLeft b inRight =>
      Band.codec_agreesWhen (leftRows a inLeft) (rightRows b inRight))
  have columnBands := Fields.AgreesWhen.required "column_bands" MatrixLookup.columnBands
    (.list (Band.faithful 0).legible fun a inLeft b inRight =>
      Band.codec_agreesWhen (leftColumns a inLeft) (rightColumns b inRight))
  have grids := Fields.AgreesWhen.required "grids" MatrixLookup.grids
    (Grid.mapCodec_agreesWhen leftCells rightCells)
  have gridAttribute := Fields.AgreesWhen.defaulted "grid_attribute" none MatrixLookup.gridAttribute
    (Codec.nullable_string_agreesWhen left.gridAttribute right.gridAttribute)
  have defaultGrid := Fields.AgreesWhen.defaulted "default_grid" none MatrixLookup.defaultGrid
    (Codec.nullable_string_agreesWhen left.defaultGrid right.defaultGrid)
  refine (((((((rowMetric.map MatrixLookup.mk).seq columnMetric).seq rowBands).seq
    columnBands).seq grids).seq gridAttribute).seq defaultGrid).congr ?_
  simp only [MatrixLookup.folded, MatrixLookup.mk.injEq, and_assoc]

theorem Percentage.fields_agreesWhen {left right : Percentage}
    (leftNumeric : (ComponentConfig.percentage left).IsNumeric)
    (rightNumeric : (ComponentConfig.percentage right).IsNumeric) :
    (Percentage.fields .number).AgreesWhen left right (left.folded = right.folded) := by
  have allFinite {value? : Option Float} (finite : ∀ value ∈ value?, value.isFinite = true) :
      value?.filter Float.isFinite = value? := by
    cases value? with
    | none => rfl
    | some value => rw [Option.filter_some, if_pos (finite value rfl)]
  have metric := Fields.AgreesWhen.required "metric" Percentage.metric
    (Codec.string_agreesWhen left.metric right.metric)
  have rate := Fields.AgreesWhen.required "rate" Percentage.rate
    (Codec.float_agreesWhen leftNumeric.1 rightNumeric.1)
  have threshold := Fields.AgreesWhen.defaulted "min_threshold" none Percentage.minThreshold
    (Codec.nullable_float_agreesWhen left.minThreshold right.minThreshold)
  refine (((metric.map Percentage.mk).seq rate).seq threshold).congr ?_
  rw [allFinite leftNumeric.2, allFinite rightNumeric.2, Percentage.folded, Percentage.folded,
    Percentage.mk.injEq, and_assoc]

theorem BucketedRate.fields_agreesWhen (selectorName baseName : String) {left right : BucketedRate}
    (leftNumeric : ∀ bucket ∈ left.buckets, bucket.IsNumeric)
    (rightNumeric : ∀ bucket ∈ right.buckets, bucket.IsNumeric) :
    (BucketedRate.fields .number selectorName baseName).AgreesWhen left right
      (left.folded = right.folded) := by
  have selector := Fields.AgreesWhen.required selectorName BucketedRate.selector
    (Codec.string_agreesWhen left.selector right.selector)
  have base := Fields.AgreesWhen.required baseName BucketedRate.base
    (Codec.string_agreesWhen left.base right.base)
  have buckets := Fields.AgreesWhen.required "buckets" BucketedRate.buckets
    (.list (RateBucket.faithful 0).legible fun a inLeft b inRight =>
      RateBucket.codec_agreesWhen (leftNumeric a inLeft) (rightNumeric b inRight))
  refine (((selector.map BucketedRate.mk).seq base).seq buckets).congr ?_
  rw [BucketedRate.folded, BucketedRate.folded, BucketedRate.mk.injEq, and_assoc]

theorem FlatPercentage.fields_agreesWhen {left right : FlatPercentage}
    (leftFinite : left.rate.isFinite = true) (rightFinite : right.rate.isFinite = true) :
    (FlatPercentage.fields .number).AgreesWhen left right (left.folded = right.folded) := by
  have metric := Fields.AgreesWhen.required "metric" FlatPercentage.metric
    (Codec.string_agreesWhen left.metric right.metric)
  have rate := Fields.AgreesWhen.required "rate" FlatPercentage.rate
    (Codec.float_agreesWhen leftFinite rightFinite)
  refine ((metric.map FlatPercentage.mk).seq rate).congr ?_
  rw [FlatPercentage.folded, FlatPercentage.folded, FlatPercentage.mk.injEq]

/-!
## Configurations with their tags
-/

theorem ComponentKind.name_injective : Function.Injective ComponentKind.name := by
  intro left right same
  cases left <;> cases right <;> first | rfl | exact absurd same (by decide)

namespace ComponentConfig

/-- What is written of a configuration besides its tag, under names that are not the tag's. -/
theorem exists_members {config : ComponentConfig} (numeric : config.IsNumeric) :
    ∃ names slots, "type" ∉ names ∧ Json.AreSaid names slots ∧
      config.members .number = Json.membersOfSlots names slots := by
  cases config with
  | tierLookup config =>
      have legible := (TierLookup.fields_agreesWhen numeric numeric).legible
      exact ⟨(TierLookup.fields .number).names, _, by decide, legible.areSaid config, rfl⟩
  | matrixLookup config =>
      have legible := (MatrixLookup.fields_agreesWhen numeric numeric).legible
      exact ⟨(MatrixLookup.fields .number).names, _, by decide, legible.areSaid config, rfl⟩
  | percentage config =>
      have legible := (Percentage.fields_agreesWhen numeric numeric).legible
      exact ⟨(Percentage.fields .number).names, _, by decide, legible.areSaid config, rfl⟩
  | conditionalPercentage config =>
      have legible := (BucketedRate.fields_agreesWhen "condition_metric" "base_metric" numeric
        numeric).legible
      exact
        ⟨(BucketedRate.conditionFields .number).names, _, by decide, legible.areSaid config, rfl⟩
  | percentageWithGate config =>
      have legible := (BucketedRate.fields_agreesWhen "gate_metric" "primary_metric" numeric
        numeric).legible
      exact ⟨(BucketedRate.gateFields .number).names, _, by decide, legible.areSaid config, rfl⟩
  | flatPercentage config =>
      have legible := (FlatPercentage.fields_agreesWhen numeric numeric).legible
      exact ⟨(FlatPercentage.fields .number).names, _, by decide, legible.areSaid config, rfl⟩

private theorem legible_tag (kind : ComponentKind) : (Json.ofString kind.name).Legible :=
  Codec.isLegible_string kind.name

theorem legible_encode {config : ComponentConfig} (numeric : config.IsNumeric) :
    ((codec .number).encode config).Legible := by
  obtain ⟨names, slots, _, said, written⟩ := exists_members numeric
  change (Json.object (_ :: config.members .number)).Legible
  rw [written]
  exact (said.cons (legible_tag config.kind) "type").legible_object

theorem kind_eq_of_canonical_eq {left right : ComponentConfig} (leftNumeric : left.IsNumeric)
    (rightNumeric : right.IsNumeric)
    (same : ((codec .number).encode left).canonical = ((codec .number).encode right).canonical) :
    left.kind = right.kind := by
  obtain ⟨_, _, _, _, leftMembers⟩ := exists_members leftNumeric
  obtain ⟨_, _, fresh, _, rightMembers⟩ := exists_members rightNumeric
  change (Json.object (_ :: left.members .number)).canonical =
    (Json.object (_ :: right.members .number)).canonical at same
  rw [leftMembers, rightMembers] at same
  have tags := Json.value_eq_of_canonical_eq fresh same
  exact ComponentKind.name_injective (Json.ofString_inj.mp tags)

/-- Configurations have one canonical tree just when they are the same but for the signs of zeros
and for infinite maxima. -/
theorem canonical_encode_eq_iff {left right : ComponentConfig} (leftNumeric : left.IsNumeric)
    (rightNumeric : right.IsNumeric) :
    ((codec .number).encode left).canonical = ((codec .number).encode right).canonical ↔
      left.folded = right.folded := by
  by_cases sameKind : left.kind = right.kind
  · cases left with
    | tierLookup left =>
        cases right with
        | tierLookup right =>
            rw [folded, folded, tierLookup.injEq]
            exact Fields.canonical_tagged_eq_iff (legible_tag _) (by decide)
              (TierLookup.fields_agreesWhen leftNumeric rightNumeric)
        | _ => cases sameKind
    | matrixLookup left =>
        cases right with
        | matrixLookup right =>
            rw [folded, folded, matrixLookup.injEq]
            exact Fields.canonical_tagged_eq_iff (legible_tag _) (by decide)
              (MatrixLookup.fields_agreesWhen leftNumeric rightNumeric)
        | _ => cases sameKind
    | percentage left =>
        cases right with
        | percentage right =>
            rw [folded, folded, percentage.injEq]
            exact Fields.canonical_tagged_eq_iff (legible_tag _) (by decide)
              (Percentage.fields_agreesWhen leftNumeric rightNumeric)
        | _ => cases sameKind
    | conditionalPercentage left =>
        cases right with
        | conditionalPercentage right =>
            rw [folded, folded, conditionalPercentage.injEq]
            exact Fields.canonical_tagged_eq_iff (legible_tag _) (by decide)
              (BucketedRate.fields_agreesWhen _ _ leftNumeric rightNumeric)
        | _ => cases sameKind
    | percentageWithGate left =>
        cases right with
        | percentageWithGate right =>
            rw [folded, folded, percentageWithGate.injEq]
            exact Fields.canonical_tagged_eq_iff (legible_tag _) (by decide)
              (BucketedRate.fields_agreesWhen _ _ leftNumeric rightNumeric)
        | _ => cases sameKind
    | flatPercentage left =>
        cases right with
        | flatPercentage right =>
            rw [folded, folded, flatPercentage.injEq]
            exact Fields.canonical_tagged_eq_iff (legible_tag _) (by decide)
              (FlatPercentage.fields_agreesWhen leftNumeric rightNumeric)
        | _ => cases sameKind
  · refine iff_of_false (fun same => ?_) fun same => sameKind ?_
    · exact sameKind (kind_eq_of_canonical_eq leftNumeric rightNumeric same)
    · rw [← left.kind_folded, same, right.kind_folded]

/-- The bytes that the digest of a configuration is taken of. -/
def canonicalBytes (config : ComponentConfig) : ByteArray := config.canonicalText.toUTF8

theorem canonicalBytes_eq_iff {left right : ComponentConfig} (leftNumeric : left.IsNumeric)
    (rightNumeric : right.IsNumeric) :
    left.canonicalBytes = right.canonicalBytes ↔ left.folded = right.folded := by
  have texts : left.canonicalText = right.canonicalText ↔ _ :=
    (legible_encode leftNumeric).canonical.compact_eq_iff (legible_encode rightNumeric).canonical
  exact String.toByteArray_inj.trans
    (texts.trans (canonical_encode_eq_iff leftNumeric rightNumeric))

theorem signature_eq_iff {left right : ComponentConfig} :
    left.signature = right.signature ↔
      left.kind = right.kind ∧
        Digest.words left.canonicalBytes.toList = Digest.words right.canonicalBytes.toList := by
  have digits : Digest.hex left.canonicalText = Digest.hex right.canonicalText ↔
      Digest.words left.canonicalBytes.toList = Digest.words right.canonicalBytes.toList :=
    Digest.hex_eq_iff
  rw [← digits, signature, signature]
  constructor
  · intro same
    have lists := congrArg String.toList same
    rw [String.toList_append, String.toList_append, String.toList_append, String.toList_append]
      at lists
    -- All digests have as many digits, so the texts can be cut from behind.
    obtain ⟨kinds, digests⟩ := List.append_inj' lists
      ((Digest.length_hex _).trans (Digest.length_hex _).symm)
    have names := List.append_cancel_right kinds
    exact ⟨ComponentKind.name_injective (String.toList_inj.mp names), String.toList_inj.mp digests⟩
  · rintro ⟨kinds, digests⟩
    rw [kinds, digests]

end ComponentConfig

namespace Component

/-- Canonical bytes, and signatures if digests do not collide on them, identify the configurations
of validated components but for the signs of zeros and for infinite maxima. -/
theorem signature_identifies {left right : Component}
    (leftValid : left.validate = .ok ()) (rightValid : right.validate = .ok ()) :
    (left.config.canonicalBytes = right.config.canonicalBytes ↔
        left.config.folded = right.config.folded) ∧
      ((Digest.words left.config.canonicalBytes.toList =
            Digest.words right.config.canonicalBytes.toList →
          left.config.canonicalBytes = right.config.canonicalBytes) →
        (left.config.signature = right.config.signature ↔
          left.config.folded = right.config.folded)) := by
  have bytes := ComponentConfig.canonicalBytes_eq_iff (isNumeric_of_validate leftValid)
    (isNumeric_of_validate rightValid)
  refine ⟨bytes, fun noCollision => ?_⟩
  rw [ComponentConfig.signature_eq_iff]
  constructor
  · rintro ⟨_, digests⟩
    exact bytes.mp (noCollision digests)
  · intro same
    refine ⟨?_, by rw [bytes.mpr same]⟩
    rw [← left.config.kind_folded, same, right.config.kind_folded]

/-- One tier from a minimum on, to a maximum if there is one. -/
def oneTier (min : Float) (max : Option Float) : Component :=
  ⟨"c1", "Tier", 1, true, .tierLookup ⟨"sales", [⟨⟨min, max, none⟩, 100.0⟩]⟩⟩

/-- A tier from negative zero to infinity has the signature of one from zero on without a maximum,
while a finite maximum changes the bytes. -/
theorem signature_identifies_oneTier :
    (oneTier (-0.0) (some Decimal.infinity)).validate = .ok () ∧
      (oneTier 0.0 none).validate = .ok () ∧ (oneTier 0.0 (some 5.0)).validate = .ok () ∧
      (oneTier (-0.0) (some Decimal.infinity)).config.signature =
        (oneTier 0.0 none).config.signature ∧
      (oneTier 0.0 none).config.canonicalBytes ≠
        (oneTier 0.0 (some 5.0)).config.canonicalBytes := by
  have infinite : (oneTier (-0.0) (some Decimal.infinity)).validate = .ok () := by decide +kernel
  have unbounded : (oneTier 0.0 none).validate = .ok () := by decide +kernel
  have bounded : (oneTier 0.0 (some 5.0)).validate = .ok () := by decide +kernel
  have same : (oneTier (-0.0) (some Decimal.infinity)).config.folded =
      (oneTier 0.0 none).config.folded := by decide +kernel
  have different : (oneTier 0.0 none).config.folded ≠ (oneTier 0.0 (some 5.0)).config.folded := by
    decide +kernel
  obtain ⟨bytes, signatures⟩ := signature_identifies infinite unbounded
  refine ⟨infinite, unbounded, bounded, ?_, ?_⟩
  · exact (signatures fun _ => bytes.mpr same).mpr same
  · exact fun collide => different ((signature_identifies unbounded bounded).1.mp collide)

end Component

end VariablePay
