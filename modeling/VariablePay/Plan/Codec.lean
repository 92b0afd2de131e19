import VariablePay.Json.Record
import VariablePay.Plan.RuleSet

set_option autoImplicit false

/-!
# Rule sets as JSON

Each record lists its members in the order in which they are written. A configuration is tagged
with its kind under `type`.
-/

namespace VariablePay

/-- The members that every kind of band shares, of a record that contains a band. -/
def Band.fieldsOf {ρ : Type} (form : FloatForm) (band : ρ → Band) : Fields ρ Band :=
  Band.mk
    <$> .required "min" (.float form) (fun record => (band record).min)
    <*> .free "max" (.float form) (fun record => (band record).max)
    <*> .sparse "label" .string (fun record => (band record).label)

def Band.codec (form : FloatForm) : Codec Band := (Band.fieldsOf form id).codec

def Tier.codec (form : FloatForm) : Codec Tier :=
  Fields.codec <| Tier.mk
    <$> Band.fieldsOf form Tier.toBand
    <*> .required "value" (.float form) Tier.value

def RateBucket.codec (form : FloatForm) : Codec RateBucket :=
  Fields.codec <| RateBucket.mk
    <$> Band.fieldsOf form RateBucket.toBand
    <*> .required "rate" (.float form) RateBucket.rate

def Clamp.codec : Codec Clamp := .named Clamp.all Clamp.name

def MatchedBand.codec : Codec MatchedBand :=
  Fields.codec <| MatchedBand.mk
    <$> .required "index" .count MatchedBand.index
    <*> .sparse "label" .string MatchedBand.label
    <*> .sparse "clamped" Clamp.codec MatchedBand.clamped

def TierLookup.fields (form : FloatForm) : Fields TierLookup TierLookup :=
  TierLookup.mk
    <$> .required "metric" .string TierLookup.metric
    <*> .required "tiers" (.list (Tier.codec form)) TierLookup.tiers

def Grid.mapCodec (form : FloatForm) : Codec (StringMap Grid) :=
  .stringMap (.list (.list (.float form)))

def MatrixLookup.fields (form : FloatForm) : Fields MatrixLookup MatrixLookup :=
  MatrixLookup.mk
    <$> .required "row_metric" .string MatrixLookup.rowMetric
    <*> .required "column_metric" .string MatrixLookup.columnMetric
    <*> .required "row_bands" (.list (Band.codec form)) MatrixLookup.rowBands
    <*> .required "column_bands" (.list (Band.codec form)) MatrixLookup.columnBands
    <*> .required "grids" (Grid.mapCodec form) MatrixLookup.grids
    <*> .free "grid_attribute" .string MatrixLookup.gridAttribute
    <*> .free "default_grid" .string MatrixLookup.defaultGrid

def Percentage.fields (form : FloatForm) : Fields Percentage Percentage :=
  Percentage.mk
    <$> .required "metric" .string Percentage.metric
    <*> .required "rate" (.float form) Percentage.rate
    <*> .free "min_threshold" (.float form) Percentage.minThreshold

/-- The members of a bucketed rate, with the names of its two metrics. -/
def BucketedRate.fields (form : FloatForm) (selectorName baseName : String) :
    Fields BucketedRate BucketedRate :=
  BucketedRate.mk
    <$> .required selectorName .string BucketedRate.selector
    <*> .required baseName .string BucketedRate.base
    <*> .required "buckets" (.list (RateBucket.codec form)) BucketedRate.buckets

def BucketedRate.conditionFields (form : FloatForm) : Fields BucketedRate BucketedRate :=
  BucketedRate.fields form "condition_metric" "base_metric"

def BucketedRate.gateFields (form : FloatForm) : Fields BucketedRate BucketedRate :=
  BucketedRate.fields form "gate_metric" "primary_metric"

def FlatPercentage.fields (form : FloatForm) : Fields FlatPercentage FlatPercentage :=
  FlatPercentage.mk
    <$> .required "metric" .string FlatPercentage.metric
    <*> .required "rate" (.float form) FlatPercentage.rate

def ComponentKind.codec : Codec ComponentKind := .named ComponentKind.all ComponentKind.name

namespace ComponentConfig

def members (form : FloatForm) : ComponentConfig → List (List Char × Json)
  | tierLookup config => (TierLookup.fields form).members config
  | matrixLookup config => (MatrixLookup.fields form).members config
  | percentage config => (Percentage.fields form).members config
  | conditionalPercentage config => (BucketedRate.conditionFields form).members config
  | percentageWithGate config => (BucketedRate.gateFields form).members config
  | flatPercentage config => (FlatPercentage.fields form).members config

def shapes (form : FloatForm) : List (Shape ComponentConfig) :=
  [(TierLookup.fields form).shape ComponentKind.tierLookup.name tierLookup,
    (MatrixLookup.fields form).shape ComponentKind.matrixLookup.name matrixLookup,
    (Percentage.fields form).shape ComponentKind.percentage.name percentage,
    (BucketedRate.conditionFields form).shape ComponentKind.conditionalPercentage.name
      conditionalPercentage,
    (BucketedRate.gateFields form).shape ComponentKind.percentageWithGate.name percentageWithGate,
    (FlatPercentage.fields form).shape ComponentKind.flatPercentage.name flatPercentage]

def codec (form : FloatForm) : Codec ComponentConfig :=
  .tagged "type" false (fun config => config.kind.name) (members form) (shapes form)

end ComponentConfig

def Component.codec (form : FloatForm) : Codec Component :=
  Fields.codec <| Component.mk
    <$> .required "id" .string Component.id
    <*> .required "name" .string Component.name
    <*> .required "ordinal" .word32 Component.ordinal
    <*> .defaulted "enabled" .bool true Component.enabled
    <*> .required "config" (ComponentConfig.codec form) Component.config

def Eligibility.codec : Codec Eligibility :=
  Fields.codec <| Eligibility.mk
    <$> .required "attribute" .string Eligibility.attributeName
    <*> .required "equals" .string Eligibility.equals

def Variant.codec (form : FloatForm) : Codec Variant :=
  Fields.codec <| Variant.mk
    <$> .required "id" .string Variant.id
    <*> .required "name" .string Variant.name
    <*> .free "eligibility" Eligibility.codec Variant.eligibility
    <*> .defaulted "default" .bool false Variant.isDefault
    <*> .required "components" (.list (Component.codec form)) Variant.components

def RuleSet.codec (form : FloatForm) : Codec RuleSet :=
  Fields.codec <| RuleSet.mk
    <$> .required "id" .string RuleSet.id
    <*> .required "name" .string RuleSet.name
    <*> .required "variants" (.list (Variant.codec form)) RuleSet.variants

end VariablePay
