import VariablePay.Intent.Execution
import VariablePay.Plan.Codec

set_option autoImplicit false

/-!
# Intents and traces as JSON

An input is tagged with its `source` and an operation with its `op`. As an input always stands
inside an operation, its tag may also be given by position.
-/

namespace VariablePay

namespace InputSource

def tag : InputSource → String
  | metric _ => "metric"
  | priorComponent _ => "prior_component"
  | constant _ => "constant"

def nameField : Fields String String := .required "name" .string id

def indexField : Fields Nat Nat := .required "index" .count id

def valueField (form : FloatForm) : Fields Float Float := .required "value" (.float form) id

def members (form : FloatForm) : InputSource → List (List Char × Json)
  | metric name => nameField.members name
  | priorComponent index => indexField.members index
  | constant value => (valueField form).members value

def codec (form : FloatForm) : Codec InputSource :=
  .tagged "source" true tag (members form)
    [nameField.shape "metric" metric, indexField.shape "prior_component" priorComponent,
      (valueField form).shape "constant" constant]

end InputSource

def Boundaries.codec (form : FloatForm) : Codec Boundaries :=
  Fields.codec <| Boundaries.mk
    <$> .required "lower" (.list (.float form)) Boundaries.lower
    <*> .required "labels" (.list (Codec.nullable .string)) Boundaries.labels

def GridSelector.codec : Codec GridSelector :=
  Fields.codec <| GridSelector.mk
    <$> .optional "attribute" .string GridSelector.attributeName
    <*> .optional "fallback" .string GridSelector.fallback

def BoundedLookup.fields (form : FloatForm) : Fields BoundedLookup BoundedLookup :=
  BoundedLookup.mk
    <$> .required "input" (InputSource.codec form) BoundedLookup.input
    <*> .required "boundaries" (Boundaries.codec form) BoundedLookup.boundaries
    <*> .required "outputs" (.list (.float form)) BoundedLookup.outputs

def GridLookup.fields (form : FloatForm) : Fields GridLookup GridLookup :=
  GridLookup.mk
    <$> .required "row_input" (InputSource.codec form) GridLookup.rowInput
    <*> .required "row_boundaries" (Boundaries.codec form) GridLookup.rowBoundaries
    <*> .required "column_input" (InputSource.codec form) GridLookup.columnInput
    <*> .required "column_boundaries" (Boundaries.codec form) GridLookup.columnBoundaries
    <*> .required "selector" GridSelector.codec GridLookup.selector
    <*> .required "grids" (Grid.mapCodec form) GridLookup.grids

def ScalarMultiply.fields (form : FloatForm) : Fields ScalarMultiply ScalarMultiply :=
  ScalarMultiply.mk
    <$> .required "input" (InputSource.codec form) ScalarMultiply.input
    <*> .required "rate" (.float form) ScalarMultiply.rate
    <*> .optional "floor" (.float form) ScalarMultiply.floor

def ConditionalRate.fields (form : FloatForm) : Fields ConditionalRate ConditionalRate :=
  ConditionalRate.mk
    <$> .required "condition" (InputSource.codec form) ConditionalRate.condition
    <*> .required "boundaries" (Boundaries.codec form) ConditionalRate.boundaries
    <*> .required "rates" (.list (.float form)) ConditionalRate.rates
    <*> .required "base" (InputSource.codec form) ConditionalRate.base

namespace IntentOperation

def tag : IntentOperation → String
  | boundedLookup _ => "bounded_lookup"
  | gridLookup _ => "grid_lookup"
  | scalarMultiply _ => "scalar_multiply"
  | conditionalRate _ => "conditional_rate"

def members (form : FloatForm) : IntentOperation → List (List Char × Json)
  | boundedLookup lookup => (BoundedLookup.fields form).members lookup
  | gridLookup lookup => (GridLookup.fields form).members lookup
  | scalarMultiply product => (ScalarMultiply.fields form).members product
  | conditionalRate product => (ConditionalRate.fields form).members product

def codec (form : FloatForm) : Codec IntentOperation :=
  .tagged "op" false tag (members form)
    [(BoundedLookup.fields form).shape "bounded_lookup" boundedLookup,
      (GridLookup.fields form).shape "grid_lookup" gridLookup,
      (ScalarMultiply.fields form).shape "scalar_multiply" scalarMultiply,
      (ConditionalRate.fields form).shape "conditional_rate" conditionalRate]

end IntentOperation

def ComponentIntent.codec (form : FloatForm) : Codec ComponentIntent :=
  Fields.codec <| ComponentIntent.mk
    <$> .required "component_id" .string ComponentIntent.componentId
    <*> .required "kind" ComponentKind.codec ComponentIntent.kind
    <*> .required "ordinal" .word32 ComponentIntent.ordinal
    <*> .required "index" .count ComponentIntent.index
    <*> .required "enabled" .bool ComponentIntent.enabled
    <*> .required "operation" (IntentOperation.codec form) ComponentIntent.operation

def IntentTrace.codec (form : FloatForm) : Codec IntentTrace :=
  Fields.codec <| IntentTrace.mk
    <$> .required "component_id" .string IntentTrace.componentId
    <*> .required "index" .count IntentTrace.index
    <*> .required "payout" (.float form) IntentTrace.payout
    <*> .required "inputs" (.stringMap (.float form)) IntentTrace.inputs
    <*> .sparse "branch" .count IntentTrace.branch
    <*> .sparse "column_branch" .count IntentTrace.columnBranch
    <*> .sparse "grid" .string IntentTrace.grid
    <*> .sparse "rate" (.float form) IntentTrace.rate
    <*> .required "prior_results_seen" .count IntentTrace.priorResultsSeen
    <*> .sparse "error" .string IntentTrace.error

end VariablePay
