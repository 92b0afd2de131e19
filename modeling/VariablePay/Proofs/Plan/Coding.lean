import VariablePay.Plan.Codec
import VariablePay.Proofs.Json.Tagged

set_option autoImplicit false

/-!
# Plans read back from their texts

What is written of a band, a configuration, a component or a rule set is read back if all its
numbers are finite, as `IsFinite` says of each, and then with each number as it is read from its own
digits, as `reread` says. No other is read: an infinite maximum is written like none.
-/

namespace VariablePay

/-!
## Bands
-/

structure Band.IsFinite (band : Band) : Prop where
  min : band.min.isFinite = true
  max : ∀ max ∈ band.max, max.isFinite = true

def Band.reread (band : Band) : Band :=
  { band with min := Double.reread band.min, max := band.max.map Double.reread }

theorem Band.faithful_fieldsOf {ρ : Type} {fits : ρ → Prop} (depth : Nat) (get : ρ → Band)
    (part : ∀ record, fits record → (get record).IsFinite) :
    (Band.fieldsOf .number get).Faithful depth fits (fun record => (get record).reread)
      Band.IsFinite := by
  refine .whole (fun record => ⟨Double.reread (get record).min,
    (get record).max.map Double.reread, (get record).label⟩) ?_ fun _ => rfl
  -- The last member is applied last, so members come off in reverse order.
  refine .seq ?_ (.sparse (Codec.faithful_nullable_string depth) trivial fun _ _ => trivial)
  refine .seq ?_
    (.free (Codec.faithful_nullable_float depth) nofun fun record fit => (part record fit).max)
  refine .map (.required (Codec.faithful_float depth) fun record fit => (part record fit).min) ?_
  exact fun _ min _ max _ _ => ⟨min, max⟩

theorem Band.faithful (depth : Nat) :
    (Band.codec .number).Faithful (depth + 1) Band.IsFinite Band.reread :=
  .record (Band.faithful_fieldsOf depth id fun _ fit => fit) (by decide)

structure Tier.IsFinite (tier : Tier) : Prop where
  band : tier.toBand.IsFinite
  value : tier.value.isFinite = true

def Tier.reread (tier : Tier) : Tier := ⟨tier.toBand.reread, Double.reread tier.value⟩

theorem Tier.faithful (depth : Nat) :
    (Tier.codec .number).Faithful (depth + 1) Tier.IsFinite Tier.reread := by
  refine .record (.whole (fun tier => ⟨tier.toBand.reread, Double.reread tier.value⟩) ?_
    fun _ => rfl) (by decide)
  refine .seq ?_ (.required (Codec.faithful_float depth) fun _ fit => fit.value)
  refine .map (Band.faithful_fieldsOf depth Tier.toBand fun _ fit => fit.band) ?_
  exact fun _ band _ value => ⟨band, value⟩

structure RateBucket.IsFinite (bucket : RateBucket) : Prop where
  band : bucket.toBand.IsFinite
  rate : bucket.rate.isFinite = true

def RateBucket.reread (bucket : RateBucket) : RateBucket :=
  ⟨bucket.toBand.reread, Double.reread bucket.rate⟩

theorem RateBucket.faithful (depth : Nat) :
    (RateBucket.codec .number).Faithful (depth + 1) RateBucket.IsFinite RateBucket.reread := by
  refine .record (.whole (fun bucket => ⟨bucket.toBand.reread, Double.reread bucket.rate⟩) ?_
    fun _ => rfl) (by decide)
  refine .seq ?_ (.required (Codec.faithful_float depth) fun _ fit => fit.rate)
  refine .map (Band.faithful_fieldsOf depth RateBucket.toBand fun _ fit => fit.band) ?_
  exact fun _ band _ rate => ⟨band, rate⟩

theorem Clamp.faithful (depth : Nat) : Clamp.codec.Faithful depth (fun _ => True) id :=
  Codec.faithful_named depth fun clamp => by cases clamp <;> decide

namespace MatchedBand

theorem faithful (depth : Nat) :
    codec.Faithful (depth + 1) (fun band => band.index < Nat.pow 2 64) id := by
  have clamped := (Clamp.faithful depth).nullable_all fun _ => Json.noConfusion
  refine .record (.whole (fun band => ⟨band.index, band.label, band.clamped⟩) ?_ fun _ => rfl)
    (by decide)
  refine .seq ?_ (.sparse clamped trivial fun _ _ => trivial)
  refine .seq ?_ (.sparse (Codec.faithful_nullable_string depth) trivial fun _ _ => trivial)
  refine .map (.required (Codec.faithful_count depth) fun _ fit => fit) ?_
  exact fun _ index _ _ _ _ => index

end MatchedBand

/-!
## Configurations
-/

def TierLookup.IsFinite (config : TierLookup) : Prop := ∀ tier ∈ config.tiers, tier.IsFinite

def TierLookup.reread (config : TierLookup) : TierLookup :=
  { config with tiers := config.tiers.map Tier.reread }

theorem TierLookup.faithful_fields (depth : Nat) : (TierLookup.fields .number).Faithful
    (depth + 2) TierLookup.IsFinite TierLookup.reread TierLookup.IsFinite := by
  refine .whole (fun config => ⟨config.metric, config.tiers.map Tier.reread⟩) ?_ fun _ => rfl
  refine .seq ?_ (.required (Tier.faithful depth).list fun _ fit => fit)
  refine .map (.required (Codec.faithful_string _) fun _ _ => trivial) ?_
  exact fun _ _ _ tiers => tiers

/-- Grids with finite cells. -/
def Grid.IsFinite (grid : Grid) : Prop := ∀ row ∈ grid, ∀ cell ∈ row, cell.isFinite = true

def Grid.reread (grid : Grid) : Grid := grid.map (List.map Double.reread)

theorem Grid.faithful_mapCodec (depth : Nat) : (Grid.mapCodec .number).Faithful (depth + 3)
    (fun grids => ∀ entry ∈ grids.entries, Grid.IsFinite entry.2) (StringMap.mapValues reread) :=
  (Codec.faithful_float depth).list.list.stringMap

structure MatrixLookup.IsFinite (config : MatrixLookup) : Prop where
  rowBands : ∀ band ∈ config.rowBands, band.IsFinite
  columnBands : ∀ band ∈ config.columnBands, band.IsFinite
  grids : ∀ entry ∈ config.grids.entries, Grid.IsFinite entry.2

def MatrixLookup.reread (config : MatrixLookup) : MatrixLookup :=
  { config with
    rowBands := config.rowBands.map Band.reread
    columnBands := config.columnBands.map Band.reread
    grids := config.grids.mapValues Grid.reread }

theorem MatrixLookup.faithful_fields (depth : Nat) : (MatrixLookup.fields .number).Faithful
    (depth + 3) MatrixLookup.IsFinite MatrixLookup.reread MatrixLookup.IsFinite := by
  have bands := (Band.faithful (depth + 1)).list
  refine .whole (fun config => ⟨config.rowMetric, config.columnMetric,
    config.rowBands.map Band.reread, config.columnBands.map Band.reread,
    config.grids.mapValues Grid.reread, config.gridAttribute, config.defaultGrid⟩) ?_ fun _ => rfl
  refine .seq ?_ (.free (Codec.faithful_nullable_string _) trivial fun _ _ => trivial)
  refine .seq ?_ (.free (Codec.faithful_nullable_string _) trivial fun _ _ => trivial)
  refine .seq ?_ (.required (Grid.faithful_mapCodec depth) fun _ fit => fit.grids)
  refine .seq ?_ (.required bands fun _ fit => fit.columnBands)
  refine .seq ?_ (.required bands fun _ fit => fit.rowBands)
  refine .seq ?_ (.required (Codec.faithful_string _) fun _ _ => trivial)
  refine .map (.required (Codec.faithful_string _) fun _ _ => trivial) ?_
  exact fun _ _ _ _ _ rows _ columns _ grids _ _ _ _ => ⟨rows, columns, grids⟩

structure Percentage.IsFinite (config : Percentage) : Prop where
  rate : config.rate.isFinite = true
  minThreshold : ∀ threshold ∈ config.minThreshold, threshold.isFinite = true

def Percentage.reread (config : Percentage) : Percentage :=
  { config with
    rate := Double.reread config.rate
    minThreshold := config.minThreshold.map Double.reread }

theorem Percentage.faithful_fields (depth : Nat) : (Percentage.fields .number).Faithful
    depth Percentage.IsFinite Percentage.reread Percentage.IsFinite := by
  refine .whole (fun config => ⟨config.metric, Double.reread config.rate,
    config.minThreshold.map Double.reread⟩) ?_ fun _ => rfl
  refine .seq ?_ (.free (Codec.faithful_nullable_float _) nofun fun _ fit => fit.minThreshold)
  refine .seq ?_ (.required (Codec.faithful_float _) fun _ fit => fit.rate)
  refine .map (.required (Codec.faithful_string _) fun _ _ => trivial) ?_
  exact fun _ _ _ rate _ threshold => ⟨rate, threshold⟩

def BucketedRate.IsFinite (config : BucketedRate) : Prop :=
  ∀ bucket ∈ config.buckets, bucket.IsFinite

def BucketedRate.reread (config : BucketedRate) : BucketedRate :=
  { config with buckets := config.buckets.map RateBucket.reread }

theorem BucketedRate.faithful_fields (depth : Nat) (selectorName baseName : String) :
    (BucketedRate.fields .number selectorName baseName).Faithful (depth + 2)
      BucketedRate.IsFinite BucketedRate.reread BucketedRate.IsFinite := by
  refine .whole (fun config => ⟨config.selector, config.base,
    config.buckets.map RateBucket.reread⟩) ?_ fun _ => rfl
  refine .seq ?_ (.required (RateBucket.faithful depth).list fun _ fit => fit)
  refine .seq ?_ (.required (Codec.faithful_string _) fun _ _ => trivial)
  refine .map (.required (Codec.faithful_string _) fun _ _ => trivial) ?_
  exact fun _ _ _ _ _ buckets => buckets

def FlatPercentage.IsFinite (config : FlatPercentage) : Prop := config.rate.isFinite = true

def FlatPercentage.reread (config : FlatPercentage) : FlatPercentage :=
  { config with rate := Double.reread config.rate }

theorem FlatPercentage.faithful_fields (depth : Nat) : (FlatPercentage.fields .number).Faithful
    depth FlatPercentage.IsFinite FlatPercentage.reread FlatPercentage.IsFinite := by
  refine .whole (fun config => ⟨config.metric, Double.reread config.rate⟩) ?_ fun _ => rfl
  refine .seq ?_ (.required (Codec.faithful_float _) fun _ fit => fit)
  refine .map (.required (Codec.faithful_string _) fun _ _ => trivial) ?_
  exact fun _ _ _ rate => rate

theorem ComponentKind.faithful (depth : Nat) :
    ComponentKind.codec.Faithful depth (fun _ => True) id :=
  Codec.faithful_named depth fun kind => by cases kind <;> decide

namespace ComponentConfig

def IsFinite : ComponentConfig → Prop
  | tierLookup config => config.IsFinite
  | matrixLookup config => config.IsFinite
  | percentage config => config.IsFinite
  | conditionalPercentage config => config.IsFinite
  | percentageWithGate config => config.IsFinite
  | flatPercentage config => config.IsFinite

def reread : ComponentConfig → ComponentConfig
  | tierLookup config => tierLookup config.reread
  | matrixLookup config => matrixLookup config.reread
  | percentage config => percentage config.reread
  | conditionalPercentage config => conditionalPercentage config.reread
  | percentageWithGate config => percentageWithGate config.reread
  | flatPercentage config => flatPercentage config.reread

theorem faithful (depth : Nat) : (codec .number).Faithful (depth + 4) IsFinite reread := by
  have tiers := TierLookup.faithful_fields (depth + 1)
  have matrix := MatrixLookup.faithful_fields depth
  have rate := Percentage.faithful_fields (depth + 3)
  have condition :=
    BucketedRate.faithful_fields (depth + 1) "condition_metric" "base_metric"
  have gate := BucketedRate.faithful_fields (depth + 1) "gate_metric" "primary_metric"
  have flat := FlatPercentage.faithful_fields (depth + 3)
  refine Codec.faithful_tagged (by decide) (fun config => ?_) ?_
  · cases config with
    | tierLookup config => exact ⟨_, _, rfl, rfl, tiers.writes (by decide) _ tierLookup config⟩
    | matrixLookup config => exact ⟨_, _, rfl, rfl, matrix.writes (by decide) _ matrixLookup config⟩
    | percentage config =>
        exact ⟨_, _, rfl, rfl, rate.writes (by decide) _ percentage config⟩
    | conditionalPercentage config =>
        exact ⟨_, _, rfl, rfl, condition.writes (by decide) _ conditionalPercentage config⟩
    | percentageWithGate config =>
        exact ⟨_, _, rfl, rfl, gate.writes (by decide) _ percentageWithGate config⟩
    | flatPercentage config =>
        exact ⟨_, _, rfl, rfl, flat.writes (by decide) _ flatPercentage config⟩
  · refine List.forall_mem_cons.mpr ⟨tiers.readsOnly _ tierLookup fun _ fit => fit, ?_⟩
    refine List.forall_mem_cons.mpr ⟨matrix.readsOnly _ matrixLookup fun _ fit => fit, ?_⟩
    refine List.forall_mem_cons.mpr ⟨rate.readsOnly _ percentage fun _ fit => fit, ?_⟩
    refine List.forall_mem_cons.mpr
      ⟨condition.readsOnly _ conditionalPercentage fun _ fit => fit, ?_⟩
    refine List.forall_mem_cons.mpr ⟨gate.readsOnly _ percentageWithGate fun _ fit => fit, ?_⟩
    exact List.forall_mem_singleton.mpr (flat.readsOnly _ flatPercentage fun _ fit => fit)

end ComponentConfig

/-!
## Rule sets
-/

def Component.IsFinite (component : Component) : Prop := component.config.IsFinite

def Component.reread (component : Component) : Component :=
  { component with config := component.config.reread }

theorem Component.faithful (depth : Nat) :
    (Component.codec .number).Faithful (depth + 5) Component.IsFinite Component.reread := by
  refine .record (.whole (fun component => ⟨component.id, component.name, component.ordinal,
    component.enabled, component.config.reread⟩) ?_ fun _ => rfl) (by decide)
  refine .seq ?_ (.required (ComponentConfig.faithful depth) fun _ fit => fit)
  refine .seq ?_ (.defaulted (Codec.faithful_bool _) trivial fun _ _ => trivial)
  refine .seq ?_ (.required (Codec.faithful_word32 _) fun _ _ => trivial)
  refine .seq ?_ (.required (Codec.faithful_string _) fun _ _ => trivial)
  refine .map (.required (Codec.faithful_string _) fun _ _ => trivial) ?_
  exact fun _ _ _ _ _ _ _ _ _ config => config

theorem Eligibility.faithful (depth : Nat) :
    Eligibility.codec.Faithful (depth + 1) (fun _ => True) id := by
  refine .record (.whole (fun eligibility => ⟨eligibility.attributeName, eligibility.equals⟩) ?_
    fun _ => rfl) (by decide)
  refine .seq ?_ (.required (Codec.faithful_string _) fun _ _ => trivial)
  refine .map (.required (Codec.faithful_string _) fun _ _ => trivial) ?_
  exact fun _ _ _ _ => trivial

def Variant.IsFinite (variant : Variant) : Prop :=
  ∀ component ∈ variant.components, component.IsFinite

def Variant.reread (variant : Variant) : Variant :=
  { variant with components := variant.components.map Component.reread }

theorem Variant.faithful (depth : Nat) :
    (Variant.codec .number).Faithful (depth + 7) Variant.IsFinite Variant.reread := by
  have eligibility := (Eligibility.faithful (depth + 5)).nullable_all fun _ => Json.noConfusion
  refine .record (.whole (fun variant => ⟨variant.id, variant.name, variant.eligibility,
    variant.isDefault, variant.components.map Component.reread⟩) ?_ fun _ => rfl) (by decide)
  refine .seq ?_ (.required (Component.faithful depth).list fun _ fit => fit)
  refine .seq ?_ (.defaulted (Codec.faithful_bool _) trivial fun _ _ => trivial)
  refine .seq ?_ (.free eligibility trivial fun _ _ => trivial)
  refine .seq ?_ (.required (Codec.faithful_string _) fun _ _ => trivial)
  refine .map (.required (Codec.faithful_string _) fun _ _ => trivial) ?_
  exact fun _ _ _ _ _ _ _ _ _ components => components

def RuleSet.IsFinite (ruleSet : RuleSet) : Prop := ∀ variant ∈ ruleSet.variants, variant.IsFinite

def RuleSet.reread (ruleSet : RuleSet) : RuleSet :=
  { ruleSet with variants := ruleSet.variants.map Variant.reread }

theorem RuleSet.faithful (depth : Nat) :
    (RuleSet.codec .number).Faithful (depth + 9) RuleSet.IsFinite RuleSet.reread := by
  refine .record (.whole (fun ruleSet => ⟨ruleSet.id, ruleSet.name,
    ruleSet.variants.map Variant.reread⟩) ?_ fun _ => rfl) (by decide)
  refine .seq ?_ (.required (Variant.faithful depth).list fun _ fit => fit)
  refine .seq ?_ (.required (Codec.faithful_string _) fun _ _ => trivial)
  refine .map (.required (Codec.faithful_string _) fun _ _ => trivial) ?_
  exact fun _ _ _ _ _ variants => variants

end VariablePay
