import VariablePay.Plan.Component

set_option autoImplicit false

/-!
# Rule sets

A rule set offers variants of one plan; an entity gets the first variant whose eligibility it
meets, else the first default variant, else the first variant of all.
-/

namespace VariablePay

/-- Asks for an attribute with a certain value. -/
structure Eligibility where
  attributeName : String
  equals : String
  deriving DecidableEq

def Eligibility.isMetBy (eligibility : Eligibility) (attributes : StringMap String) : Bool :=
  attributes.get? eligibility.attributeName == some eligibility.equals

structure Variant where
  id : String
  name : String
  eligibility : Option Eligibility
  /-- Applies when no eligibility is met. -/
  isDefault : Bool
  components : List Component
  deriving DecidableEq

structure RuleSet where
  id : String
  name : String
  variants : List Variant
  deriving DecidableEq

namespace RuleSet

/-- The position of the variant that applies to an entity. -/
def variantIndexFor? (ruleSet : RuleSet) (attributes : StringMap String) : Option Nat :=
  (ruleSet.variants.findIdx? fun variant => variant.eligibility.any fun e => e.isMetBy attributes)
    |>.or (ruleSet.variants.findIdx? Variant.isDefault)
    |>.or (if ruleSet.variants.isEmpty then none else some 0)

def variantFor? (ruleSet : RuleSet) (attributes : StringMap String) : Option Variant :=
  (ruleSet.variantIndexFor? attributes).bind fun index => ruleSet.variants[index]?

def componentCount (ruleSet : RuleSet) : Nat :=
  (ruleSet.variants.flatMap Variant.components).length

end RuleSet

end VariablePay
