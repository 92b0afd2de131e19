import VariablePay.Run.Basic

set_option autoImplicit false

/-!
# Reports

The report of a run in lines of text: what the run is about, the numbers of its batch, and the
payout of every component of every entity. Names stand to the left of their column and amounts,
with two places, to the right.
-/

namespace VariablePay.Report

/-- The text filled with blanks on the right up to a width. -/
def alignLeft (width : Nat) (text : String) : String :=
  text ++ String.ofList (List.replicate (width - text.length) ' ')

/-- The text filled with blanks on the left up to a width. -/
def alignRight (width : Nat) (text : String) : String :=
  String.ofList (List.replicate (width - text.length) ' ') ++ text

def amountText (amount : Float) : String := alignRight 12 (fixedText 2 amount)

/-- Lines of text, each one ended. -/
def ofLines (lines : List String) : String := String.join (lines.map fun line => line ++ "\n")

def header (database tenant period ruleSet : String) : String :=
  ofLines
    ["calc-runner", s!"  db:        {database}", s!"  tenant:    {tenant}",
      s!"  period:    {period}", s!"  rule set:  {ruleSet}", ""]

def summaryLines (result : RunResult) : List String :=
  let summary := result.summary
  ["=== BATCH SUMMARY ===",
    s!"  batch_id:          {result.batchId}",
    s!"  entities:          {result.entityCount}",
    s!"  total payout:      {fixedText 2 result.totalPayout}",
    s!"  concordance:       {percentText result.concordanceRate}",
    s!"  mismatched:        {summary.entitiesMismatched}",
    s!"  with errors:       {summary.entitiesWithErrors}",
    s!"  patterns:          {summary.patternsConsolidated}",
    s!"  anomalies:         {summary.anomalyCount}",
    s!"  modes:             {summary.shadowPatterns} shadow / {summary.verifyPatterns} verify / " ++
      s!"{summary.trustedPatterns} trusted"]

def componentLine (component : ComponentResult) : String :=
  s!"      {alignLeft 28 component.componentName} {amountText component.payout}"

/-- The payout of an entity, marked if the two ways do not agree. -/
def entityLine (result : EntityResult) : String :=
  s!"  {alignLeft 16 result.entityId} {amountText result.total}  ({result.variantId})" ++
    (if result.dualPath.agrees then "" else "  [MISMATCH]")

def entityLines (result : EntityResult) : List String :=
  entityLine result :: result.components.map componentLine

def ofResult (result : RunResult) : String :=
  ofLines (summaryLines result ++ ["", "=== ENTITY RESULTS ==="] ++
    result.results.flatMap entityLines)

end VariablePay.Report
