import LossCascade.Document.Summary
import LossCascade.Report

/-!
# Reports in documents

How loss reports are written in documents and read from them.
-/

namespace LossCascade

open Json (Fields Read asText asFloat asInt asList asCode)

/-- The name of a stage in a report. -/
def Stage.fieldName : Stage → String
  | total => "total_secs"
  | requiredOperations => "required_operations_secs"
  | available => "available_secs"
  | scheduledProduction => "scheduled_production_secs"
  | production => "production_secs"
  | reportedProduction => "reported_production_secs"
  | netProduction => "net_production_secs"
  | efficientNetProduction => "efficient_net_production_secs"
  | effectiveNetProduction => "effective_net_production_secs"
  | valueAdding => "value_adding_secs"

namespace Metrics

/-- Percentages in a document. -/
def toJson (m : Metrics) : Json :=
  .object
    [("high_level_oee_pct", .float m.highLevelOee), ("oee_pct", .float m.oee),
      ("availability_pct", .float m.availability), ("performance_pct", .float m.performance),
      ("quality_pct", .float m.quality)]

/-- Reads percentages. -/
def ofJson? : Read Metrics := fun j => do
  let fields ← Json.fields?
    ["high_level_oee_pct", "oee_pct", "availability_pct", "performance_pct", "quality_pct"] j
  let highLevelOee ← fields.required "high_level_oee_pct" asFloat
  let oee ← fields.required "oee_pct" asFloat
  let availability ← fields.required "availability_pct" asFloat
  let performance ← fields.required "performance_pct" asFloat
  let quality ← fields.required "quality_pct" asFloat
  return { highLevelOee, oee, availability, performance, quality }

end Metrics

namespace ParetoItem

/-- A loss and its seconds in a document. -/
def toJson (p : ParetoItem) : Json :=
  .object [("loss", .text p.loss.code), ("secs", .int p.seconds)]

/-- Reads a loss and its seconds. -/
def ofJson? : Read ParetoItem := fun j => do
  let fields ← Json.fields? ["loss", "secs"] j
  let loss ← fields.required "loss" (asCode TimeLoss.ofCode?)
  let seconds ← fields.required "secs" asInt
  return { loss, seconds }

end ParetoItem

namespace LossReport

/-- The names of the fields of a report, in order. -/
def fieldNames : List String :=
  ["report_id", "equipment", "material", "start_time", "end_time", "losses", "waterfall", "metrics",
    "good_quantity", "reject_quantity", "startup_quantity", "design_speed", "pareto"]

/-- The seconds of the categories in a document, in the order of the cascade. -/
def lossesToJson (losses : TimeLoss → Option Int) : Json :=
  .object (TimeLoss.all.filterMap fun l => (losses l).map fun seconds => (l.code, .int seconds))

/-- Reads the seconds of the categories; of several of one category the last counts. -/
def lossesOfJson? : Read (TimeLoss → Option Int)
  | .object members =>
    members.foldlM (fun losses (code, j) => do
      let loss ← TimeLoss.ofCode? code
      let seconds ← asInt j
      return fun l => if l = loss then some seconds else losses l) fun _ => none
  | _ => none

/-- The seconds of the stages in a document. -/
def stagesToJson (stages : Stage → Int) : Json :=
  .object (Stage.all.map fun s => (s.fieldName, .int (stages s)))

/-- Reads the seconds of the stages. -/
def stagesOfJson? : Read (Stage → Int) := fun j => do
  let fields ← Json.fields? (Stage.all.map Stage.fieldName) j
  let seconds ← Stage.all.mapM fun s => fields.required s.fieldName asInt
  return fun s => seconds[s.depth]?.getD 0

/-- A report in a document. -/
def toJson (r : LossReport) : Json :=
  let quantity := Json.ofOption Quantity.toJson
  .object
    [("report_id", .text r.id), ("equipment", .text r.equipment), ("material", .text r.material),
      ("start_time", .ofOption Timestamp.toJson r.startTime),
      ("end_time", .ofOption Timestamp.toJson r.endTime),
      ("losses", lossesToJson r.losses), ("waterfall", stagesToJson r.stages),
      ("metrics", r.metrics.toJson), ("good_quantity", quantity r.output.good),
      ("reject_quantity", quantity r.output.reject),
      ("startup_quantity", quantity r.output.startup),
      ("design_speed", quantity r.designSpeed),
      ("pareto", .array (r.pareto.map ParetoItem.toJson))]

/-- Reads a report. -/
def ofJson? : Read LossReport := fun j => do
  let fields ← Json.fields? fieldNames j
  let id ← fields.required "report_id" asText
  let equipment ← fields.required "equipment" asText
  let material ← fields.required "material" asText
  let startTime ← fields.nullable "start_time" Timestamp.ofJson?
  let endTime ← fields.nullable "end_time" Timestamp.ofJson?
  let losses ← fields.required "losses" lossesOfJson?
  let stages ← fields.required "waterfall" stagesOfJson?
  let metrics ← fields.required "metrics" Metrics.ofJson?
  let good ← fields.nullable "good_quantity" Quantity.ofJson?
  let reject ← fields.nullable "reject_quantity" Quantity.ofJson?
  let startup ← fields.nullable "startup_quantity" Quantity.ofJson?
  let designSpeed ← fields.nullable "design_speed" Quantity.ofJson?
  let pareto ← fields.required "pareto" (asList ParetoItem.ofJson?)
  return {
    id, equipment, material, startTime, endTime, losses, stages, metrics
    output := { good, reject, startup }
    designSpeed, pareto }

end LossReport

end LossCascade
