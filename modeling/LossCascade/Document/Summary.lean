import LossCascade.Json.Record
import LossCascade.Summary
import LossCascade.Time.Notation
import LossCascade.Time.Reader

/-!
# Quantities and records in documents

How quantities, reasons and summary records are written in documents and read from them. Codes are
written exactly as they are, units by their symbols, and times are read in the relaxed grammar.
-/

namespace LossCascade

open Json (Fields Read asText asFloat asCode)

/-! ## Quantities -/

namespace Quantity

/-- A quantity in a document. -/
def toJson (q : Quantity Float) : Json :=
  .object [("amount", .float q.amount), ("unit", .text q.unit.symbol)]

/-- Reads a unit. -/
def unitOfJson? : Read MeasureUnit := fun j => do (MeasureUnit.read (← asText j)).toOption

/-- Reads a quantity. -/
def ofJson? : Read (Quantity Float) := fun j => do
  let fields ← Json.fields? ["amount", "unit"] j
  let amount ← fields.required "amount" asFloat
  let unit ← fields.required "unit" unitOfJson?
  return { amount, unit }

end Quantity

/-! ## Records -/

/-- A timestamp in a document. -/
def Timestamp.toJson (t : Timestamp) : Json :=
  .text t.isoText

/-- Reads a timestamp. -/
def Timestamp.ofJson? : Read Timestamp := fun j => do Time.readRelaxedTimestamp? (← asText j)

namespace Reason

/-- A reason in a document. -/
def toJson (r : Reason) : Json :=
  .object
    [("name", .text r.name), ("description", .ofOption .text r.description),
      ("loss", .text r.loss.code)]

/-- Reads a reason. -/
def ofJson? : Read Reason := fun j => do
  let fields ← Json.fields? ["name", "description", "loss"] j
  let name ← fields.required "name" asText
  let description ← fields.optional "description" asText
  let loss ← fields.required "loss" (asCode TimeLoss.ofCode?)
  return { name, description, loss }

end Reason

namespace AvailabilitySummary

/-- An availability record in a document. -/
def toJson (s : AvailabilitySummary) : Json :=
  .object
    [("start_time", s.startTime.toJson), ("end_time", s.endTime.toJson),
      ("reason", s.reason.toJson)]

/-- Reads an availability record. -/
def ofJson? : Read AvailabilitySummary := fun j => do
  let fields ← Json.fields? ["start_time", "end_time", "reason"] j
  let startTime ← fields.required "start_time" Timestamp.ofJson?
  let endTime ← fields.required "end_time" Timestamp.ofJson?
  let reason ← fields.required "reason" Reason.ofJson?
  return { startTime, endTime, reason }

end AvailabilitySummary

namespace ProductionSummary

/-- A production record in a document. -/
def toJson (s : ProductionSummary) : Json :=
  .object
    [("start_time", s.startTime.toJson), ("end_time", s.endTime.toJson),
      ("kind", .text s.kind.code), ("quantity", s.quantity.toJson)]

/-- Reads a production record. -/
def ofJson? : Read ProductionSummary := fun j => do
  let fields ← Json.fields? ["start_time", "end_time", "kind", "quantity"] j
  let startTime ← fields.required "start_time" Timestamp.ofJson?
  let endTime ← fields.required "end_time" Timestamp.ofJson?
  let kind ← fields.required "kind" (asCode ProductionKind.ofCode?)
  let quantity ← fields.required "quantity" Quantity.ofJson?
  return { startTime, endTime, kind, quantity }

end ProductionSummary

end LossCascade
