import LossCascade.Document.Summary
import LossCascade.Json.Reader
import LossCascade.Plant.Config
import LossCascade.Table.File

/-!
# Schedules and plants in documents

How work schedules and plant configurations are written in documents and read from them, and how a
plant is loaded from a file.
-/

namespace LossCascade

open Json (Fields Read asText asInt asList)

/-! ## Schedules -/

namespace Shift

/-- A shift in a document. -/
def toJson (s : Shift) : Json :=
  .object
    [("name", .text s.name), ("start", .text s.start.text),
      ("duration_minutes", .int s.durationMinutes)]

/-- Reads a shift. -/
def ofJson? : Read Shift := fun j => do
  let fields ← Json.fields? ["name", "start", "duration_minutes"] j
  let name ← fields.required "name" asText
  let start ← fields.required "start" fun j => do Time.readTimeOfDay? (← asText j)
  let durationMinutes ← fields.required "duration_minutes" asInt
  return { name, start, durationMinutes }

end Shift

namespace NonWorkingPeriod

/-- A period in a document. -/
def toJson (p : NonWorkingPeriod) : Json :=
  .object
    [("name", .text p.name), ("start", .text p.start.isoText), ("end", .text p.stop.isoText)]

/-- Reads a period. -/
def ofJson? : Read NonWorkingPeriod := fun j => do
  let localTime : Read LocalTime := fun j => do Time.readLocalTime? (← asText j)
  let fields ← Json.fields? ["name", "start", "end"] j
  let name ← fields.required "name" asText
  let start ← fields.required "start" localTime
  let stop ← fields.required "end" localTime
  return { name, start, stop }

end NonWorkingPeriod

namespace WorkSchedule

/-- A schedule in a document. -/
def toJson (s : WorkSchedule) : Json :=
  .object
    [("name", .text s.name), ("shifts", .array (s.shifts.map Shift.toJson)),
      ("non_working_periods", .array (s.nonWorkingPeriods.map NonWorkingPeriod.toJson))]

/-- Reads a schedule. -/
def ofJson? : Read WorkSchedule := fun j => do
  let fields ← Json.fields? ["name", "shifts", "non_working_periods"] j
  let name ← fields.required "name" asText
  let shifts ← fields.withDefault "shifts" (asList Shift.ofJson?) []
  let nonWorkingPeriods ←
    fields.withDefault "non_working_periods" (asList NonWorkingPeriod.ofJson?) []
  return { name, shifts, nonWorkingPeriods }

end WorkSchedule

/-! ## Plants -/

namespace EquipmentProfile

/-- Design speeds by material; of several of one material the last counts. -/
def designSpeedsOfJson? : Read (Std.TreeMap String (Quantity Float))
  | .object members =>
    members.foldlM (fun speeds (material, j) => do
      return speeds.insert material (← Quantity.ofJson? j)) ∅
  | _ => none

/-- A piece of equipment in a document. -/
def toJson (p : EquipmentProfile) : Json :=
  .object
    [("id", .text p.id), ("description", .ofOption .text p.description),
      ("schedule", .ofOption WorkSchedule.toJson p.schedule),
      ("design_speeds",
        .object (p.designSpeeds.toList.map fun (material, speed) => (material, speed.toJson)))]

/-- Reads a piece of equipment. -/
def ofJson? : Read EquipmentProfile := fun j => do
  let fields ← Json.fields? ["id", "description", "schedule", "design_speeds"] j
  let id ← fields.required "id" asText
  let description ← fields.optional "description" asText
  let schedule ← fields.optional "schedule" WorkSchedule.ofJson?
  let designSpeeds ← fields.withDefault "design_speeds" designSpeedsOfJson? ∅
  return { id, description, schedule, designSpeeds }

end EquipmentProfile

namespace PlantConfig

/-- A configuration in a document. -/
def toJson (c : PlantConfig) : Json :=
  .object
    [("name", .text c.name), ("equipment", .array (c.equipment.map EquipmentProfile.toJson)),
      ("reasons", .array (c.reasons.map Reason.toJson))]

/-- Reads a configuration. -/
def ofJson? : Read PlantConfig := fun j => do
  let fields ← Json.fields? ["name", "equipment", "reasons"] j
  let name ← fields.withDefault "name" asText ""
  let equipment ← fields.withDefault "equipment" (asList EquipmentProfile.ofJson?) []
  let reasons ← fields.withDefault "reasons" (asList Reason.ofJson?) []
  return { name, equipment, reasons }

end PlantConfig

namespace Plant

/-- The plant that a document describes. -/
def ofText (text : String) : Except ConfigError Plant :=
  match (Json.read? text).bind PlantConfig.ofJson? with
  | some config => ofConfig config
  | none => .error .malformed

/-- The text of a file at a path. -/
def readText (files : Files) (path : String) : Except ConfigError String :=
  match files.entry path with
  | .error fault => .error (.fileUnreadable path fault.message)
  | .ok .directory => .error (.fileUnreadable path "Is a directory (os error 21)")
  | .ok (.bytes content) =>
    match Text.ofBytes? content with
    | some text => .ok text
    | none => .error (.fileUnreadable path notText)
  | .ok (.workbook ..) => .error (.fileUnreadable path notText)
where
  notText : String := "stream did not contain valid UTF-8"

/-- The plant that the file at a path describes. -/
def load (files : Files) (path : String) : Except ConfigError Plant := do
  ofText (← readText files path)

end Plant

/-! ## The default path -/

/-- A path inside a directory. -/
def joinPath (directory name : String) : String :=
  if directory.endsWith "/" then directory ++ name else directory ++ "/" ++ name

/-- The directory of the user's configuration, given the environment: the one that is set for it if
its path is absolute, or else one inside the home directory. -/
def configDirectory? (environment : String → Option String) : Option String :=
  match (environment "XDG_CONFIG_HOME").filter (·.startsWith "/") with
  | some directory => some directory
  | none =>
    ((environment "HOME").filter (!·.isEmpty)).map fun home => joinPath home ".config"

/-- The path of the configuration when none is given: the one that the environment names, or one in
the user's configuration, or one in the working directory. -/
def defaultConfigPath (environment : String → Option String) : String :=
  let named := Text.trim ((environment "OEE_LOSS_CONFIG").getD "")
  if !named.isEmpty then named
  else
    match configDirectory? environment with
    | some directory => joinPath (joinPath directory "oee-loss") "plant.json"
    | none => "./plant.json"

end LossCascade
