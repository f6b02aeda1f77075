import LossCascade.Schedule.WorkSchedule
import LossCascade.Summary
import LossCascade.Time.Notation
import Std.Data.TreeMap
import Std.Data.TreeSet

/-!
# Plant configuration

A plant configuration lists the equipment of a plant, with work schedules and design speeds, and a
catalogue of reasons. Going through the equipment one piece after the other, tables are filled from
which the plant answers later. The first thing that is wrong ends this.
-/

namespace LossCascade

/-! ## The configuration -/

/-- A piece of equipment; its design speeds are kept by material. -/
structure EquipmentProfile where
  id : String
  description : Option String := none
  schedule : Option WorkSchedule := none
  designSpeeds : Std.TreeMap String (Quantity Float) := ∅

/-- A plant with its equipment and its catalogue of reasons. -/
structure PlantConfig where
  name : String := ""
  equipment : List EquipmentProfile := []
  reasons : List Reason := []

namespace EquipmentProfile

/-- The profile with a schedule. -/
def withSchedule (p : EquipmentProfile) (schedule : WorkSchedule) : EquipmentProfile :=
  { p with schedule := some schedule }

/-- The profile with a design speed for a material, in place of an earlier one. -/
def withDesignSpeed (p : EquipmentProfile) (material : String) (speed : Quantity Float) :
    EquipmentProfile :=
  { p with designSpeeds := p.designSpeeds.insert material speed }

end EquipmentProfile

/-! ## Errors -/

/-- What is wrong with a schedule. -/
inductive ScheduleFault where
  /-- A shift has a length that is not allowed. -/
  | shiftLength (shift : String) (minutes : Int)
  /-- A period ends before it starts. -/
  | inverted (period : String) (start stop : LocalTime)
deriving DecidableEq

/-- Why a configuration cannot be used. -/
inductive ConfigError where
  | fileUnreadable (path reason : String)
  | malformed
  | duplicateEquipment (id : String)
  | invalidSchedule (equipment : String) (fault : ScheduleFault)
  | invalidDesignSpeed (equipment material unit : String)
deriving DecidableEq

/-- The message about a schedule. -/
def ScheduleFault.message : ScheduleFault → String
  | shiftLength shift minutes =>
    "班次 " ++ shift ++ " 时长 " ++ toString minutes ++ " 分钟超出范围 (1..="
      ++ toString Shift.maxMinutes ++ ")"
  | inverted period start stop =>
    "非工作时段 " ++ period ++ " 结束时间 " ++ stop.text ++ " 早于开始时间 " ++ start.text

/-- The message of a configuration error. -/
def ConfigError.message : ConfigError → String
  | fileUnreadable path reason => "配置文件读取失败 (" ++ path ++ "): " ++ reason
  | malformed => "配置解析失败:"
  | duplicateEquipment id => "设备重复定义: " ++ id
  | invalidSchedule equipment fault =>
    "工作日历无效 (equipment=" ++ equipment ++ "): " ++ fault.message
  | invalidDesignSpeed equipment material unit =>
    "设计速度单位不是速率 (equipment=" ++ equipment ++ ", material=" ++ material ++ "): " ++ unit

/-! ## Checks -/

/-- Refuses a shift that has no length or one that is too great. -/
def Shift.check (shift : Shift) : Except ScheduleFault Unit :=
  if shift.durationMinutes ≤ 0 ∨ Shift.maxMinutes < shift.durationMinutes then
    .error (.shiftLength shift.name shift.durationMinutes)
  else .ok ()

/-- Refuses a period that ends before it starts. -/
def NonWorkingPeriod.check (period : NonWorkingPeriod) : Except ScheduleFault Unit :=
  if period.stop < period.start then .error (.inverted period.name period.start period.stop)
  else .ok ()

/-- Refuses a schedule for the first of its shifts that is wrong, then for the first of its
periods. -/
def WorkSchedule.check (s : WorkSchedule) : Except ScheduleFault Unit := do
  s.shifts.forM Shift.check
  s.nonWorkingPeriods.forM NonWorkingPeriod.check

/-- Whether a unit is one of material per time. -/
def MeasureUnit.isRate : MeasureUnit → Bool
  | rate _ _ => true
  | _ => false

/-! ## Tables -/

/-- The order of pairs of equipment and material: by the equipment, then by the material. -/
abbrev comparePairs : String × String → String × String → Ordering :=
  compareLex (compareOn Prod.fst) (compareOn Prod.snd)

/-- What is gathered from the equipment. -/
structure EquipmentTables where
  /-- The identifiers that occurred. -/
  seen : Std.TreeSet String := ∅
  schedules : Std.TreeMap String WorkSchedule := ∅
  /-- The design speeds by equipment and material. -/
  designSpeeds : Std.TreeMap (String × String) (Quantity Float) comparePairs := ∅

namespace EquipmentTables

/-- Takes in the schedule of a piece of equipment, if it has one. -/
def addSchedule (tables : EquipmentTables) (p : EquipmentProfile) :
    Except ConfigError EquipmentTables :=
  match p.schedule with
  | none => .ok tables
  | some schedule => do
    schedule.check.mapError (.invalidSchedule p.id)
    return { tables with schedules := tables.schedules.insert p.id schedule }

/-- Takes in the design speed of a piece of equipment for a material, which has to be a rate. -/
def addDesignSpeed (equipment : String) (tables : EquipmentTables) :
    String × Quantity Float → Except ConfigError EquipmentTables
  | (material, speed) =>
    if speed.unit.isRate then
      .ok { tables with designSpeeds := tables.designSpeeds.insert (equipment, material) speed }
    else .error (.invalidDesignSpeed equipment material speed.unit.symbol)

/-- Takes in a piece of equipment: its identifier, its schedule, then its design speeds in the order
of the materials. -/
def addProfile (tables : EquipmentTables) (p : EquipmentProfile) :
    Except ConfigError EquipmentTables :=
  if tables.seen.contains p.id then .error (.duplicateEquipment p.id)
  else do
    let tables ← addSchedule { tables with seen := tables.seen.insert p.id } p
    p.designSpeeds.toList.foldlM (addDesignSpeed p.id) tables

/-- The tables of some equipment, or the first thing that is wrong with it. -/
def ofEquipment (equipment : List EquipmentProfile) : Except ConfigError EquipmentTables :=
  equipment.foldlM addProfile {}

end EquipmentTables

/-- The form in which names of reasons are compared. -/
def Reason.key (name : String) : String :=
  Text.upper (Text.trim name)

/-- The reasons by their keys. Of several reasons with one key the last stays. -/
def Reason.table (reasons : List Reason) : Std.TreeMap String Reason :=
  reasons.foldl (fun table reason => table.insert (Reason.key reason.name) reason) ∅

/-! ## Plants -/

/-- A configuration that nothing is wrong with, and the tables that are filled from it. -/
structure Plant where
  config : PlantConfig
  tables : EquipmentTables
  reasons : Std.TreeMap String Reason
  filled : EquipmentTables.ofEquipment config.equipment = .ok tables
  catalogued : reasons = Reason.table config.reasons

namespace Plant

/-- The plant of a configuration, or the first thing that is wrong with it. -/
def ofConfig (config : PlantConfig) : Except ConfigError Plant :=
  match h : EquipmentTables.ofEquipment config.equipment with
  | .error e => .error e
  | .ok tables => .ok ⟨config, tables, Reason.table config.reasons, h, rfl⟩

/-- The work schedule of a piece of equipment. -/
def schedule? (plant : Plant) (equipment : String) : Option WorkSchedule :=
  plant.tables.schedules[equipment]?

/-- The design speed of a piece of equipment for a material. -/
def designSpeed? (plant : Plant) (equipment material : String) : Option (Quantity Float) :=
  plant.tables.designSpeeds[(equipment, material)]?

/-- The reason of a name, compared without regard to case and blanks around it. -/
def reason? (plant : Plant) (name : String) : Option Reason :=
  plant.reasons[Reason.key name]?

/-- The identifiers of the equipment. -/
def equipmentIds (plant : Plant) : List String :=
  plant.config.equipment.map (·.id)

end Plant

end LossCascade
