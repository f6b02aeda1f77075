import LossCascade.Aggregation
import LossCascade.Document.Plant
import LossCascade.Json.Basic
import LossCascade.Service

/-!
# The journal

Loading, importing and calculating are accompanied by events. What is reported is a function of the
same inputs as the work itself. Each event has a level, the part of the program that reports it, a
message and further fields.
-/

namespace LossCascade

/-- How important an event is; the most important level comes first. -/
inductive Level where
  | error
  | warn
  | info
  | debug
  | trace
deriving DecidableEq, Repr

/-- The place of a level in the order of importance. -/
def Level.rank : Level → Nat
  | error => 1
  | warn => 2
  | info => 3
  | debug => 4
  | trace => 5

/-- The name of a level. -/
def Level.name : Level → String
  | error => "ERROR"
  | warn => "WARN"
  | info => "INFO"
  | debug => "DEBUG"
  | trace => "TRACE"

/-- Something worth reporting. -/
inductive Event where
  | programStarted (version : String)
  | configLoading (path : String)
  | configLoaded (equipmentCount reasonCount : Nat)
  | availabilityImported (path : String) (count : Nat)
  | productionImported (path : String) (count : Nat)
  | summariesStored (equipment : String) (availabilityCount productionCount : Nat)
  | calculationStarted (request : LossRequest)
  | availabilityFetched (count : Nat)
  | reducedSpeedIgnored (reason : String) (startTime : Timestamp)
  | designSpeedFound (speed : Quantity Float)
  | productionFetched (count : Nat)
  | reducedSpeedNegative (equipment : String) (seconds : Int)
  | calculationFinished (equipment : String) (availabilityCount productionCount : Nat)
      (availableSeconds : Int) (oee : Float)

namespace Event

/-- The level of an event. -/
def level : Event → Level
  | configLoaded .. | availabilityFetched _ | designSpeedFound _ | productionFetched _ => .debug
  | reducedSpeedIgnored .. | reducedSpeedNegative .. => .warn
  | _ => .info

/-- The part of the program that reports an event. -/
def target : Event → String
  | programStarted _ => "oee_loss"
  | configLoading _ | configLoaded .. => "oee_loss::config::config_manager"
  | availabilityImported .. | productionImported .. => "oee_loss::importer::summary_importer"
  | summariesStored .. => "oee_loss::api::loss_api"
  | _ => "oee_loss::engine::loss_aggregator"

/-- The message of an event. -/
def message : Event → String
  | programStarted version => "设备时间损失分析 v" ++ version
  | configLoading _ => "加载工厂配置"
  | configLoaded .. => "工厂配置已加载"
  | availabilityImported .. => "可用性汇总导入完成"
  | productionImported .. => "产量汇总导入完成"
  | summariesStored .. => "汇总文件已写入仓储"
  | calculationStarted _ => "开始计算设备时间损失"
  | availabilityFetched _ => "读取可用性汇总"
  | reducedSpeedIgnored .. => "忽略直接标记为降速损失的可用性记录"
  | designSpeedFound _ => "设计速度已确定"
  | productionFetched _ => "读取产量汇总"
  | reducedSpeedNegative .. => "降速损失为负: 良品折算时间超过净生产时间"
  | calculationFinished .. => "设备时间损失计算完成"

/-- The further fields of an event. -/
def details : Event → List (String × Json)
  | programStarted _ => []
  | configLoading path => [("path", .text path)]
  | configLoaded equipmentCount reasonCount =>
    [("equipment_count", .int equipmentCount), ("reason_count", .int reasonCount)]
  | availabilityImported path count | productionImported path count =>
    [("path", .text path), ("count", .int count)]
  | summariesStored equipment availabilityCount productionCount =>
    [("equipment", .text equipment), ("availability_count", .int availabilityCount),
      ("production_count", .int productionCount)]
  | calculationStarted request =>
    [("equipment", .text request.equipment), ("material", .text request.material),
      ("from", .text request.window.start.text), ("to", .text request.window.stop.text)]
  | availabilityFetched count | productionFetched count => [("count", .int count)]
  | reducedSpeedIgnored reason startTime =>
    [("reason", .text reason), ("start_time", .text startTime.text)]
  | designSpeedFound speed => [("design_speed", .text speed.text)]
  | reducedSpeedNegative equipment seconds =>
    [("equipment", .text equipment), ("reduced_speed_secs", .int seconds)]
  | calculationFinished equipment availabilityCount productionCount availableSeconds oee =>
    [("equipment", .text equipment), ("availability_records", .int availabilityCount),
      ("production_records", .int productionCount), ("available_secs", .int availableSeconds),
      ("oee", .float oee)]

/-- The message and the further fields of an event. -/
def fields (e : Event) : List (String × Json) :=
  ("message", .text e.message) :: e.details

end Event

/-! ## What is reported -/

/-- The events of loading a plant from a file. -/
def Plant.loadEvents (files : Files) (path : String) : List Event :=
  match Plant.readText files path with
  | .error _ => []
  | .ok text =>
    match Plant.ofText text with
    | .error _ => [.configLoading path]
    | .ok plant =>
      [.configLoading path,
        .configLoaded plant.config.equipment.length plant.config.reasons.length]

/-- The events of importing a pair of files. -/
def Service.importEvents (s : Service) (files : Files)
    (equipment availabilityPath productionPath : String) : List Event :=
  match s.plant.importAvailability files availabilityPath with
  | .error _ => []
  | .ok availability =>
    .availabilityImported availabilityPath availability.length ::
      match importProduction files productionPath with
      | .error _ => []
      | .ok production =>
        [.productionImported productionPath production.length,
          .summariesStored equipment availability.length production.length]

namespace Collaborators

/-- The events of availability records whose category is not recorded but worked out. -/
def ignoredEvents (records : List AvailabilitySummary) : List Event :=
  (records.filter fun s => s.loss = .reducedSpeed).map fun s =>
    .reducedSpeedIgnored s.reason.name s.startTime

/-- The event of a waterfall whose records account for more time than there was. As long as the rest
is not worked out there is none. -/
def residualEvents (w : Waterfall) : List Event :=
  let residual := w.loss .reducedSpeed
  if residual < Duration.zero then [.reducedSpeedNegative w.equipment residual.seconds] else []

/-- The event of a filled waterfall, if its figures are in range. -/
def endEvents (w : Waterfall) (availabilityCount productionCount : Nat) : List Event :=
  match w.endFigures? with
  | some (availableSeconds, oee) =>
    [.calculationFinished w.equipment availabilityCount productionCount availableSeconds oee]
  | none => []

/-- The events of a calculation, up to where it ends. -/
def events (c : Collaborators) (request : LossRequest) : List Event :=
  let empty := Waterfall.empty request.equipment request.material c.arithmetic
  .calculationStarted request ::
    match c.schedule? request.equipment, c.availability request.equipment request.window with
    | some _, .ok availability =>
      .availabilityFetched availability.length :: ignoredEvents availability ++
        match c.designSpeed? request.equipment request.material with
        | none => []
        | some speed =>
          .designSpeedFound speed ::
            match c.production request.equipment request.window with
            | .error _ => []
            | .ok production =>
              .productionFetched production.length ::
                match (c.fill request).run empty with
                | .ok () w =>
                  residualEvents w ++ endEvents w availability.length production.length
                | .error _ w => residualEvents w
    | _, _ => []

end Collaborators

/-- The events of a request to the service. A request that makes no sense starts no calculation. -/
def Service.lossEvents (s : Service) (request : LossRequest) : List Event :=
  match s.computeLoss request with
  | .error (.error (.invalidInput _)) => []
  | _ => s.collaborators.events request

end LossCascade
