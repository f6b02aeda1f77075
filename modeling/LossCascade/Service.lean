import LossCascade.Aggregation
import LossCascade.Import
import LossCascade.Report
import LossCascade.Store

/-!
# The loss service

A service joins a plant with a store of records: it imports files into the store and answers
requests for waterfalls and reports. An import that fails leaves the store as it was.
-/

namespace LossCascade

/-! ## Errors -/

/-- Why a request makes no sense. -/
inductive InputError where
  | emptyEquipment
  | invertedWindow (window : Window)
deriving DecidableEq

/-- Why the service cannot do what it is asked for. -/
inductive ServiceError where
  | invalidInput (error : InputError)
  | config (error : ConfigError)
  | importing (error : ImportError)
  | loss (error : LossError)
deriving DecidableEq

/-- The message about a request. -/
def InputError.message : InputError → String
  | emptyEquipment => "设备标识不能为空"
  | invertedWindow window =>
    "时间窗口无效: from=" ++ window.start.text ++ " 晚于 to=" ++ window.stop.text

namespace ServiceError

/-- The message of a service error. -/
def message : ServiceError → String
  | invalidInput error => "无效输入: " ++ error.message
  | config error => "配置错误: " ++ error.message
  | importing error => "文件导入失败: " ++ error.message
  | loss error => "损失计算失败: " ++ error.message

/-- The messages of a service error and of the error behind it, if there is one. -/
def chain (error : ServiceError) : List String :=
  error.message ::
    match error with
    | invalidInput _ => []
    | config inner => [inner.message]
    | importing inner => [inner.message]
    | loss inner => [inner.message]

end ServiceError

/-! ## The service -/

/-- A plant and the records of its equipment. -/
structure Service where
  plant : Plant
  store : Store := Store.empty
  /-- Whether the journal takes the end of a calculation. -/
  journalsEnd : Bool := false

namespace Service

/-- What the service knows about the equipment. -/
def collaborators (s : Service) : Collaborators where
  schedule? equipment := (s.plant.schedule? equipment).map WorkSchedule.nonWorking?
  availability equipment window := .ok (s.store.fetchAvailability equipment window)
  production equipment window := .ok (s.store.fetchProduction equipment window)
  designSpeed? := s.plant.designSpeed?
  journalsEnd := s.journalsEnd

/-- The records of a pair of files, both or neither. -/
def readSummaries (s : Service) (files : Files) (availabilityPath productionPath : String) :
    Except ImportError (List AvailabilitySummary × List ProductionSummary) := do
  let availability ← s.plant.importAvailability files availabilityPath
  let production ← importProduction files productionPath
  return (availability, production)

/-- Imports a pair of files for a piece of equipment. Yields the service afterwards and the numbers
of records. -/
def importSummaries (s : Service) (files : Files)
    (equipment availabilityPath productionPath : String) :
    Service × Except ServiceError (Nat × Nat) :=
  match s.readSummaries files availabilityPath productionPath with
  | .error e => (s, .error (.importing e))
  | .ok (availability, production) =>
    let store := s.store.insertAvailability equipment availability
    ({ s with store := store.insertProduction equipment production },
      .ok (availability.length, production.length))

/-- The waterfall of a request that names equipment and does not end before it starts. -/
def computeLoss (s : Service) (request : LossRequest) : Attempt ServiceError Waterfall :=
  if (Text.trim request.equipment).isEmpty then
    .error (.error (.invalidInput .emptyEquipment))
  else if request.window.stop < request.window.start then
    .error (.error (.invalidInput (.invertedWindow request.window)))
  else (s.collaborators.computeLoss request).mapCause .loss

/-- The report of a request under an identifier. -/
def lossReport (s : Service) (request : LossRequest) (id : String) :
    Attempt ServiceError LossReport := do
  let w ← s.computeLoss request
  Attempt.mapCause .loss (w.report id)

end Service

end LossCascade
