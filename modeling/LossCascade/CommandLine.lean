import LossCascade.Document.Plant
import LossCascade.Document.Report
import LossCascade.Journal.Filter
import LossCascade.Json.Writer

/-!
# The command line

The program imports a pair of files for one piece of equipment, and writes the report of one window.
A run is a function of the arguments, the environment and the files. What goes wrong is told in
general terms, followed by its causes.
-/

namespace LossCascade.CommandLine

/-- The version of the program. -/
def version : String := "0.1.0"

/-- How the program is used. -/
def usage : String :=
  "用法: oee-loss <availability> <production> <equipment> <material> <from> <to> [config.json]"

/-- What a run is given. -/
structure Invocation where
  arguments : List String
  environment : String → Option String
  files : Files
  /-- The identifier of the report. -/
  reportId : String

/-- What is told about a run that does not succeed. -/
structure Complaint where
  message : String
  causes : List String := []
deriving DecidableEq, Repr

/-- Why a run does not succeed: it has something to complain about, or the program ends because a
calculation leaves its range or the journal has no filter. -/
abbrev RunFailure := Failure Complaint

/-- What the arguments ask for. -/
structure Order where
  availabilityPath : String
  productionPath : String
  request : LossRequest
  configPath : String

/-- Reads the arguments. The time arguments are read without the blanks around them, and so are the
equipment and the material. -/
def readOrder (i : Invocation) : Except Complaint Order :=
  match i.arguments with
  | availabilityPath :: productionPath :: equipment :: material :: start :: stop :: more =>
    match Time.readTimestamp? (Text.trim start), Time.readTimestamp? (Text.trim stop) with
    | none, _ => .error { message := "起始时间格式错误: " ++ start }
    | _, none => .error { message := "结束时间格式错误: " ++ stop }
    | some start, some stop =>
      .ok {
        availabilityPath, productionPath
        request := ⟨Text.trim equipment, Text.trim material, ⟨start, stop⟩⟩
        configPath := more.headD (defaultConfigPath i.environment) }
  | _ => .error { message := "参数不足\n" ++ usage }

/-- The service after loading the plant and importing the files. -/
def openService (filter : Filter) (files : Files) (order : Order) : Except Complaint Service := do
  let plant ← (Plant.load files order.configPath).mapError fun e =>
    { message := "无法加载配置: " ++ order.configPath, causes := [e.message] }
  let service : Service := { plant, journalsEnd := filter.takesEnd }
  let (service, outcome) :=
    service.importSummaries files order.request.equipment order.availabilityPath
      order.productionPath
  let _ ← outcome.mapError fun e => { message := "汇总文件导入失败", causes := e.chain }
  return service

/-- The filter of the journal that the environment asks for. -/
def filter? (i : Invocation) : Option Filter :=
  match i.environment "RUST_LOG" with
  | some text => Filter.read? text
  | none => some Filter.default

/-- The report that the arguments ask for. -/
def run (i : Invocation) : Except RunFailure LossReport := do
  let filter ← Attempt.inRange (filter? i)
  let order ← Attempt.ofExcept (readOrder i)
  let service ← Attempt.ofExcept (openService filter i.files order)
  (service.lossReport order.request i.reportId).mapCause fun e =>
    { message := "损失计算失败", causes := e.chain }

/-- The events of a run whose journal has a filter. -/
def events (filter : Filter) (i : Invocation) : List Event :=
  match readOrder i with
  | .error _ => []
  | .ok order =>
    .programStarted version :: Plant.loadEvents i.files order.configPath ++
      match Plant.load i.files order.configPath with
      | .error _ => []
      | .ok plant =>
        let service : Service := { plant }
        service.importEvents i.files order.request.equipment order.availabilityPath
            order.productionPath ++
          match openService filter i.files order with
          | .error _ => []
          | .ok service => service.lossEvents order.request

/-! ## The journal -/

/-- The events of a run that its filter lets through. -/
def reported (i : Invocation) : List Event :=
  match filter? i with
  | some filter => filter.select (events filter i)
  | none => []

/-- An event as a document. -/
def eventToJson (e : Event) : Json :=
  .object
    [("level", .text e.level.name), ("fields", .object e.fields), ("target", .text e.target)]

/-- An event as plain text. -/
def eventText (e : Event) : String :=
  let details := e.details.map fun (name, value) => " " ++ name ++ "=" ++ value.compact
  e.level.name ++ " " ++ e.target ++ ": " ++ e.message ++ String.join details

/-- The lines of the journal of a run: the reported events, as documents if the environment asks for
them. -/
def journal (i : Invocation) : List String :=
  let format := (i.environment "OEE_LOSS_LOG_FORMAT").getD ""
  let line (e : Event) : String :=
    if String.ofList (format.toList.map Char.toLower) == "json" then (eventToJson e).compact
    else eventText e
  (reported i).map line

/-! ## Output -/

/-- What a run leaves behind. -/
structure Output where
  exitCode : Nat
  standardOutput : String
  complaint : Option Complaint

/-- The output of a run: the report in full, or what there is to complain about. -/
def output (i : Invocation) : Output :=
  match run i with
  | .ok report => ⟨0, report.toJson.pretty ++ "\n", none⟩
  | .error (.error complaint) => ⟨1, "", some complaint⟩
  | .error .outOfRange => ⟨101, "", none⟩

/-- A text whose lines but the first begin with blanks. -/
def hanging (indent : Nat) (s : String) : String :=
  ("\n" ++ String.ofList (List.replicate indent ' ')).intercalate (Text.split '\n' s)

/-- A number with blanks in front up to five characters. -/
def numbering (n : Nat) : String :=
  let digits := toString n
  String.ofList (List.replicate (5 - digits.length) ' ') ++ digits ++ ": "

/-- A complaint with its causes, which are indented, and numbered if there are several. -/
def Complaint.text (c : Complaint) : String :=
  let heading := "Error: " ++ c.message
  let lines : List String :=
    match c.causes with
    | [cause] => ["    " ++ hanging 4 cause]
    | causes => causes.zipIdx.map fun (cause, n) => numbering n ++ hanging 7 cause
  if lines.isEmpty then heading
  else heading ++ "\n\nCaused by:\n" ++ "\n".intercalate lines

end LossCascade.CommandLine
