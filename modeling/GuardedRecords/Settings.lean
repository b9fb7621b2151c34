import GuardedRecords.Settings.Reading

namespace GuardedRecords

/-- Where the program runs. -/
inductive Environment
  | development | production | testing
  deriving DecidableEq

def environments : List (String × Environment) :=
  [("development", .development), ("production", .production), ("testing", .testing)]

/-- From which weight on events are logged. -/
inductive LogLevel
  | debug | info | warning | error | critical
  deriving DecidableEq

def logLevels : List (String × LogLevel) :=
  [("DEBUG", .debug), ("INFO", .info), ("WARNING", .warning), ("ERROR", .error),
    ("CRITICAL", .critical)]

inductive LogFormat
  | json | console
  deriving DecidableEq

def logFormats : List (String × LogFormat) := [("json", .json), ("console", .console)]

/-- The name of a choice. -/
def choiceName {α : Type} [BEq α] (choices : List (String × α)) (choice : α) : String :=
  ((choices.find? fun entry => entry.2 == choice).map Prod.fst).getD ""

/-- The settings of the program, each with the value it has when nothing is said about it. -/
structure Settings where
  appName : String := "PracticeBase"
  appVersion : String := "0.1.0"
  environment : Environment := .development
  debug : Bool := false
  host : String := "0.0.0.0"
  portNumber : Int := 3030
  corsOrigins : List String := ["*"]
  corsAllowMethods : List String := ["GET", "POST", "PUT", "PATCH", "DELETE", "OPTIONS"]
  corsAllowHeaders : List String := ["*"]
  logLevel : LogLevel := .info
  logFormat : LogFormat := .console
  logFile : Option String := none
  seedDataPath : Option String := none
  protectedDataPath : Option String := none
  rulesPath : Option String := none
  maxIdAttempts : Int := 100
  defaultPageSize : Int := 10
  identityField : String := "email"
  authHeader : String := "X-Authorization"
  adminHeader : String := "X-Admin"
  throttleEnabled : Bool := false

/-- A flaw of the setting of that name. -/
structure SettingFault where
  name : String
  place : PlacedFlaw

/-- The setting of a name; where it has a flaw, the flaw is noted and the default stands in. -/
def setting {α : Type} (given : Record) (name : String) (default : α)
    (read : Value → SettingReading α) : StateM (List SettingFault) α := fun faults =>
  match given.lookup? name with
  | none => (default, faults)
  | some value =>
    match read value with
    | .ok a => (a, faults)
    | .error flaws => (default, faults ++ flaws.map fun flaw => ⟨name, flaw⟩)

/-- The settings that a record gives. Names without a setting are passed over. -/
def Settings.collect (given : Record) : StateM (List SettingFault) Settings := do
  let base : Settings := {}
  return {
    appName := ← setting given "app_name" base.appName readTextSetting
    appVersion := ← setting given "app_version" base.appVersion readTextSetting
    environment := ← setting given "environment" base.environment (readChoiceSetting environments)
    debug := ← setting given "debug" base.debug readBooleanSetting
    host := ← setting given "host" base.host readTextSetting
    portNumber := ← setting given "port" base.portNumber readIntegerSetting
    corsOrigins := ← setting given "cors_origins" base.corsOrigins readTextsOrLineSetting
    corsAllowMethods := ← setting given "cors_allow_methods" base.corsAllowMethods readTextsSetting
    corsAllowHeaders := ← setting given "cors_allow_headers" base.corsAllowHeaders readTextsSetting
    logLevel := ← setting given "log_level" base.logLevel (readChoiceSetting logLevels)
    logFormat := ← setting given "log_format" base.logFormat (readChoiceSetting logFormats)
    logFile := ← setting given "log_file" base.logFile readOptionalTextSetting
    seedDataPath := ← setting given "seed_data_path" base.seedDataPath readOptionalTextSetting
    protectedDataPath := ← setting given "protected_data_path" base.protectedDataPath readOptionalTextSetting
    rulesPath := ← setting given "rules_path" base.rulesPath readOptionalTextSetting
    maxIdAttempts := ← setting given "max_id_attempts" base.maxIdAttempts readPositiveSetting
    defaultPageSize := ← setting given "default_page_size" base.defaultPageSize readPositiveSetting
    identityField := ← setting given "identity_field" base.identityField readTextSetting
    authHeader := ← setting given "auth_header" base.authHeader readTextSetting
    adminHeader := ← setting given "admin_header" base.adminHeader readTextSetting
    throttleEnabled := ← setting given "throttle_enabled" base.throttleEnabled readBooleanSetting }

/-- Why there are no settings: the text for a list in the environment is no JSON, or values have
flaws. -/
inductive SettingsFailure
  | unreadable (name : String)
  | invalid (faults : List SettingFault)

def SettingsFailure.message : SettingsFailure → String
  | .unreadable name =>
    s!"error parsing value for field \"{name}\" from source \"EnvSettingsSource\""
  | .invalid _ => ""

/-- The names of the settings that are texts, numbers or truth values. -/
def plainSettings : List String :=
  ["app_name", "app_version", "environment", "debug", "host", "port", "log_level", "log_format",
    "log_file", "seed_data_path", "protected_data_path", "rules_path", "max_id_attempts",
    "default_page_size", "identity_field", "auth_header", "admin_header", "throttle_enabled"]

/-- The names of the settings that are lists. -/
def listSettings : List String := ["cors_origins", "cors_allow_methods", "cors_allow_headers"]

/-- The text of the environment for a setting. Case does not matter in the name, and of several
texts the last one counts. -/
def environmentText? (env : Table String) (name : String) : Option String :=
  let wanted := "practicebase_" ++ name
  (env.filter fun entry => lower entry.1 == wanted).getLast?.map Prod.snd

/-- The list settings of the environment, written as JSON; `null` leaves a setting out. -/
def environmentLists (env : Table String) : List String → Except SettingsFailure Record
  | [] => .ok []
  | name :: rest =>
    match environmentText? env name with
    | none => environmentLists env rest
    | some text =>
      match Value.read text with
      | .error _ => .error (.unreadable name)
      | .ok .null => environmentLists env rest
      | .ok value => (environmentLists env rest).map ((name, value) :: ·)

/-- The settings of the environment as they are given. -/
def environmentSettings (env : Table String) : Except SettingsFailure Record := do
  let lists ← environmentLists env listSettings
  let plain := plainSettings.filterMap fun name =>
    (environmentText? env name).map fun text => (name, Value.text text)
  .ok (plain ++ lists)

/-- The given values of settings. Case does not matter in the names, and of several values the
first one counts. -/
def givenSettings (values : Record) : Record :=
  (plainSettings ++ listSettings).filterMap fun name =>
    (values.find? fun entry => lower entry.1 == name).map fun entry => (name, entry.2)

/-- The settings that result from given values and, where these say nothing, from the
environment. -/
def Settings.load (values : Record) (env : Table String) : Except SettingsFailure Settings := do
  let fromEnvironment ← environmentSettings env
  let given := Table.putAll fromEnvironment (givenSettings values)
  let (settings, faults) := (Settings.collect given).run []
  if faults.isEmpty then .ok settings else .error (.invalid faults)

end GuardedRecords
