import GuardedRecords.CommandLine.Arguments
import GuardedRecords.Documents
import GuardedRecords.NumberText
import GuardedRecords.Settings
import GuardedRecords.Text.ControlSequences

namespace GuardedRecords

/-- What a command comes to: a text for the output, a text for the errors after a failure or
after wrong use, an error that nobody foresaw, or the wish to serve requests. -/
inductive CommandResult
  | printed (text : String)
  | failed (text : String)
  | misused (text : String)
  | badDocument (fault : DocumentFault)
  | badSettings (failure : SettingsFailure)
  | serve (host : Option String) (portNumber : Option Int) (reload : Bool)

/-- The exit status of a command. -/
def CommandResult.status : CommandResult → Nat
  | .printed _ | .serve .. => 0
  | .failed _ | .badDocument _ | .badSettings _ => 1
  | .misused _ => 2

/-- A text as it is printed, without control sequences. -/
def printable (text : String) : String := String.ofList (withoutSequences text.toList)

def CommandResult.output : CommandResult → String
  | .printed text => printable text
  | _ => ""

def CommandResult.errors : CommandResult → String
  | .failed text | .misused text => printable text
  | _ => ""

def groupForm : CommandForm where
  path := "practicebase"
  synopsis := "[OPTIONS] COMMAND [ARGS]..."
  options := [{ name := "--version" }, helpOption]
  optionsAnywhere := false
  help := [
    "  PracticeBase - in-memory REST backend for practice front-ends.",
    "",
    "  Settings are read from PRACTICEBASE_* environment variables and .env.",
    "",
    "Options:",
    "  --version  Show the version and exit.",
    "  --help     Show this message and exit.",
    "",
    "Commands:",
    "  check-rules  Parse a rules file and report errors.",
    "  info         Display PracticeBase configuration.",
    "  serve        Start the PracticeBase server."]

def commandNames : List String := ["check-rules", "info", "serve"]

def checkRulesForm : CommandForm where
  path := "practicebase check-rules"
  synopsis := "[OPTIONS] PATH"
  options := [helpOption]
  help := [
    "  Parse a rules file and report errors.",
    "",
    "Options:",
    "  --help  Show this message and exit."]

def infoForm : CommandForm where
  path := "practicebase info"
  synopsis := "[OPTIONS]"
  options := [helpOption]
  help := [
    "  Display PracticeBase configuration.",
    "",
    "Options:",
    "  --help  Show this message and exit."]

def serveForm : CommandForm where
  path := "practicebase serve"
  synopsis := "[OPTIONS]"
  options := [⟨"--host", true⟩, ⟨"--port", true⟩, { name := "--reload" }, helpOption]
  help := [
    "  Start the PracticeBase server.",
    "",
    "  By default, the server runs on 0.0.0.0:3030.",
    "",
    "Options:",
    "  --host TEXT     Host to bind to (overrides config)",
    "  --port INTEGER  Port to bind to (overrides config)",
    "  --reload        Enable auto-reload for development",
    "  --help          Show this message and exit."]

/-- One line of the report on a policy. -/
def collectionLine (name : String) (rules : CollectionRules) : String :=
  let actions := (rules.actions.actions.map Action.name).mergeSort
  let listed := if actions.isEmpty then "-" else ", ".intercalate actions
  s!"  {name}: actions [{listed}], {rules.wildcard.properties.length} property rule(s), " ++
    s!"{rules.records.length} record override(s)"

/-- The report on a policy, with a line for each collection in the order of their names. -/
def policyReport (policy : RuleSet) : String :=
  let sorted := policy.collections.mergeSort fun a b => decide (a.1 ≤ b.1)
  let lines := sorted.map fun entry => collectionLine entry.1 entry.2
  "\n".intercalate (s!"Rules OK: {policy.collections.length} collection(s)" :: lines) ++ "\n"

/-- Reads a policy and reports on it. -/
def checkPolicy (path : String) (content : Bytes) : CommandResult :=
  match (Document.mk path (.ok content)).policy with
  | .ok policy => .printed (policyReport policy)
  | .error fault =>
    if fault.isReported then .failed (s!"Invalid rules in {path}: " ++ fault.message ++ "\n")
    else .badDocument fault

def pathOrBundled (path : Option String) : String :=
  match path with
  | some p => if p.isEmpty then "(bundled)" else p
  | none => "(bundled)"

def Settings.report (s : Settings) : String :=
  let truth (b : Bool) : String := (Value.bool b).display
  "\n".intercalate [
    "",
    s!"PracticeBase v{s.appVersion}",
    "========================================",
    "",
    "Configuration:",
    "  Environment:  " ++ choiceName environments s.environment,
    "  Debug:        " ++ truth s.debug,
    "",
    "Server:",
    "  Host:         " ++ s.host,
    s!"  Port:         {s.portNumber}",
    "  Throttle:     " ++ truth s.throttleEnabled,
    "",
    "Data:",
    "  Seed data:    " ++ pathOrBundled s.seedDataPath,
    "  Protected:    " ++ pathOrBundled s.protectedDataPath,
    "  Rules:        " ++ pathOrBundled s.rulesPath,
    s!"  Page size:    {s.defaultPageSize}",
    "",
    "Identity:",
    "  Field:        " ++ s.identityField,
    "  Token header: " ++ s.authHeader,
    "  Admin header: " ++ s.adminHeader,
    "",
    "Logging:",
    "  Level:        " ++ choiceName logLevels s.logLevel,
    "  Format:       " ++ choiceName logFormats s.logFormat,
    "",
    ""]

/-- Reads the arguments of a command. A request for help goes before everything but faults of
the options. -/
def CommandForm.run (form : CommandForm) (args : List String)
    (act : Arguments → Except UsageFault CommandResult) : CommandResult :=
  match form.read none args with
  | .error fault => .misused (form.report fault)
  | .ok arguments =>
    if (arguments.firstOf ["--help"]).isSome then .printed form.helpText
    else
      match act arguments with
      | .ok result => result
      | .error fault => .misused (form.report fault)

def noOthers (others : List String) : Except UsageFault Unit :=
  if others.isEmpty then .ok () else .error (.extraArguments others)

def runCheckRules (files : Files) (args : List String) : CommandResult :=
  checkRulesForm.run args fun arguments =>
    match arguments.others with
    | [] => .error (.missingArgument "PATH")
    | path :: more =>
      match files path with
      | .error .nullCharacter => .ok (.badDocument (.unreadable path .nullCharacter))
      | .error .isDirectory => .error (.isDirectory "PATH" path)
      | .error _ => .error (.noFile "PATH" path)
      | .ok content => do
        noOthers more
        .ok (checkPolicy path content)

def runInfo (env : Table String) (args : List String) : CommandResult :=
  infoForm.run args fun arguments => do
    noOthers arguments.others
    match Settings.load [] env with
    | .ok settings => .ok (.printed settings.report)
    | .error failure => .ok (.badSettings failure)

def runServe (env : Table String) (args : List String) : CommandResult :=
  serveForm.run args fun arguments => do
    let portNumber ←
      match arguments.value? "--port" with
      | none => .ok none
      | some text =>
        match integerOfNumeral? text with
        | some n => .ok (some n)
        | none => .error (.badNumber "--port" text)
    noOthers arguments.others
    match Settings.load [] env with
    | .error failure => .ok (.badSettings failure)
    | .ok _ =>
      .ok (.serve (arguments.value? "--host") portNumber (arguments.firstOf ["--reload"]).isSome)

/-- The arguments after the options of the program, unless these already settle what to do. -/
def readGroup (args : List String) : Except CommandResult (List String) :=
  match groupForm.read none args with
  | .error fault => .error (.misused (groupForm.report fault))
  | .ok arguments =>
    match arguments.firstOf ["--version", "--help"] with
    | some "--version" => .error (.printed "PracticeBase, version 0.1.0\n")
    | some _ => .error (.printed groupForm.helpText)
    | none => .ok arguments.others

/-- Runs the program with its arguments. A name that is no command and looks like an option is
read as one, even after a double dash. -/
def runProgram (files : Files) (env : Table String) (args : List String) : CommandResult :=
  if args.isEmpty then .misused groupForm.helpText
  else
    match readGroup args with
    | .error result => result
    | .ok [] => .misused (groupForm.report .missingCommand)
    | .ok ("check-rules" :: rest) => runCheckRules files rest
    | .ok ("info" :: rest) => runInfo env rest
    | .ok ("serve" :: rest) => runServe env rest
    | .ok (name :: rest) =>
      match readGroup (name :: rest) with
      | .error result => result
      | .ok _ => .misused (groupForm.report (.noSuchCommand name (closeNames commandNames name)))

end GuardedRecords
