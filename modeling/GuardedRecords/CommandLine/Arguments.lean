import GuardedRecords.Text.Quoted
import GuardedRecords.Text.Similarity
import GuardedRecords.Text.Split

namespace GuardedRecords

/-- An option of a command. -/
structure OptionForm where
  name : String
  takesValue : Bool := false

/-- What the arguments of a command may be. Where options may not follow other arguments, the
first of these ends the options. -/
structure CommandForm where
  path : String
  synopsis : String
  options : List OptionForm
  optionsAnywhere : Bool := true
  help : List String

def helpOption : OptionForm := { name := "--help" }

/-- How the arguments of a command are wrong. -/
inductive UsageFault
  | noSuchOption (name : String) (similar : List String)
  | takesNoValue (option : String)
  | needsValue (option : String)
  | badNumber (option text : String)
  | missingCommand
  | noSuchCommand (name : String) (similar : List String)
  | missingArgument (name : String)
  | extraArguments (arguments : List String)
  | noFile (argument path : String)
  | isDirectory (argument path : String)

/-- The question whether one of the similar names was meant. -/
def suggestion : List String → String
  | [] => ""
  | [name] => " Did you mean " ++ quoted name ++ "?"
  | names => " (Did you mean one of: " ++ ", ".intercalate (names.map quoted) ++ "?)"

def UsageFault.message : UsageFault → String
  | .noSuchOption name similar => "No such option " ++ quoted name ++ "." ++ suggestion similar
  | .takesNoValue option => s!"Option '{option}' does not take a value."
  | .needsValue option => s!"Option '{option}' requires an argument."
  | .badNumber option text =>
    s!"Invalid value for '{option}': " ++ quoted text ++ " is not a valid integer."
  | .missingCommand => "Missing command."
  | .noSuchCommand name similar => "No such command " ++ quoted name ++ "." ++ suggestion similar
  | .missingArgument name => s!"Missing argument '{name}'."
  | .extraArguments [argument] => s!"Got unexpected extra argument ({argument})"
  | .extraArguments arguments =>
    "Got unexpected extra arguments (" ++ " ".intercalate arguments ++ ")"
  | .noFile argument path =>
    s!"Invalid value for '{argument}': File " ++ quoted path ++ " does not exist."
  | .isDirectory argument path =>
    s!"Invalid value for '{argument}': File " ++ quoted path ++ " is a directory."

/-- Whether a fault is only one of how an option is written, whatever the command. -/
def UsageFault.concernsOptionOnly : UsageFault → Bool
  | .takesNoValue _ | .needsValue _ => true
  | _ => false

def CommandForm.usage (form : CommandForm) : String := s!"Usage: {form.path} {form.synopsis}"

/-- The report of a fault: how the command is used, where help is found, what is wrong. For an
option without its value, or with a value that it does not take, only the last is told. -/
def CommandForm.report (form : CommandForm) (fault : UsageFault) : String :=
  let guidance :=
    if fault.concernsOptionOnly then ""
    else form.usage ++ s!"\nTry '{form.path} --help' for help.\n\n"
  guidance ++ "Error: " ++ fault.message ++ "\n"

def CommandForm.helpText (form : CommandForm) : String :=
  "\n".intercalate (form.usage :: "" :: form.help) ++ "\n"

/-- The options that are set, with their values, and the other arguments. -/
structure Arguments where
  options : List (String × String) := []
  others : List String := []

/-- The option that an argument sets, with the value behind its `=` if there is one. -/
def CommandForm.option (form : CommandForm) (argument : String) :
    Except UsageFault (OptionForm × Option String) :=
  let (name, value) := cut '=' argument.toList
  let hasValue := argument.toList.contains '='
  let written := String.ofList name
  match form.options.find? fun o => o.name == written, name with
  | some o, _ =>
    if !hasValue then .ok (o, none)
    else if o.takesValue then .ok (o, some (String.ofList value))
    else .error (.takesNoValue o.name)
  | none, '-' :: '-' :: _ =>
    .error (.noSuchOption written (closeNames (form.options.map OptionForm.name) written))
  | none, _ => .error (.noSuchOption (String.ofList (argument.toList.take 2)) [])

/-- Whether an argument has the looks of an option. -/
def looksLikeOption (argument : String) : Bool :=
  match argument.toList with
  | '-' :: _ :: _ => true
  | _ => false

/-- Reads arguments; `waiting` is the option whose value comes next. All arguments after a
double dash are taken as they are. -/
def CommandForm.read (form : CommandForm) (waiting : Option String) :
    List String → Except UsageFault Arguments
  | [] =>
    match waiting with
    | some name => .error (.needsValue name)
    | none => .ok {}
  | argument :: rest =>
    let set (name value : String) : Except UsageFault Arguments :=
      (form.read none rest).map fun more => { more with options := (name, value) :: more.options }
    match waiting with
    | some name => set name argument
    | none =>
      if argument = "--" then .ok { others := rest }
      else if looksLikeOption argument then
        match form.option argument with
        | .error fault => .error fault
        | .ok (option, some value) => set option.name value
        | .ok (option, none) =>
          if option.takesValue then form.read (some option.name) rest else set option.name ""
      else if form.optionsAnywhere then
        (form.read none rest).map fun more => { more with others := argument :: more.others }
      else .ok { others := argument :: rest }

/-- The first option among those that are set before anything else is looked at. -/
def Arguments.firstOf (arguments : Arguments) (names : List String) : Option String :=
  (arguments.options.map Prod.fst).find? names.contains

/-- The value of an option; of several the last one counts. -/
def Arguments.value? (arguments : Arguments) (name : String) : Option String :=
  (arguments.options.reverse).lookup name

end GuardedRecords
