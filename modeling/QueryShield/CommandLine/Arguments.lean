namespace QueryShield.CommandLine

inductive OptionName where
  | config
  | query
  | logLevel
  deriving DecidableEq, Repr

def longNames : List (String × OptionName) :=
  [("config", .config), ("query", .query), ("log-level", .logLevel)]

def shortNames : List (Char × OptionName) := [('c', .config), ('q', .query), ('l', .logLevel)]

structure Options where
  configPath : String
  queryPath : String
  deriving DecidableEq, Repr

/-- The reading of the arguments ends the program with a text that they ask for, or because they are
misused, which is explained in words of its own. -/
inductive Leaving where
  | told (text : String)
  | misused
  deriving DecidableEq, Repr

def helpText : String :=
  "Request-time GraphQL protection policies: depth, cost, alias, directive and size limits plus " ++
  "suggestion masking\n\n" ++
  "Usage: graphql-armor [OPTIONS] --query <QUERY>\n\n" ++
  "Options:\n" ++
  "  -c, --config <CONFIG>        Path to policy file (YAML) [default: armor.yaml]\n" ++
  "  -q, --query <QUERY>          Path to the parsed query document (JSON object, or array for a " ++
  "batch)\n" ++
  "  -l, --log-level <LOG_LEVEL>  Log level (trace, debug, info, warn, error) [default: info]\n" ++
  "  -h, --help                   Print help\n" ++
  "  -V, --version                Print version\n"

def versionText : String := "zentinel-graphql-armor 0.1.0\n"

def told? (argument : String) : Option String :=
  match argument.toList with
  | '-' :: '-' :: name =>
    [("help", helpText), ("version", versionText)].lookup (String.ofList name)
  | '-' :: 'h' :: _ => some helpText
  | '-' :: 'V' :: _ => some versionText
  | _ => none

abbrev Given := List (OptionName × String)

def give (given : Given) (name : OptionName) (value : String) : Except Leaving Given :=
  if (given.lookup name).isSome || (value.isEmpty && name ≠ .logLevel) then .error .misused
  else .ok ((name, value) :: given)

/-- The option that an argument names, and the value in the same argument if there is one. -/
def optionOf? (argument : String) : Option (OptionName × Option String) :=
  match argument.toList with
  | '-' :: '-' :: rest =>
    let name := rest.takeWhile (· != '=')
    (longNames.lookup (String.ofList name)).map fun option =>
      (option, if name.length < rest.length then
        some (String.ofList (rest.drop (name.length + 1))) else none)
  | '-' :: letter :: rest =>
    (shortNames.lookup letter).map fun option =>
      match rest with
      | [] => (option, none)
      | '=' :: value => (option, some (String.ofList value))
      | value => (option, some (String.ofList value))
  | _ => none

def isValue (argument : String) : Bool := argument == "-" || !argument.startsWith "-"

def collect : Given → List String → Except Leaving Given
  | given, [] => .ok given
  | given, ["--"] => .ok given
  | given, argument :: rest =>
    match told? argument, optionOf? argument, rest with
    | some text, _, _ => .error (.told text)
    | none, some (name, some value), rest => do collect (← give given name value) rest
    | none, some (name, none), next :: rest =>
      if isValue next then do collect (← give given name next) rest else .error .misused
    | _, _, _ => .error .misused

def defaultConfigPath : String := "armor.yaml"

def readOptions (arguments : List String) : Except Leaving Options := do
  let given ← collect [] arguments
  match given.lookup .query with
  | none => .error .misused
  | some queryPath =>
    return { configPath := (given.lookup .config).getD defaultConfigPath, queryPath }

end QueryShield.CommandLine
