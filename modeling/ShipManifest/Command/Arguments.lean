/-!
# The command line

The first argument names a command, and options follow. An option's value is the next argument or stands behind an
equals sign; a next argument that begins with a dash is no value, unless it is a lone dash. No option is given twice,
and the path of the configuration is not empty. The word `help` takes one topic at most.
-/

namespace ShipManifest

/-- What the program is started for. -/
inductive Command where
  | query (config : String) (search : Option String)
  | start (config : String)
  | headers (config : String)
  deriving DecidableEq

namespace Command

/-- The names of the commands. -/
inductive Kind where
  | query
  | start
  | headers
  deriving DecidableEq

/-- The path of the configuration if none is given. -/
def defaultConfig : String := "./manifestdb.json"

/-- What help is about. -/
inductive Topic where
  | program
  | command (kind : Kind)
  | help
  deriving DecidableEq

/-- What the arguments ask for. -/
inductive Invocation where
  | run (command : Command)
  | version
  | help (topic : Topic)
  | misuse
  deriving DecidableEq

/-- The kind that a name names. -/
def Kind.ofName? : String → Option Kind
  | "query" => some .query
  | "start" => some .start
  | "headers" => some .headers
  | _ => none

/-- The topic that a name behind the word `help` names. -/
def Topic.ofName? (name : String) : Option Topic :=
  if name = "help" then some .help else (Kind.ofName? name).map .command

/-- The options of a command. -/
inductive OptionName where
  | config
  | search
  deriving DecidableEq

/-- The option that a name names, if the command has it. -/
def Kind.option? : Kind → List Char → Option OptionName
  | kind, name =>
    if name = "config".toList then some .config
    else if name = "search".toList ∧ kind = .query then some .search
    else none

/-- The options given so far. -/
structure Given where
  config : Option String := none
  search : Option String := none

/-- The options with one more, unless it was given before or its value is refused. -/
def Given.put? (g : Given) (value : String) : OptionName → Option Given
  | .config => if g.config.isSome ∨ value = "" then none else some { g with config := some value }
  | .search => if g.search.isSome then none else some { g with search := some value }

/-- The command with its options. -/
def Given.command (g : Given) : Kind → Command
  | .query => .query (g.config.getD defaultConfig) g.search
  | .start => .start (g.config.getD defaultConfig)
  | .headers => .headers (g.config.getD defaultConfig)

/-- Whether an argument can be the value of the option before it. -/
def isValue (argument : String) : Bool :=
  argument.toList.head? != some '-' || argument == "-"

/-- Whether an argument asks for help: the long option, or a group of short ones that begins with its letter. -/
def asksHelp (argument : String) : Bool :=
  argument == "--help" || ['-', 'h'].isPrefixOf argument.toList

/-- Whether an argument asks for the version. -/
def asksVersion (argument : String) : Bool :=
  argument == "--version" || ['-', 'V'].isPrefixOf argument.toList

/-- Takes the name and the value of a long option apart. -/
def splitOption? (argument : String) : Option (List Char × Option String) :=
  match argument.toList with
  | '-' :: '-' :: cs =>
    match cs.span (· != '=') with
    | (name, []) => some (name, none)
    | (name, _ :: value) => some (name, some (String.ofList value))
  | _ => none

/-- Reads the options of a command. -/
def parseOptions (kind : Kind) : Given → List String → Invocation
  | g, [] => .run (g.command kind)
  | g, [argument] =>
    if asksHelp argument then .help (.command kind)
    else if argument = "--" then .run (g.command kind)
    else match splitOption? argument with
      | some (name, some value) =>
        match (kind.option? name).bind (g.put? value) with
        | some g => .run (g.command kind)
        | none => .misuse
      | _ => .misuse
  | g, argument :: next :: rest =>
    if asksHelp argument then .help (.command kind)
    else match splitOption? argument with
      | some (name, some value) =>
        match (kind.option? name).bind (g.put? value) with
        | some g => parseOptions kind g (next :: rest)
        | none => .misuse
      | some (name, none) =>
        match (kind.option? name).bind (g.put? next) with
        | some g => if isValue next then parseOptions kind g rest else .misuse
        | none => .misuse
      | none => .misuse

/-- Reads the arguments of the program. -/
def parse : List String → Invocation
  | [] => .misuse
  | argument :: rest =>
    if asksHelp argument then .help .program
    else if asksVersion argument then .version
    else if argument = "help" then
      match rest with
      | [] => .help .program
      | [name] =>
        match Topic.ofName? name with
        | some topic => .help topic
        | none => .misuse
      | _ => .misuse
    else match Kind.ofName? argument with
      | some kind => parseOptions kind {} rest
      | none => .misuse

/-! ## Texts -/

/-- What the program says of its version. -/
def versionText : String := "manifestdb 0.1.0\n"

/-- The line of an option in a help text. -/
def configHelp : String := "      --config <CONFIG>  Path to configuration file [default: ./manifestdb.json]\n"

/-- How a command is described. -/
def Kind.help : Kind → String
  | .query =>
    "Answer one request and exit\n\nUsage: manifestdb query [OPTIONS]\n\nOptions:\n" ++ configHelp ++
      "      --search <SEARCH>  Query string, e.g. `clas:1st Class:first:Henry`. " ++
      "Without it one JSON request is read from stdin\n" ++
      "  -h, --help             Print help\n"
  | .start =>
    "Answer JSON requests from stdin until EOF\n\nUsage: manifestdb start [OPTIONS]\n\nOptions:\n" ++ configHelp ++
      "  -h, --help             Print help\n"
  | .headers =>
    "Print the manifest header labels\n\nUsage: manifestdb headers [OPTIONS]\n\nOptions:\n" ++ configHelp ++
      "  -h, --help             Print help\n"

/-- What help says about a topic. -/
def Topic.text : Topic → String
  | .command kind => kind.help
  | .help =>
    "Print this message or the help of the given subcommand(s)\n\nUsage: manifestdb help [COMMAND]...\n\n" ++
      "Arguments:\n  [COMMAND]...  Print help for the subcommand(s)\n"
  | .program =>
    "A deterministic in-memory record manifest with a compact token query language\n\n" ++
      "Usage: manifestdb <COMMAND>\n\n" ++
      "Commands:\n  query    Answer one request and exit\n  start    Answer JSON requests from stdin until EOF\n" ++
      "  headers  Print the manifest header labels\n" ++
      "  help     Print this message or the help of the given subcommand(s)\n\n" ++
      "Options:\n  -h, --help     Print help\n  -V, --version  Print version\n"

/-- What is said of arguments that ask for nothing. -/
def misuseText : String := "error: the arguments were not understood\n\nFor more information, try '--help'.\n"

end Command

end ShipManifest
