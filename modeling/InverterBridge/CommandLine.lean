/-!
# The command line

A bridge takes two options: the path of its configuration and a log level that
overrides the configured one.  The value of an option follows it, or is joined
to it; a word that starts with a hyphen is never a value unless it is joined.
Words are looked at from left to right, and the first fault or request for help
or the version ends the reading.
-/

namespace InverterBridge

/-- The options of the command line. -/
inductive CommandOption where
  | config
  | logLevel
  deriving DecidableEq, Repr

/-- The arguments of a bridge. -/
structure Arguments where
  config : String
  logLevel : Option String
  deriving DecidableEq, Repr

/-- What a command line asks for. -/
inductive CommandLine where
  | run (arguments : Arguments)
  | help
  | version
  deriving DecidableEq, Repr

/-- What is wrong with a command line. -/
inductive UsageError where
  | unknown (word : String)
  | missingValue (option : CommandOption)
  | repeated (option : CommandOption)
  | emptyPath
  | surplusValue (word : String)
  deriving DecidableEq, Repr

namespace CommandOption

/-- The long form of an option. -/
def name : CommandOption → String
  | .config => "--config"
  | .logLevel => "--log-level"

end CommandOption

namespace UsageError

/-- The fault in words. -/
def message : UsageError → String
  | .unknown word => "unexpected argument '" ++ word ++ "' found"
  | .missingValue option => "a value is required for '" ++ option.name ++ "'"
  | .repeated option => "the argument '" ++ option.name ++ "' cannot be used multiple times"
  | .emptyPath => "a value is required for '--config'"
  | .surplusValue word => "unexpected value in '" ++ word ++ "'"

end UsageError

namespace CommandLine

/-- The options read so far. -/
structure Given where
  config : Option String
  logLevel : Option String
  deriving DecidableEq, Repr

namespace Given

/-- No options. -/
def none : Given := ⟨Option.none, Option.none⟩

/-- Note the value of an option, which may be given once; a path is not empty. -/
def set (given : Given) (option : CommandOption) (value : String) : Except UsageError Given :=
  match option with
  | .config =>
      if given.config.isSome then .error (.repeated .config)
      else if value.isEmpty then .error .emptyPath
      else .ok { given with config := some value }
  | .logLevel =>
      if given.logLevel.isSome then .error (.repeated .logLevel)
      else .ok { given with logLevel := some value }

/-- The arguments, with a default for the path. -/
def finish (given : Given) (defaultConfig : String) : Arguments :=
  ⟨given.config.getD defaultConfig, given.logLevel⟩

end Given

/-- What a single word is. -/
inductive Word where
  /-- A request for help. -/
  | help
  /-- A request for the version. -/
  | version
  /-- An option whose value follows. -/
  | option (option : CommandOption)
  /-- An option with its value. -/
  | assigned (option : CommandOption) (value : String)
  /-- The end of the options. -/
  | endOfOptions
  /-- A word that may be a value. -/
  | plain
  /-- A word that can be nothing. -/
  | wrong (error : UsageError)
  deriving DecidableEq, Repr

/-- A long option: its name, and its value after an equals sign. -/
def longWord (word : String) (characters : List Char) : Word :=
  let name := String.ofList (characters.takeWhile (· != '='))
  match characters.dropWhile (· != '=') with
  | [] =>
      match name with
      | "help" => .help
      | "version" => .version
      | "config" => .option .config
      | "log-level" => .option .logLevel
      | _ => .wrong (.unknown word)
  | _ :: value =>
      match name with
      | "help" => .wrong (.surplusValue word)
      | "version" => .wrong (.surplusValue word)
      | "config" => .assigned .config (String.ofList value)
      | "log-level" => .assigned .logLevel (String.ofList value)
      | _ => .wrong (.unknown word)

/-- A short option with what is joined to it; an equals sign does not belong to
the value. -/
def shortWord (word : String) : List Char → Word
  | 'h' :: _ => .help
  | 'V' :: _ => .version
  | ['c'] => .option .config
  | 'c' :: '=' :: value => .assigned .config (String.ofList value)
  | 'c' :: value => .assigned .config (String.ofList value)
  | _ => .wrong (.unknown word)

/-- What a word is. -/
def classify (word : String) : Word :=
  match word.toList with
  | ['-', '-'] => .endOfOptions
  | '-' :: '-' :: name => longWord word name
  | ['-'] => .plain
  | '-' :: name => shortWord word name
  | _ => .plain

/-- Read the words from the left. -/
def read (defaultConfig : String) : Given → List String → Except UsageError CommandLine
  | given, [] => .ok (.run (given.finish defaultConfig))
  | given, word :: words =>
      match classify word with
      | .help => .ok .help
      | .version => .ok .version
      | .wrong error => .error error
      | .plain => .error (.unknown word)
      | .endOfOptions =>
          match words with
          | [] => .ok (.run (given.finish defaultConfig))
          | next :: _ => .error (.unknown next)
      | .assigned option value =>
          match given.set option value with
          | .error error => .error error
          | .ok given => read defaultConfig given words
      | .option option =>
          match words with
          | [] => .error (.missingValue option)
          | value :: words =>
              match classify value with
              | .plain =>
                  match given.set option value with
                  | .error error => .error error
                  | .ok given => read defaultConfig given words
              | _ => .error (.missingValue option)

/-- Read a command line, the name of the program left out. -/
def parse (words : List String) (defaultConfig : String) : Except UsageError CommandLine :=
  read defaultConfig .none words

end CommandLine

end InverterBridge
