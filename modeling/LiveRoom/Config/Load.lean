import LiveRoom.Config
import LiveRoom.Environment
import LiveRoom.Files
import LiveRoom.Text.Blank

/-!
# Which configuration is used

Three layers make up the configuration.  At the bottom are the defaults.  On them
lies one file: the one that `IALCTL_CONFIG` names, which must be readable, or else
`ialctl/config.json` in the user's configuration directory, which may be missing.
On top lies the address in `IALCTL_SERVER_URL`, taken as it stands unless it is
blank.

An environment variable whose value is not UTF-8 counts as unset.  The user's
configuration directory is `XDG_CONFIG_HOME` where that is an absolute path, and
`.config` in the home directory otherwise.
-/

namespace LiveRoom

/-! ## The user's directories -/

/-- The variable for the user's configuration directory. -/
def directoryVariable : String := "XDG_CONFIG_HOME"

/-- The variable for the home directory. -/
def homeVariable : String := "HOME"

namespace Environment

/-- The home directory: `HOME` unless it is empty, and otherwise that of the account. -/
def home (environment : Environment) (accountHome : Path) : Path :=
  match environment.bytes? homeVariable with
  | some home => if home = [] then accountHome else home
  | none => accountHome

/-- **The user's configuration directory.** -/
def configDirectory (environment : Environment) (accountHome : Path) : Path :=
  let fallback := (environment.home accountHome).join ".config"
  match environment.bytes? directoryVariable with
  | some directory => if Path.isAbsolute directory then directory else fallback
  | none => fallback

end Environment

/-! ## Loading -/

/-- The variable that names a configuration file. -/
def configVariable : String := "IALCTL_CONFIG"

/-- The variable that overrides the address of the service. -/
def serverVariable : String := "IALCTL_SERVER_URL"

/-- **Why a configuration file is refused.** -/
inductive ConfigFileError where
  | unreadable (path : Path) (error : FileError)
  | malformed (path : Path) (error : Json.ParseError)

/-- **Why there is no configuration.** -/
inductive LoadError where
  /-- The file that the variable names is refused. -/
  | named (value : String) (error : ConfigFileError)
  /-- The user's own file is refused. -/
  | own (error : ConfigFileError)

/-- The refusal of a file and its cause, in words. -/
def ConfigFileError.chain : ConfigFileError → List String
  | .unreadable path error => ["failed to read config at " ++ path.display, error.message]
  | .malformed path error => ["failed to parse JSON in " ++ path.display, error.message]

/-- The lack of a configuration and the causes behind it, in words. -/
def LoadError.chain : LoadError → List String
  | .named value error => (configVariable ++ " is set to " ++ value) :: error.chain
  | .own error => error.chain

namespace Config

/-- **Reads a configuration file.** -/
def ofFile (files : Files) (path : Path) : Except ConfigFileError Config :=
  match files.readText path with
  | .error error => .error (.unreadable path error)
  | .ok text =>
    match Config.ofJson text with
    | .error error => .error (.malformed path error)
    | .ok config => .ok config

/-- The path of the user's own file in a configuration directory. -/
def ownFile (directory : Path) : Path := (directory.join "ialctl").join "config.json"

/-- The one file that loading looks at, if there is one. -/
def consulted (lookup : String → Option String) (directory : Option Path) : Option Path :=
  match lookup configVariable with
  | some value => some (Path.ofString value)
  | none => directory.map ownFile

/-- The defaults with one file over them. -/
def base (lookup : String → Option String) (directory : Option Path) (files : Files) :
    Except LoadError Config :=
  match lookup configVariable with
  | some value => (ofFile files (Path.ofString value)).mapError (.named value)
  | none =>
    match directory with
    | none => .ok Config.default
    | some directory =>
      if files.contains (ownFile directory) then
        (ofFile files (ownFile directory)).mapError .own
      else .ok Config.default

/-- A configuration with another address, unless that is blank. -/
def withServer (config : Config) : Option String → Config
  | none => config
  | some url => if Text.trimmed url = "" then config else { config with serverUrl := url }

/-- **Loads the configuration**, given how variables are looked up and where the
user's configuration directory is, if there is one. -/
def load (lookup : String → Option String) (directory : Option Path) (files : Files) :
    Except LoadError Config :=
  (base lookup directory files).map fun config => config.withServer (lookup serverVariable)

/-- **Loads the configuration of a process.** -/
def ofEnvironment (environment : Environment) (accountHome : Path) (files : Files) :
    Except LoadError Config :=
  load environment.text? (some (environment.configDirectory accountHome)) files

end Config

end LiveRoom
