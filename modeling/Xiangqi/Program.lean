import Xiangqi.CommandLine
import Xiangqi.Console
import Xiangqi.LogFilter
import Xiangqi.Placement.Json
import Xiangqi.Settings.Toml

/-!
# The program

The program reads its arguments, then the settings, then the starting position, and then answers the
lines of its input one after the other. A log filter that the environment sets goes before the one in
the settings. What the program writes and the code it ends with are a function of the arguments, the
files they name, the input and the environment's filter. The code is 0 if all went well, 1 if the
program could not start or its console failed, 2 if the arguments are mistaken, and 101 if the program
broke off over a log filter.
-/

namespace Xiangqi.Program

/-- Why the program does not start. -/
inductive StartError where
  | setup (error : SetupError)
  | badLogLevel
  /-- A log filter cannot even be read. -/
  | brokenLogFilter
deriving DecidableEq

/-- The wording of a start error. -/
def StartError.message : StartError → String
  | setup error => error.message
  | badLogLevel => "invalid log level in configuration"
  | brokenLogFilter => "log filter is cut inside a character"

/-- The code with which the program ends if it does not start. -/
def StartError.code : StartError → UInt8
  | setup _ | badLogLevel => 1
  | brokenLogFilter => 101

/-- What the program writes, and the code it ends with. -/
structure Outcome where
  output : String
  code : UInt8
deriving DecidableEq

/-- The settings in the file, or the defaults if no file is named. -/
def settingsFrom (files : String → Option ByteArray) : Option String → Except SetupError Settings
  | some path => Settings.load (files path)
  | none => .ok {}

/-- The starting position in the file, if a file is named. -/
def placementFrom (files : String → Option ByteArray) :
    Option String → Except SetupError (Option Placement)
  | some path =>
    match (files path).bind String.fromUTF8? with
    | some text => (Placement.read text).map some
    | none => .error .unreadableFile
  | none => .ok none

/-- Report a setup error as the reason not to start. -/
def setup {α : Type} : Except SetupError α → Except StartError α
  | .ok value => .ok value
  | .error error => .error (.setup error)

/-- Check that the text is a log filter. -/
def checkLogLevel (text : String) : Except StartError Unit :=
  match LogFilter.read text with
  | .accepted => .ok ()
  | .refused => .error .badLogLevel
  | .broken => .error .brokenLogFilter

/-- Find a log filter to go by. What the environment sets is looked at first, and the level in the
settings only if the environment sets nothing or what it sets is no log filter. -/
def checkLogFilter (environment : Option String) (level : String) : Except StartError Unit :=
  match environment.map LogFilter.read with
  | some .accepted => .ok ()
  | some .broken => .error .brokenLogFilter
  | some .refused | none => checkLogLevel level

/-- The console that the options ask for. -/
def prepare (files : String → Option ByteArray) (environment : Option String)
    (options : CommandLine.Options) : Except StartError Console := do
  let settings ← setup (settingsFrom files options.settings)
  checkLogFilter environment settings.logLevel
  let placement ← setup (placementFrom files options.placement)
  setup (Console.start settings placement)

/-- Answer the whole input. What was written before a failure stays written. -/
def converse (console : Console) (input : String) : Outcome :=
  let (replies, failure) := console.session ((Text.lines input.toList).map String.ofList)
  ⟨String.join (replies.map Reply.text), if failure.isSome then 1 else 0⟩

/-- Run the program. The environment sets no log filter unless one is given. -/
def run (files : String → Option ByteArray) (arguments : List String) (input : String)
    (environment : Option String := none) : Outcome :=
  match CommandLine.read arguments with
  | .version => ⟨CommandLine.versionText, 0⟩
  | .help => ⟨CommandLine.helpText, 0⟩
  | .mistake => ⟨"", 2⟩
  | .play options =>
    match prepare files environment options with
    | .ok console => converse console input
    | .error error => ⟨"", error.code⟩

end Xiangqi.Program
