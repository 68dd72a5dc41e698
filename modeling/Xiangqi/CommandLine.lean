/-!
# The command line

The program takes two options, each with a file and at most once, and no other arguments. A value
follows its option as the next argument, or directly, with or without an equals sign for the short
form. Arguments are looked at from left to right, and the first one that settles the matter does:
a request for the version or for help, or a mistake.
-/

namespace Xiangqi.CommandLine

/-- The files that the program is started with. -/
structure Options where
  settings : Option String := none
  placement : Option String := none
deriving DecidableEq

/-- What the arguments ask for. -/
inductive Request where
  | play (options : Options)
  | version
  | help
  | mistake
deriving DecidableEq

/-- The options that take a file. -/
inductive FileOption where
  | settings
  | placement
deriving DecidableEq

/-- What a single argument is. -/
inductive Argument where
  /-- An option that takes a file; without a value, the next argument is the value. -/
  | file (option : FileOption) (value : Option String)
  | version
  | help
  /-- Two hyphens: no option comes after this. -/
  | endOfOptions
  | unknown
deriving DecidableEq

/-- The text behind an equals sign. -/
def attached : List Char → Option String
  | '=' :: value => some (String.ofList value)
  | _ => none

/-- The argument with the given text after two hyphens. -/
def Argument.ofLong (text : List Char) : Argument :=
  let name := text.takeWhile (· != '=')
  let value := attached (text.dropWhile (· != '='))
  match String.ofList name with
  | "config" => .file .settings value
  | "placement" => .file .placement value
  | "version" => if value.isNone then .version else .unknown
  | "help" => if value.isNone then .help else .unknown
  | _ => .unknown

/-- The value that is written in one argument with a short option. -/
def shortValue : List Char → Option String
  | [] => none
  | '=' :: value => some (String.ofList value)
  | value => some (String.ofList value)

/-- The argument with the given text. -/
def Argument.ofText (text : String) : Argument :=
  match text.toList with
  | ['-', '-'] => .endOfOptions
  | '-' :: '-' :: long => ofLong long
  | '-' :: 'c' :: value => .file .settings (shortValue value)
  | '-' :: 'p' :: value => .file .placement (shortValue value)
  | '-' :: 'V' :: _ => .version
  | '-' :: 'h' :: _ => .help
  | _ => .unknown

/-- The text cannot be the value of an option because it looks like an option itself. -/
def looksLikeOption (text : String) : Bool :=
  match text.toList with
  | '-' :: _ :: _ => true
  | _ => false

/-- Take in the file of an option; fails if the file has no name or the option was given before. -/
def Options.take (options : Options) (option : FileOption) (value : String) : Option Options :=
  if value.isEmpty then none
  else match option with
    | .settings =>
      if options.settings.isSome then none else some { options with settings := some value }
    | .placement =>
      if options.placement.isSome then none else some { options with placement := some value }

/-- Read the arguments from the given options on. -/
def readFrom (options : Options) : List String → Request
  | [] => .play options
  | text :: rest =>
    match Argument.ofText text with
    | .version => .version
    | .help => .help
    | .unknown => .mistake
    | .endOfOptions => if rest.isEmpty then .play options else .mistake
    | .file option (some value) =>
      match options.take option value with
      | some more => readFrom more rest
      | none => .mistake
    | .file option none =>
      match rest with
      | [] => .mistake
      | value :: others =>
        if looksLikeOption value then .mistake
        else
          match options.take option value with
          | some more => readFrom more others
          | none => .mistake

/-- What the arguments ask for. -/
def read (arguments : List String) : Request :=
  readFrom {} arguments

/-- The text that answers a request for the version. -/
def versionText : String := "xiangqi 0.1.0\n"

/-- The text that answers a request for help. -/
def helpText : String :=
  "Play xiangqi over a line protocol on stdin/stdout\n\n" ++
  "Usage: xiangqi [OPTIONS]\n\n" ++
  "Options:\n" ++
  "  -c, --config <CONFIG>        Rule configuration (TOML)\n" ++
  "  -p, --placement <PLACEMENT>  Starting placement (JSON) instead of the standard opening\n" ++
  "  -h, --help                   Print help\n" ++
  "  -V, --version                Print version\n"

end Xiangqi.CommandLine
