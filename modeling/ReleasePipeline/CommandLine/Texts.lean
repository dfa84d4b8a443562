/-
What the command line tells its user: help, version, and what is wrong.
-/
import ReleasePipeline.CommandLine.Invocation

set_option autoImplicit false

namespace ReleasePipeline.CommandLine

/-- The name and the version of the program. -/
def versionText : String := "shipline 0.1.0\n"

/-- Lines, each with an end. -/
def linesText (lines : List String) : String := String.join (lines.map (· ++ "\n"))

/-- The words of a command line that asks for something. -/
def usage : Topic → String
  | .program => "Usage: shipline <COMMAND>"
  | .run => "Usage: shipline run [OPTIONS]"
  | .validate => "Usage: shipline validate [OPTIONS]"
  | .listModules => "Usage: shipline list-modules"
  | .help => "Usage: shipline help [COMMAND]..."

/-- The help on a topic. -/
def helpText (t : Topic) : String :=
  match t with
  | .program => linesText
      ["Declarative build and release pipeline runner", "", usage t, "", "Commands:",
        "  run           Run the setup, build and publish stages",
        "  validate      Check a pipeline file without running it",
        "  list-modules  ",
        "  help          Print this message or the help of the given subcommand(s)", "",
        "Options:", "  -h, --help     Print help", "  -V, --version  Print version"]
  | .run => linesText
      ["Run the setup, build and publish stages", "", usage t, "", "Options:",
        "      --config <CONFIG>              ",
        "      --publish                      Enable the publish stage",
        "      --print-metrics                ",
        "      --metrics-json <METRICS_JSON>  ",
        "  -h, --help                         Print help"]
  | .validate => linesText
      ["Check a pipeline file without running it", "", usage t, "", "Options:",
        "      --config <CONFIG>  ", "  -h, --help             Print help"]
  | .listModules => linesText [usage t, "", "Options:", "  -h, --help  Print help"]
  | .help => linesText
      ["Print this message or the help of the given subcommand(s)", "", usage t, "",
        "Arguments:", "  [COMMAND]...  Print help for the subcommand(s)"]

/-- What is wrong with a command line. -/
def UsageError.message : UsageError → String
  | .missingCommand => helpText .program
  | .unknownCommand word => "error: unrecognized subcommand '" ++ word ++ "'\n"
  | .unexpected word => "error: unexpected argument '" ++ word ++ "' found\n"
  | .missingValue option =>
    "error: a value is required for '" ++ option ++ "' but none was supplied\n"
  | .repeated option => "error: the argument '" ++ option ++ "' cannot be used multiple times\n"

/-! ## Failures -/

/-- Each line but the first with blanks in front. -/
def indentLater (blanks : String) (text : String) : String :=
  ("\n" ++ blanks).intercalate ((Text.splitOn '\n' text.toList).map String.ofList)

/-- A cause with its number in the chain. -/
def numberedCause (number : Nat) (cause : String) : String :=
  let digits := toString number
  String.ofList (List.replicate (5 - digits.length) ' ') ++ digits ++ ": "
    ++ indentLater "       " cause

/-- Numbers causes from a number on. -/
def numberedCauses : Nat → List String → List String
  | _, [] => []
  | n, cause :: rest => numberedCause n cause :: numberedCauses (n + 1) rest

/-- A chain of messages, the outermost first; a single cause has no number. -/
def errorReport : List String → String
  | [] => "Error: \n"
  | [message] => "Error: " ++ message ++ "\n"
  | [message, cause] =>
    "Error: " ++ message ++ "\n\nCaused by:\n    " ++ indentLater "    " cause ++ "\n"
  | message :: causes =>
    "Error: " ++ message ++ "\n\nCaused by:\n" ++ "\n".intercalate (numberedCauses 0 causes) ++ "\n"

end ReleasePipeline.CommandLine
