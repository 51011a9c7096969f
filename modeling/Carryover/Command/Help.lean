import Carryover.Command.Request

/-!
# Help

The texts that answer a question for help: how a command is called, and what its words mean.
-/

namespace Carryover
namespace Command

/-- The name of the program. -/
def programName : String := "action-context"

/-- How a command is called; without one, how the program is. -/
def usage : Option Verb → String
  | none => "usage: " ++ programName ++ " [-h] \x7bfields,extract,decode\x7d ..."
  | some .fields => "usage: " ++ programName ++ " fields [-h] target"
  | some .extract => "usage: " ++ programName ++ " extract [-h] target"
  | some .decode => "usage: " ++ programName ++ " decode [-h] [--type TYPE] file key"

/-- The lines on the words of a command. -/
def helpLines : Option Verb → List String
  | none =>
    ["Inspect ContextParam declarations, extracted contexts and persisted context",
      "values.",
      "",
      "positional arguments:",
      "  \x7bfields,extract,decode\x7d",
      "    fields              List the directive-bearing fields of a class.",
      "    extract             Extract and normalize the context of an object.",
      "    decode              Decode one value of a persisted context.",
      "",
      "options:",
      "  -h, --help            show this help message and exit"]
  | some .fields =>
    ["positional arguments:",
      "  target      Class to inspect, as MODULE:CLASS.",
      "",
      "options:",
      "  -h, --help  show this help message and exit"]
  | some .extract =>
    ["positional arguments:",
      "  target      Object (or zero-argument factory) to extract, as MODULE:ATTR.",
      "",
      "options:",
      "  -h, --help  show this help message and exit"]
  | some .decode =>
    ["positional arguments:",
      "  file         Path to a context JSON file.",
      "  key          Context key to decode.",
      "",
      "options:",
      "  -h, --help   show this help message and exit",
      "  --type TYPE  Target type: str, int, float, bool, list, dict or MODULE:NAME",
      "               (default: str)."]

/-- The answer to a question for help. -/
def help (v : Option Verb) : String :=
  String.intercalate "\n" (usage v :: "" :: helpLines v)

end Command
end Carryover
