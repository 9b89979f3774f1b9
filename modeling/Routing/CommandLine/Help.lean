/-
  Routing/CommandLine/Help.lean
  =============================
  **The help texts of the command-line program.**
-/
import Routing.CommandLine.Arguments

namespace Routing.CommandLine

def version : String := "0.1.0"

def lines (texts : List String) : String :=
  String.join (texts.map (· ++ "\n"))

def Topic.helpText (program : String) : Topic → String
  | .program => lines [
      "Check, match and resolve route templates",
      "",
      "Usage: " ++ program ++ " [OPTIONS] <COMMAND>",
      "",
      "Commands:",
      "  check    Compile templates and show their expression and parameters",
      "  match    Match a path against a template and print the parameters as JSON",
      "  resolve  Build a path from NAME=VALUE pairs (repeat a name to pass a list)",
      "  route    Match a path against the routes of a configuration file",
      "  help     Print this message or the help of the given subcommand(s)",
      "",
      "Options:",
      "  -v, --verbose...  Increase log output (-v debug, -vv trace)",
      "  -h, --help        Print help",
      "  -V, --version     Print version"]
  | .check => lines [
      "Compile templates and show their expression and parameters",
      "",
      "Usage: " ++ program ++ " check [OPTIONS] <TEMPLATES>...",
      "",
      "Arguments:",
      "  <TEMPLATES>...  Route templates, e.g. \"/users/\x7bid:int\x7d\"",
      "",
      "Options:",
      "  -v, --verbose...  Increase log output (-v debug, -vv trace)",
      "  -h, --help        Print help"]
  | .matchPath => lines [
      "Match a path against a template and print the parameters as JSON",
      "",
      "Usage: " ++ program ++ " match [OPTIONS] <TEMPLATE> <PATH>",
      "",
      "Arguments:",
      "  <TEMPLATE>  ",
      "  <PATH>      ",
      "",
      "Options:",
      "  -v, --verbose...  Increase log output (-v debug, -vv trace)",
      "  -h, --help        Print help"]
  | .resolve => lines [
      "Build a path from NAME=VALUE pairs (repeat a name to pass a list)",
      "",
      "Usage: " ++ program ++ " resolve [OPTIONS] <TEMPLATE> [VALUES]...",
      "",
      "Arguments:",
      "  <TEMPLATE>   ",
      "  [VALUES]...  ",
      "",
      "Options:",
      "  -v, --verbose...  Increase log output (-v debug, -vv trace)",
      "  -h, --help        Print help"]
  | .route => lines [
      "Match a path against the routes of a configuration file",
      "",
      "Usage: " ++ program ++ " route [OPTIONS] <PATH>",
      "",
      "Arguments:",
      "  <PATH>  ",
      "",
      "Options:",
      "  -c, --config <CONFIG>  Routes file (TOML) [default: " ++ defaultConfig ++ "]",
      "  -v, --verbose...       Increase log output (-v debug, -vv trace)",
      "  -h, --help             Print help"]
  | .help => lines [
      "Print this message or the help of the given subcommand(s)",
      "",
      "Usage: " ++ program ++ " help [COMMAND]...",
      "",
      "Arguments:",
      "  [COMMAND]...  Print help for the subcommand(s)"]

end Routing.CommandLine
