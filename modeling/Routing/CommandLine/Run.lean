/-
  Routing/CommandLine/Run.lean
  ============================
  **What the command-line program answers.**  A run is a function from the
  arguments and the contents of the configuration file to an exit code and the
  texts for the two output streams.
-/
import Routing.CommandLine.Help
import Routing.Config
import Routing.Report

namespace Routing.CommandLine

structure Outcome where
  code : Nat
  stdout : String := ""
  stderr : String := ""
deriving DecidableEq, Repr

/-- Why a configuration file cannot be read, in the words of the system. -/
structure FileError where
  reason : String
deriving DecidableEq, Repr

def failure (message : String) (cause : Option String := none) (stdout : String := "") :
    Outcome where
  code := 1
  stdout := stdout
  stderr :=
    "Error: " ++ message ++ "\n" ++
      match cause with
      | some cause => "\nCaused by:\n    " ++ cause ++ "\n"
      | none => ""

/-! ### Compiling templates -/

def checkTemplate (template : String) : String × Bool :=
  match RoutePattern.compile .empty template with
  | .ok pattern =>
    (lines (["✓ " ++ template, "  regex: " ++ pattern.source] ++
      pattern.parameters.map fun p => "  " ++ p.describe), true)
  | .error e => (lines ["✗ " ++ template, "  " ++ e.message], false)

/-- Compiles templates and shows them; fails if one of them does not compile. -/
def check (templates : List String) : Outcome :=
  let results := templates.map checkTemplate
  let stdout := String.join (results.map Prod.fst)
  let failures := (results.filter fun result => !result.2).length
  if failures = 0 then { code := 0, stdout := stdout }
  else
    failure (toString failures ++ " of " ++ toString templates.length ++
      " templates failed to compile") none stdout

/-! ### Matching -/

def matchPath (template path : String) : Outcome :=
  match RoutePattern.compile .empty template with
  | .error e => failure e.message
  | .ok pattern =>
    match pattern.match? path with
    | none => failure (path ++ " does not match " ++ template)
    | some params =>
      let filled := params.filledNames
      { code := 0
        stdout := params.toJson.toLines ++ "\n"
        stderr :=
          if filled.isEmpty then "" else "defaults used: " ++ Text.join ", " filled ++ "\n" }

/-! ### Building paths -/

/-- The value of a name when one more text is given for it. The texts of a repeated
    name form a list. -/
def gathered (earlier : Option Value) (text : String) : Value :=
  match earlier with
  | none => .text text
  | some (.list items) => .list (items ++ [.text text])
  | some value => .list [value, .text text]

/-- The values of arguments of the form `NAME=VALUE`, or the first argument that is
    not of this form. -/
def parseValues (pairs : List String) : Except String RouteValues :=
  pairs.foldlM (fun (values : RouteValues) pair =>
    match Text.cutAt '=' pair.toList with
    | none => .error pair
    | some (name, text) =>
      let name := String.ofList name
      .ok (values.set name (gathered (values.get? name) (String.ofList text))))
    RouteValues.empty

def resolve (template : String) (pairs : List String) : Outcome :=
  match RoutePattern.compile .empty template with
  | .error e => failure e.message
  | .ok pattern =>
    match parseValues pairs with
    | .error pair => failure ("Expected NAME=VALUE, got " ++ Text.quoted pair)
    | .ok values =>
      match pattern.resolve? values with
      | none => failure ("Cannot resolve " ++ template ++ ": a required parameter has no value")
      | some path => { code := 0, stdout := path ++ "\n" }

/-! ### Routes from a file -/

def route (config path : String) (content : Except FileError String) : Outcome :=
  match content with
  | .error e =>
    failure ("Failed to read config file: " ++ Text.quoted config) (some e.reason)
  | .ok content =>
    match RoutesConfig.parse content with
    | none => failure ("Failed to parse config file: " ++ Text.quoted config) (some "<toml error>")
    | some routes =>
      match routes.table with
      | .error (.invalidConstraint name fault) =>
        failure (TableError.invalidConstraint name fault).message (some fault.message)
      | .error e => failure e.message
      | .ok table =>
        match table.match? path with
        | none => failure ("No route matches " ++ path)
        | some found =>
          { code := 0
            stdout := lines [
              "✓ " ++ found.route.name?.getD "(unnamed)",
              "  template: " ++ found.route.pattern.template,
              "  path:     " ++ found.path,
              found.params.toJson.toLines] }

/-! ### Runs -/

def Request.config? : Request → Option String
  | .run (.route config _) => some config
  | _ => none

/-- The answer to a request. `content` is the content of the file that it needs. -/
def Request.outcome (program : String) (content : Except FileError String) : Request → Outcome
  | .run (.check templates) => CommandLine.check templates
  | .run (.matchPath template path) => CommandLine.matchPath template path
  | .run (.resolve template pairs) => CommandLine.resolve template pairs
  | .run (.route config path) => CommandLine.route config path content
  | .help topic => { code := 0, stdout := topic.helpText program }
  | .version => { code := 0, stdout := program ++ " " ++ CommandLine.version ++ "\n" }
  | .usageError =>
    { code := 2
      stderr := "error: invalid arguments\n\nFor more information, try '--help'.\n" }

end Routing.CommandLine
