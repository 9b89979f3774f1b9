/-
  Routing/CommandLine/Arguments.lean
  ==================================
  **The arguments of the command-line program.**  Arguments are read from left to
  right; a request for help or for the version and the first error end the
  reading. Options may stand between other arguments, and after `--` every
  argument stands for itself.
-/

namespace Routing.CommandLine

inductive Command where
  /-- compile templates and show them -/
  | check (templates : List String)
  /-- match a path against a template -/
  | matchPath (template path : String)
  /-- build a path from pairs of names and values -/
  | resolve (template : String) (pairs : List String)
  /-- match a path against the routes of a file -/
  | route (config path : String)
deriving DecidableEq, Repr

inductive Topic where
  | program
  | check
  | matchPath
  | resolve
  | route
  /-- the command that shows help -/
  | help
deriving DecidableEq, Repr

inductive Request where
  | run (c : Command)
  | help (topic : Topic)
  | version
  /-- the arguments make no sense -/
  | usageError
deriving DecidableEq, Repr

def defaultConfig : String := "routes.toml"

/-- The command of a name; the one that shows help is not among these. -/
def topicOf? (name : String) : Option Topic :=
  match name with
  | "check" => some .check
  | "match" => some .matchPath
  | "resolve" => some .resolve
  | "route" => some .route
  | _ => none

/-- How many arguments a command takes besides its options, if they are limited. -/
def Topic.most? : Topic → Option Nat
  | .matchPath => some 2
  | .route => some 1
  | _ => none

structure Given where
  arguments : List String := []
  config? : Option String := none
deriving DecidableEq, Repr

def Given.request (given : Given) : Topic → Request
  | .check => if given.arguments.isEmpty then .usageError else .run (.check given.arguments)
  | .matchPath =>
    match given.arguments with
    | [template, path] => .run (.matchPath template path)
    | _ => .usageError
  | .resolve =>
    match given.arguments with
    | template :: pairs => .run (.resolve template pairs)
    | [] => .usageError
  | .route =>
    match given.arguments with
    | [path] => .run (.route (given.config?.getD defaultConfig) path)
    | _ => .usageError
  | .program | .help => .usageError

def Given.add? (given : Given) (topic : Topic) (argument : String) : Option Given :=
  if topic.most?.any (· ≤ given.arguments.length) then none
  else some { given with arguments := given.arguments ++ [argument] }

/-- Sets the configuration file, which is given once at most and has a name. -/
def Given.setConfig? (given : Given) (config : String) : Option Given :=
  if given.config?.isSome || config.isEmpty then none
  else some { given with config? := some config }

inductive Flag where
  /-- nothing that matters for the answer -/
  | verbose
  | help
  | version
  /-- the value of the configuration option, in the same argument or in the next -/
  | config (value : Option String)
  | unknown
deriving DecidableEq, Repr

/-- Reads letters after one hyphen. `-v` may be repeated and combined; the value of
    `-c` is the rest of the argument, with or without an equals sign. -/
def shortFlag (topic : Topic) : List Char → Flag
  | [] => .verbose
  | c :: cs =>
    if c = 'v' then shortFlag topic cs
    else if c = 'h' then .help
    else if c = 'V' ∧ topic = .program then .version
    else if c = 'c' ∧ topic = .route then
      match cs with
      | [] => .config none
      | '=' :: value => .config (some (String.ofList value))
      | value => .config (some (String.ofList value))
    else .unknown

def longFlag (topic : Topic) (name : List Char) : Flag :=
  if name = "verbose".toList then .verbose
  else if name = "help".toList then .help
  else if name = "version".toList ∧ topic = .program then .version
  else if name = "config".toList ∧ topic = .route then .config none
  else if "config=".toList.isPrefixOf name ∧ topic = .route then
    .config (some (String.ofList (name.drop "config=".length)))
  else .unknown

/-- What an argument says as an option; nothing if it is none. A hyphen alone is an
    ordinary argument. -/
def flagOf? (topic : Topic) (argument : String) : Option Flag :=
  match argument.toList with
  | '-' :: '-' :: name => some (longFlag topic name)
  | '-' :: c :: cs => some (shortFlag topic (c :: cs))
  | _ => none

def readCommand (topic : Topic) (given : Given) : List String → Request
  | [] => given.request topic
  | argument :: rest =>
    if argument = "--" then
      match rest.foldlM (fun given argument => given.add? topic argument) given with
      | some given => given.request topic
      | none => .usageError
    else
      match flagOf? topic argument with
      | none =>
        match given.add? topic argument with
        | some given => readCommand topic given rest
        | none => .usageError
      | some .verbose => readCommand topic given rest
      | some .help => .help topic
      | some .version => .version
      | some .unknown => .usageError
      | some (.config (some value)) =>
        match given.setConfig? value with
        | some given => readCommand topic given rest
        | none => .usageError
      | some (.config none) =>
        match rest with
        | [] => .usageError
        | value :: rest =>
          if (flagOf? topic value).isSome then .usageError
          else
            match given.setConfig? value with
            | some given => readCommand topic given rest
            | none => .usageError

def readHelp : List String → Request
  | [] => .help .program
  | ["help"] => .help .help
  | [name] =>
    match topicOf? name with
    | some topic => .help topic
    | none => .usageError
  | _ => .usageError

def Request.ofArguments : List String → Request
  | [] => .usageError
  | argument :: rest =>
    match topicOf? argument with
    | some topic => readCommand topic {} rest
    | none =>
      if argument = "help" then readHelp rest
      else if argument = "--" then .usageError
      else
        match flagOf? .program argument with
        | some .verbose => Request.ofArguments rest
        | some .help => .help .program
        | some .version => .version
        | _ => .usageError

end Routing.CommandLine
