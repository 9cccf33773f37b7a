/-!
# The command line

* `CommandLine`: what is asked for;
* `Invocation`, `Invocation.ofArgs`: the meaning of the arguments.

Options stand in front of the subcommand.  Short options may share one dash, and the value of an
option may follow it in the same argument or in the next one.
-/

namespace PathSession

/-- What the program can do. -/
inductive Subcommand
  /-- print the effective configuration -/
  | printConfig
  /-- run the node -/
  | run
  deriving DecidableEq, Repr

/-- What is asked for. -/
structure CommandLine where
  /-- the configuration file -/
  conf : Option String := none
  subcommand : Option Subcommand := none
  /-- how often more remarks were asked for -/
  verbosity : Nat := 0
  /-- export spans and write a log file -/
  otel : Bool := false
  deriving DecidableEq, Repr

/-- The meaning of the arguments. -/
inductive Invocation
  | command (c : CommandLine)
  | help
  | version
  /-- the arguments make no sense -/
  | misuse
  deriving DecidableEq, Repr

namespace Invocation

/-- The subcommand of a name. -/
def subcommand? : String → Option Subcommand
  | "print-config" => some .printConfig
  | "run" => some .run
  | _ => none

/-- The arguments behind a subcommand, which takes none of its own. -/
def ofSubcommand (c : CommandLine) : List String → Invocation
  | [] => .command c
  | ["--"] => .command c
  | "--help" :: _ => .help
  | arg :: _ => if arg.startsWith "-h" then .help else .misuse

/-- The arguments behind `help`: at most the name of a subcommand. -/
def ofHelp : List String → Invocation
  | [] => .help
  | [name] => if (subcommand? name).isSome || name = "help" then .help else .misuse
  | _ => .misuse

/-- Whether an argument can be the value of the option in front of it. -/
def isValue (arg : String) : Bool := arg = "-" || !arg.startsWith "-"

/-- What an argument of short options asks for. -/
inductive Cluster
  /-- go on with the next argument -/
  | done (c : CommandLine)
  /-- the next argument names the configuration file -/
  | wantsConf (c : CommandLine)
  | final (i : Invocation)

/-- Name the configuration file, which may be done once. -/
def setConf (c : CommandLine) (value : String) : Option CommandLine :=
  match c.conf with
  | some _ => none
  | none => some { c with conf := some value }

/-- The short options of one argument. -/
def ofCluster (c : CommandLine) : List Char → Cluster
  | [] => .done c
  | 'v' :: rest => ofCluster { c with verbosity := c.verbosity + 1 } rest
  | 'h' :: _ => .final .help
  | 'V' :: _ => .final .version
  | ['c'] => .wantsConf c
  | 'c' :: rest =>
    let value := match rest with
      | '=' :: value => value
      | value => value
    match setConf c (String.ofList value) with
    | some c => .done c
    | none => .final .misuse
  | _ => .final .misuse

/-- A long option, without its value if it has one. -/
def ofLong (c : CommandLine) : String → Cluster
  | "verbose" => .done { c with verbosity := c.verbosity + 1 }
  | "otel" => if c.otel then .final .misuse else .done { c with otel := true }
  | "conf" => .wantsConf c
  | "help" => .final .help
  | "version" => .final .version
  | _ => .final .misuse

/-- A long option with a value in the same argument. -/
def ofLongValue (c : CommandLine) (name value : String) : Cluster :=
  if name = "conf" then
    match setConf c value with
    | some c => .done c
    | none => .final .misuse
  else
    .final .misuse

/-- What one argument asks for that starts with a dash. -/
def ofOption (c : CommandLine) (arg : String) : Cluster :=
  match arg.toList with
  | '-' :: '-' :: name =>
    match name.dropWhile (· ≠ '=') with
    | '=' :: value =>
      ofLongValue c (String.ofList (name.takeWhile (· ≠ '='))) (String.ofList value)
    | _ => ofLong c (String.ofList name)
  | _ :: options => ofCluster c options
  | [] => .final .misuse

/-- The meaning of the arguments that are left. -/
def go (c : CommandLine) : List String → Invocation
  | [] => .command c
  | ["--"] => .command c
  | [arg] =>
    if isValue arg then
      match subcommand? arg with
      | some s => .command { c with subcommand := some s }
      | none => if arg = "help" then .help else .misuse
    else
      match ofOption c arg with
      | .done c => .command c
      | .wantsConf _ => .misuse
      | .final i => i
  | arg :: next :: rest =>
    if arg = "--" then .misuse
    else if isValue arg then
      match subcommand? arg with
      | some s => ofSubcommand { c with subcommand := some s } (next :: rest)
      | none => if arg = "help" then ofHelp (next :: rest) else .misuse
    else
      match ofOption c arg with
      | .done c => go c (next :: rest)
      | .wantsConf c =>
        if isValue next then
          match setConf c next with
          | some c => go c rest
          | none => .misuse
        else
          .misuse
      | .final i => i

/-- The meaning of the arguments. -/
def ofArgs (args : List String) : Invocation := go {} args

end Invocation

end PathSession
