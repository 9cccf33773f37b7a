import PathSession.CommandLine
import PathSession.Config.File
import PathSession.Config.Printer
import PathSession.Environment
import PathSession.LogFilter
import PathSession.Node

/-!
# What the program does

The outcome of a command line in a folder: a text to print, a failure, or a node that runs until
it is interrupted.

* `Plan`, `Plan.ofArgs`: what a command line comes to;
* `NodeRun.remarks`: what a node without peers remarks on.
-/

namespace PathSession

/-- The level that is shown if nothing else says so, by how often more was asked for. -/
def CommandLine.filterText (c : CommandLine) : String :=
  match c.verbosity with
  | 0 => "warn"
  | 1 => "info"
  | 2 => "debug"
  | _ => "trace"

/-- The name of the configuration file. -/
def CommandLine.confName (c : CommandLine) : String := c.conf.getD "conf.toml"

/-- The version of the program. -/
def programVersion : String := "0.1.0"

/-- A node that is about to run. -/
structure NodeRun where
  config : NodeConfig
  confName : String
  filter : LogFilter
  /-- a log file is written -/
  logFile : Bool
  deriving DecidableEq, Repr

namespace NodeRun

/-- What is said about a node before it starts, after the name of the program. -/
def banner (r : NodeRun) : String :=
  s!"{programVersion} as {r.config.general.role.title} with config {r.confName}"

/-- The first remark of the program. -/
def bannerEntry (r : NodeRun) : Entry := ⟨.info, s!"starting pcee {r.banner}", []⟩

/-- The place of the program's own remarks. -/
def place : String := "pcee"

/-- What a filter sees of a remark. -/
structure Remark where
  place : String
  level : Level
  /-- the names of the values that go with the text -/
  values : List String := []
  deriving DecidableEq, Repr

/-- Whether a remark is shown.  The text of a remark counts as a value. -/
def Remark.shown (filter : LogFilter) (r : Remark) : Bool :=
  filter.allows r.place ("message" :: r.values) r.level

/-- The remark that a node is about to start. -/
def starting : Remark := { place, level := .info }

/-- How long a node waits between the interrupt and its end, so that farewells can be written. -/
def farewell : Millis := 200

/-- What the monitor of the worker pool remarks on.  It looks after the workers one after the
other, and tells that one runs when it has waited for the end of it in vain. -/
def monitorRemarks (p : PoolSettings) : List Remark :=
  let place := "pcee::utils::multiple_channel_worker_pool"
  { place, level := .debug } ::
    if p.monitorInterval ≠ 0 ∧ p.workerCheckTimeout ≤ farewell then
      [{ place, level := .trace }]
    else
      []

/-- What a node remarks on from its start to its end, if nobody ever talks to it. -/
def remarks (r : NodeRun) : List Remark :=
  let listening : List Remark := match r.config.general.role with
    | .server => [{ place := "pcee::network::dispatcher", level := .info }]
    | .client => []
  let exported : List Remark :=
    if r.logFile then [{ place := "pcee::service::tracing_config", level := .info }] else []
  [starting,
      { place := "pcee::service::engine", level := .info, values := ["role", "local_addr"] }] ++
    listening ++ monitorRemarks r.config.pool.settings ++
    [{ place := "pcee::network::dispatcher", level := .debug },
      { place := "pcee::network::dispatcher", level := .debug, values := ["connections"] },
      { place := "pcee::session::timer", level := .debug },
      { place := "pcee::session::timer", level := .debug, values := ["pending"] },
      { place := "pcee::service::node", level := .info },
      { place := "pcee::service::node", level := .trace }] ++
    exported

/-- Whether remarks of a level are shown. -/
def shows (r : NodeRun) (level : Level) : Bool :=
  r.remarks.any fun remark => remark.level = level && remark.shown r.filter

/-- The banner, if it is shown. -/
def shownBanner? (r : NodeRun) : Option String :=
  if starting.shown r.filter then some r.banner else none

end NodeRun

/-- What a command line comes to. -/
inductive Plan
  | help
  | version
  | misuse
  /-- print a text and end -/
  | print (text : String)
  | fail (fault : Fault) (logFile : Bool)
  /-- break off, since the workers do not fit into the machine -/
  | breakOff (logFile : Bool)
  /-- run a node until it is interrupted -/
  | run (r : NodeRun)

namespace Plan

/-- What a sensible command line comes to. -/
def ofCommand (c : CommandLine) (env : Environment) (folder : Folder) : Plan :=
  let filterText := ((env.inFolder folder).lookup "RUST_LOG").getD c.filterText
  match NodeConfig.ofFolder folder c.confName with
  | .error f => .fail f false
  | .ok config =>
    if c.subcommand = some .printConfig then
      .print (config.printed ++ "\n")
    else
      let r : NodeRun :=
        { config, confName := c.confName, filter := .ofText filterText, logFile := c.otel }
      match config.startable with
      | .error f => .fail f c.otel
      | .ok _ => if config.pool.fits then .run r else .breakOff c.otel

/-- What the arguments come to, in the given environment and with the files of the folder. -/
def ofArgs (args : List String) (env : Environment) (folder : Folder) : Plan :=
  match Invocation.ofArgs args with
  | .help => .help
  | .version => .version
  | .misuse => .misuse
  | .command c => ofCommand c env folder

end Plan

/-- The word that names the kind of a failure. -/
def Fault.kind : Fault → String
  | invalidValue _ => "InvalidValue"
  | invalidOperation _ => "InvalidOperation"
  | ioDetail _ => "DetailedIoError"
  | io _ => "IoError"
  | channelSend _ => "ChannelSendError"
  | configFile _ => "ConfigFileError"
  | tracing _ => "TracingError"
  | incomplete => "Incomplete"
  | framing _ => "FramingError"
  | malformed _ => "MalformedMessage"
  | tooLarge _ => "MessageTooLarge"
  | unknownPeer _ => "UnknownPeer"
  | sessionExists _ => "SessionExists"

/-- A failure as the program ends with it: its kind and what it says. -/
def Fault.inspect : Fault → String
  | invalidValue detail => s!"InvalidValue({Quoted.text detail})"
  | invalidOperation detail => s!"InvalidOperation({Quoted.text detail})"
  | ioDetail detail => s!"DetailedIoError({Quoted.text detail})"
  | channelSend detail => s!"ChannelSendError({Quoted.text detail})"
  | tracing detail => s!"TracingError({Quoted.text detail})"
  | framing detail => s!"FramingError({Quoted.text detail})"
  | malformed detail => s!"MalformedMessage({Quoted.text detail})"
  | tooLarge detail => s!"MessageTooLarge({Quoted.text detail})"
  | unknownPeer peer => s!"UnknownPeer({peer.text})"
  | sessionExists peer => s!"SessionExists({peer.text})"
  | f => f.kind

/-! ## Setting up the journal -/

/-- The two ways in which the journal can be set up. -/
inductive JournalSetup
  /-- on the console -/
  | console
  /-- on the console and in a file, with spans exported -/
  | exported
  deriving DecidableEq, Repr

namespace JournalSetup

/-- The outcomes of several set-ups in one process: only the first one succeeds. -/
def outcomes : List JournalSetup → List (Except Fault Unit)
  | [] => []
  | _ :: rest =>
    .ok () :: rest.map fun _ =>
      .error (.tracing "a global default trace dispatcher has already been set")

/-- Whether the set-ups make a log file. -/
def makesFile (setups : List JournalSetup) : Bool := setups.contains .exported

end JournalSetup

end PathSession
