import PathSession.Config.Basic
import PathSession.Text.Quoted

/-!
# The printed configuration

The effective configuration with every field on a line of its own, as it is shown on request.
-/

namespace PathSession

/-- Indent every line by one step. -/
def indented (lines : List String) : List String := lines.map ("    " ++ ·)

/-- Named fields between braces, under a title. -/
def braced (title : String) (fields : List (List String)) (close : String) : List String :=
  [title ++ " \x7b"] ++ indented fields.flatten ++ ["\x7d" ++ close]

/-- A field with a value that takes one line. -/
def fieldLine (name value : String) : List String := [s!"{name}: {value},"]

/-- A list with every item on a line of its own. -/
def listLines (name : String) (items : List String) : List String :=
  if items.isEmpty then
    [s!"{name}: [],"]
  else
    [s!"{name}: ["] ++ indented (items.map (· ++ ",")) ++ ["],"]

namespace NodeConfig

/-- The lines of the general section. -/
def generalLines (g : GeneralSection) : List String :=
  braced "general: GeneralConfig"
    [fieldLine "role" g.role.title, listLines "peers" (g.peers.map Quoted.text)] ","

/-- The lines of the network section. -/
def networkLines (n : NetworkSection) : List String :=
  braced "network: NetworkConfig"
    [fieldLine "ip" (Quoted.text n.ip),
      fieldLine "port" (toString n.port.toNat),
      fieldLine "max_connection" (toString n.maxConnection.toNat),
      fieldLine "max_package_size" (toString n.maxPackageSize.toNat),
      fieldLine "read_buffer_size" (toString n.readBufferSize.toNat),
      fieldLine "max_empty_reads" (toString n.maxEmptyReads.toNat)] ","

/-- The lines of the session section. -/
def sessionLines (s : SessionSection) : List String :=
  braced "session: SessionConfig"
    [fieldLine "connect_timeout" (toString s.connectTimeout.toNat),
      fieldLine "open_wait" (toString s.openWait.toNat),
      fieldLine "keep_wait" (toString s.keepWait.toNat),
      fieldLine "max_connect_retries" (toString s.maxConnectRetries.toNat),
      fieldLine "keepalive" (toString s.keepalive.toNat),
      fieldLine "dead_timer" (toString s.deadTimer.toNat),
      fieldLine "min_keepalive" (toString s.minKeepalive.toNat),
      fieldLine "max_keepalive" (toString s.maxKeepalive.toNat),
      fieldLine "min_dead_timer" (toString s.minDeadTimer.toNat),
      fieldLine "max_dead_timer" (toString s.maxDeadTimer.toNat),
      fieldLine "allow_negotiation" (if s.allowNegotiation then "true" else "false")] ","

/-- The lines of the worker section. -/
def poolLines (p : PoolSection) : List String :=
  braced "session_worker_pool: SessionWorkerPool"
    [fieldLine "channel_capacity" (toString p.channelCapacity.toNat),
      fieldLine "num_channels" (toString p.numChannels.toNat),
      fieldLine "monitor_interval" (toString p.monitorInterval.toNat),
      fieldLine "worker_check_timeout" (toString p.workerCheckTimeout.toNat)] ","

/-- The whole configuration. -/
def printed (c : NodeConfig) : String :=
  "\n".intercalate (braced "PceeConfig"
    [generalLines c.general, networkLines c.network, sessionLines c.session, poolLines c.pool] "")

end NodeConfig

end PathSession
