import PathSession.Config.Path
import PathSession.Fault
import PathSession.PeerAddress.Reader
import PathSession.Session.Policy
import PathSession.Session.State

/-!
# The configuration of a node

* `NodeConfig` and its sections, with their defaults;
* `NodeConfig.ofValue?`: the configuration that a file describes; what it does not mention keeps
  its default;
* `NodeConfig.check`, `NodeConfig.flaw?_eq_none_iff`: whether a configuration can be run;
* `SessionSection.settings`, `PoolSection.settings`, `GeneralSection.peerAddresses`,
  `NetworkSection.listenAddress`: what the parts of a node take from it.
-/

namespace PathSession

/-- What a node is and whom it talks to. -/
structure GeneralSection where
  role : Role := .server
  /-- peers a client opens sessions to, as `ip:port` -/
  peers : List String := []
  deriving DecidableEq, Repr

/-- The network side of a node. -/
structure NetworkSection where
  ip : String := "127.0.0.1"
  port : UInt16 := 4189
  maxConnection : UInt64 := 1024
  maxPackageSize : UInt64 := 65535
  readBufferSize : UInt64 := 2000
  /-- readable wake-ups in a row without data before a connection is dropped -/
  maxEmptyReads : UInt32 := 2
  deriving DecidableEq, Repr

/-- The sessions of a node; durations are in seconds. -/
structure SessionSection where
  connectTimeout : UInt64 := 60
  openWait : UInt64 := 60
  keepWait : UInt64 := 60
  maxConnectRetries : UInt32 := 5
  /-- the keepalive interval this node proposes -/
  keepalive : UInt8 := 30
  /-- the dead timer this node proposes -/
  deadTimer : UInt8 := 120
  minKeepalive : UInt8 := 1
  maxKeepalive : UInt8 := 255
  minDeadTimer : UInt8 := 4
  maxDeadTimer : UInt8 := 255
  allowNegotiation : Bool := true
  deriving DecidableEq, Repr

/-- The workers of a node; durations are in milliseconds. -/
structure PoolSection where
  channelCapacity : UInt64 := 1024
  /-- 0 stands for one channel per processor -/
  numChannels : UInt64 := 0
  monitorInterval : UInt64 := 5000
  workerCheckTimeout : UInt64 := 200
  deriving DecidableEq, Repr

/-- The configuration of a node. -/
structure NodeConfig where
  general : GeneralSection := {}
  network : NetworkSection := {}
  session : SessionSection := {}
  pool : PoolSection := {}
  deriving DecidableEq, Repr

/-! ## Reading -/

/-- A field that is not mentioned keeps its default. -/
def ConfigValue.orDefault {α : Type} (v : Option ConfigValue) (default : α)
    (read : ConfigValue → Option α) : Option α :=
  match v with
  | none => some default
  | some v => read v

namespace ConfigValue

/-- A value as an octet. -/
def asUInt8? (v : ConfigValue) : Option UInt8 := (v.asNat? UInt8.size).map UInt8.ofNat

/-- A value as a 16 bit number. -/
def asUInt16? (v : ConfigValue) : Option UInt16 := (v.asNat? UInt16.size).map UInt16.ofNat

/-- A value as a 32 bit number. -/
def asUInt32? (v : ConfigValue) : Option UInt32 := (v.asNat? UInt32.size).map UInt32.ofNat

/-- A value as a 64 bit number. -/
def asUInt64? (v : ConfigValue) : Option UInt64 := (v.asNat? UInt64.size).map UInt64.ofNat

/-- A value as a role. -/
def asRole? (v : ConfigValue) : Option Role :=
  match v.asName? with
  | some "client" => some .client
  | some "server" => some .server
  | _ => none

end ConfigValue

open ConfigValue in
/-- The general section that a value describes. -/
def GeneralSection.ofValue? (v : ConfigValue) : Option GeneralSection := do
  let d : GeneralSection := {}
  match ← v.fields? ["role", "peers"] with
  | [role, peers] =>
    some
      { role := ← orDefault role d.role asRole?
        peers := ← orDefault peers d.peers asTexts? }
  | _ => none

open ConfigValue in
/-- The network section that a value describes. -/
def NetworkSection.ofValue? (v : ConfigValue) : Option NetworkSection := do
  let d : NetworkSection := {}
  match ← v.fields? ["ip", "port", "max_connection", "max_package_size", "read_buffer_size",
      "max_empty_reads"] with
  | [ip, port, maxConnection, maxPackageSize, readBufferSize, maxEmptyReads] =>
    some
      { ip := ← orDefault ip d.ip asText?
        port := ← orDefault port d.port asUInt16?
        maxConnection := ← orDefault maxConnection d.maxConnection asUInt64?
        maxPackageSize := ← orDefault maxPackageSize d.maxPackageSize asUInt64?
        readBufferSize := ← orDefault readBufferSize d.readBufferSize asUInt64?
        maxEmptyReads := ← orDefault maxEmptyReads d.maxEmptyReads asUInt32? }
  | _ => none

open ConfigValue in
/-- The session section that a value describes. -/
def SessionSection.ofValue? (v : ConfigValue) : Option SessionSection := do
  let d : SessionSection := {}
  match ← v.fields? ["connect_timeout", "open_wait", "keep_wait", "max_connect_retries",
      "keepalive", "dead_timer", "min_keepalive", "max_keepalive", "min_dead_timer",
      "max_dead_timer", "allow_negotiation"] with
  | [connectTimeout, openWait, keepWait, maxConnectRetries, keepalive, deadTimer, minKeepalive,
      maxKeepalive, minDeadTimer, maxDeadTimer, allowNegotiation] =>
    some
      { connectTimeout := ← orDefault connectTimeout d.connectTimeout asUInt64?
        openWait := ← orDefault openWait d.openWait asUInt64?
        keepWait := ← orDefault keepWait d.keepWait asUInt64?
        maxConnectRetries := ← orDefault maxConnectRetries d.maxConnectRetries asUInt32?
        keepalive := ← orDefault keepalive d.keepalive asUInt8?
        deadTimer := ← orDefault deadTimer d.deadTimer asUInt8?
        minKeepalive := ← orDefault minKeepalive d.minKeepalive asUInt8?
        maxKeepalive := ← orDefault maxKeepalive d.maxKeepalive asUInt8?
        minDeadTimer := ← orDefault minDeadTimer d.minDeadTimer asUInt8?
        maxDeadTimer := ← orDefault maxDeadTimer d.maxDeadTimer asUInt8?
        allowNegotiation := ← orDefault allowNegotiation d.allowNegotiation asBool? }
  | _ => none

open ConfigValue in
/-- The worker section that a value describes. -/
def PoolSection.ofValue? (v : ConfigValue) : Option PoolSection := do
  let d : PoolSection := {}
  match ← v.fields? ["channel_capacity", "num_channels", "monitor_interval",
      "worker_check_timeout"] with
  | [channelCapacity, numChannels, monitorInterval, workerCheckTimeout] =>
    some
      { channelCapacity := ← orDefault channelCapacity d.channelCapacity asUInt64?
        numChannels := ← orDefault numChannels d.numChannels asUInt64?
        monitorInterval := ← orDefault monitorInterval d.monitorInterval asUInt64?
        workerCheckTimeout := ← orDefault workerCheckTimeout d.workerCheckTimeout asUInt64? }
  | _ => none

open ConfigValue in
/-- The configuration that the root of a file describes. -/
def NodeConfig.ofValue? (v : ConfigValue) : Option NodeConfig := do
  let root ← v.root?
  let d : NodeConfig := {}
  some
    { general := ← orDefault (root.lookup "general") d.general GeneralSection.ofValue?
      network := ← orDefault (root.lookup "network") d.network NetworkSection.ofValue?
      session := ← orDefault (root.lookup "session") d.session SessionSection.ofValue?
      pool := ← orDefault (root.lookup "session_worker_pool") d.pool PoolSection.ofValue? }

/-! ## Checking -/

/-- Why a configuration can not be run. -/
inductive ConfigFlaw
  | keepaliveBounds (low high : UInt8)
  | deadTimerBounds (low high : UInt8)
  | packageSize (size : UInt64)
  | readBuffer
  | emptyReads
  deriving DecidableEq, Repr

/-- What is said about a flaw. -/
def ConfigFlaw.text : ConfigFlaw → String
  | keepaliveBounds low high =>
    s!"min_keepalive {low.toNat} is greater than max_keepalive {high.toNat}"
  | deadTimerBounds low high =>
    s!"min_dead_timer {low.toNat} is greater than max_dead_timer {high.toNat}"
  | packageSize size =>
    s!"max_package_size {size.toNat} can not be represented in a message header"
  | readBuffer => "read_buffer_size must be positive"
  | emptyReads => "max_empty_reads must be positive"

/-- The first flaw of a configuration, if it has one. -/
def NodeConfig.flaw? (c : NodeConfig) : Option ConfigFlaw :=
  if c.session.maxKeepalive < c.session.minKeepalive then
    some (.keepaliveBounds c.session.minKeepalive c.session.maxKeepalive)
  else if c.session.maxDeadTimer < c.session.minDeadTimer then
    some (.deadTimerBounds c.session.minDeadTimer c.session.maxDeadTimer)
  else if 65535 < c.network.maxPackageSize then
    some (.packageSize c.network.maxPackageSize)
  else if c.network.readBufferSize = 0 then
    some .readBuffer
  else if c.network.maxEmptyReads = 0 then
    some .emptyReads
  else
    none

/-- A configuration has no flaw if its bounds are in order, the length field can describe the largest
message, and what is read makes progress. -/
theorem NodeConfig.flaw?_eq_none_iff {c : NodeConfig} : c.flaw? = none ↔
    (c.session.minKeepalive ≤ c.session.maxKeepalive ∧
        c.session.minDeadTimer ≤ c.session.maxDeadTimer) ∧
      c.network.maxPackageSize ≤ 65535 ∧ c.network.readBufferSize ≠ 0 ∧
        c.network.maxEmptyReads ≠ 0 := by
  simp only [← UInt8.not_lt, ← UInt64.not_lt, and_assoc]
  unfold flaw?
  repeat' split
  all_goals simp_all

/-- A configuration without flaws. -/
def NodeConfig.check (c : NodeConfig) : Except Fault NodeConfig :=
  match c.flaw? with
  | some flaw => .error (.invalidValue flaw.text)
  | none => .ok c

/-- The checked configuration that the content of a file describes, if it could be read at all. -/
def NodeConfig.load (content : Option ConfigValue) : Except Fault NodeConfig :=
  match content.bind NodeConfig.ofValue? with
  | some c => c.check
  | none => .error (.configFile "the file does not describe a configuration")

/-! ## Views -/

/-- What sessions take from the configuration. -/
def SessionSection.settings (s : SessionSection) : Settings :=
  { connectTimeout := .ofSeconds s.connectTimeout.toNat
    openWait := .ofSeconds s.openWait.toNat
    keepWait := .ofSeconds s.keepWait.toNat
    maxConnectRetries := s.maxConnectRetries
    keepalive := s.keepalive
    deadTimer := s.deadTimer
    policy :=
      { keepalive := ⟨s.minKeepalive, s.maxKeepalive⟩
        deadTimer := ⟨s.minDeadTimer, s.maxDeadTimer⟩
        allowNegotiation := s.allowNegotiation } }

/-- What a worker pool is made with. -/
structure PoolSettings where
  channelCapacity : Nat
  /-- the number of channels, if it does not depend on the machine -/
  numChannels : Option Nat
  monitorInterval : Millis
  workerCheckTimeout : Millis
  deriving DecidableEq, Repr

/-- What the worker pool takes from the configuration. -/
def PoolSection.settings (p : PoolSection) : PoolSettings :=
  { channelCapacity := p.channelCapacity.toNat
    numChannels := if p.numChannels = 0 then none else some p.numChannels.toNat
    monitorInterval := p.monitorInterval.toNat
    workerCheckTimeout := p.workerCheckTimeout.toNat }

/-- Whether a machine can hold the channels of a worker pool: less than `2 ^ 59` of them, each with
room for at least one task and for less than `2 ^ 62`. -/
def PoolSection.fits (p : PoolSection) : Bool :=
  0 < p.channelCapacity && p.channelCapacity < 4611686018427387904 &&
    p.numChannels < 576460752303423488

/-- The address that a server listens on. -/
def NetworkSection.listenAddress (n : NetworkSection) : String := s!"{n.ip}:{n.port.toNat}"

/-- The addresses of the configured peers, or the complaint about the first one that is none. -/
def GeneralSection.peerAddresses (g : GeneralSection) : Except Fault (List PeerAddress) :=
  g.peers.mapM fun text =>
    match PeerAddress.ofText? text with
    | some a => .ok a
    | none => .error (PeerAddress.refusal text)

end PathSession
