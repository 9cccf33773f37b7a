import PathSession.Engine.Bench
import PathSession.Main
import PathSession.Network.FabricScript
import PathSession.Network.LinkScript
import PathSession.Proofs.Config.Safety
import PathSession.Proofs.Engine.Calling
import PathSession.Proofs.Engine.Chronicle
import PathSession.Proofs.Engine.Durations
import PathSession.Proofs.Engine.Expiries
import PathSession.Proofs.Engine.Independence
import PathSession.Proofs.Engine.Reception
import PathSession.Proofs.Engine.Registering
import PathSession.Proofs.Engine.SessionIds
import PathSession.Proofs.Engine.Supervision
import PathSession.Proofs.Engine.Timekeeping
import PathSession.Proofs.Engine.Tokens
import PathSession.Proofs.Network.Accounts
import PathSession.Proofs.Network.EmptyReads
import PathSession.Proofs.Network.Ownership
import PathSession.Proofs.Network.Provenance
import PathSession.Proofs.Network.Tables
import PathSession.Proofs.Pair.Handshake
import PathSession.Proofs.Pair.Traffic
import PathSession.Proofs.Session.Attempts
import PathSession.Proofs.Session.Compromise
import PathSession.Proofs.Session.Parting
import PathSession.Proofs.Session.Release
import PathSession.Proofs.Session.Retries
import PathSession.Proofs.Session.Routing
import PathSession.Proofs.Session.Transitions
import PathSession.Proofs.Session.Unread
import PathSession.Proofs.Session.Viability
import PathSession.Proofs.Timers.Service
import PathSession.Proofs.Wire.Grammar
import PathSession.Proofs.Wire.Roundtrip
import PathSession.Proofs.Wire.Splitting
