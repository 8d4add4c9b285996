import RustGuard.Lib.BoundedMap
import RustGuard.Lib.Machine
import RustGuard.Lib.Bytes
import RustGuard.Lib.Ipv4
import RustGuard.Lib.Ipv6
import RustGuard.Lib.Json
import RustGuard.Lib.Utf8Lossy
import RustGuard.Lib.Layout
import RustGuard.Lib.RingBuf
import RustGuard.Lib.Writes
import RustGuard.Lib.Readable
import RustGuard.Basic
import RustGuard.Xdp
import RustGuard.Daemon
import RustGuard.Wire
import RustGuard.Accept
import RustGuard.Client
import RustGuard.Hooks
import RustGuard.Monitor
import RustGuard.Startup
import RustGuard.Pipeline
import RustGuard.Ledger
import RustGuard.Proofs.Verdict
import RustGuard.Proofs.Port
import RustGuard.Proofs.Dispatch
import RustGuard.Proofs.Enforcement
import RustGuard.Proofs.Answers
import RustGuard.Proofs.Dump
import RustGuard.Proofs.Clock
import RustGuard.Proofs.Ttl
import RustGuard.Proofs.Stats
import RustGuard.Proofs.Expiry
import RustGuard.Ideal
import RustGuard.Proofs.Interleaving
import RustGuard.Proofs.Serial
import RustGuard.Proofs.Waiting
import RustGuard.Proofs.Exchange
import RustGuard.Proofs.Addresses
import RustGuard.Proofs.Lines
import RustGuard.Proofs.Cache
import RustGuard.Proofs.Startup
import RustGuard.Proofs.Pipeline
import RustGuard.Proofs.Columns
import RustGuard.Proofs.Outcome
import RustGuard.Proofs.EndToEnd
import RustGuard.Proofs.Rest
import RustGuard.Debug
import RustGuard.Proofs.Debug
import RustGuard.Proofs.Order
import RustGuard.Proofs.Targets
import RustGuard.Host
import RustGuard.Proofs.Host
