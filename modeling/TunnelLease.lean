import TunnelLease.Error.Kind
import TunnelLease.Main
import TunnelLease.Pool.Request
import TunnelLease.Service.Basic
import TunnelLease.Proofs.Block.Members
import TunnelLease.Proofs.Pool.Future
import TunnelLease.Proofs.Pool.Call
import TunnelLease.Proofs.Pool.Invariant
import TunnelLease.Proofs.Pool.Exhaustion
import TunnelLease.Proofs.Pool.Structural
import TunnelLease.Proofs.Pool.Eager
import TunnelLease.Proofs.Pool.Lifecycle
import TunnelLease.Proofs.Pool.Accounting
import TunnelLease.Proofs.Registry.Run
import TunnelLease.Proofs.Pool.Drawing
import TunnelLease.Proofs.Registry.Leasing
import TunnelLease.Proofs.Registry.Rollback
import TunnelLease.Proofs.Registry.Agreement
import TunnelLease.Proofs.Registry.Churn
import TunnelLease.Proofs.Registry.Capacity
import TunnelLease.Proofs.Registry.Record
import TunnelLease.Proofs.Registry.Detection
import TunnelLease.Proofs.Registry.Reach
import TunnelLease.Proofs.Text.Places
import TunnelLease.Proofs.Address.RoundTrip
import TunnelLease.Proofs.Block.HostRoute
import TunnelLease.Proofs.Config.Fit
import TunnelLease.Proofs.Config.Provision
import TunnelLease.Proofs.Config.Reservation
import TunnelLease.Proofs.Service.Run
import TunnelLease.Proofs.Service.Routes
import TunnelLease.Proofs.Address.Canonical
import TunnelLease.Proofs.CommandLine.Reading
import TunnelLease.Proofs.Config.Construction
import TunnelLease.Proofs.Registry.Arrival
import TunnelLease.Proofs.CommandLine.Simulation
import TunnelLease.Proofs.Service.Record
import TunnelLease.Proofs.Subnet.RoundTrip
import TunnelLease.Proofs.Block.Canonical
import TunnelLease.Proofs.Registry.Grant
import TunnelLease.Proofs.Registry.Return
import TunnelLease.Proofs.Pool.Queue
import TunnelLease.Proofs.Block.Range
import TunnelLease.Proofs.Service.Listing
import TunnelLease.Proofs.Pool.Interchange
import TunnelLease.Proofs.Registry.Interchange
import TunnelLease.Proofs.Config.Spelling
import TunnelLease.Proofs.Text.Trimming
import TunnelLease.Proofs.Text.Utf8
import TunnelLease.Proofs.Settings.Lines
import TunnelLease.Proofs.Settings.Writing
import TunnelLease.Proofs.Text.Integer
import TunnelLease.Proofs.Config.Writing
import TunnelLease.Proofs.Template.Written
import TunnelLease.Proofs.Error.Wording
import TunnelLease.Proofs.Error.Message
