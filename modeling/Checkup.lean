import Checkup.Address
import Checkup.Binding.Basic
import Checkup.Binding.Document
import Checkup.Broker
import Checkup.Cache
import Checkup.Cluster.Certificate
import Checkup.Cluster.Client
import Checkup.Cluster.Credential
import Checkup.Cluster.Kubeconfig
import Checkup.Cluster.Manifest
import Checkup.Cluster.Probe
import Checkup.Cluster.Reachability
import Checkup.Cluster.Resource
import Checkup.CommandLine.Flags
import Checkup.CommandLine.Program
import Checkup.Config.Basic
import Checkup.Config.Options
import Checkup.Database
import Checkup.Fault
import Checkup.FileShare
import Checkup.Files.Path
import Checkup.Files.System
import Checkup.Harness
import Checkup.Http.Domain
import Checkup.Http.Domain.Character
import Checkup.Http.Domain.CodePoints
import Checkup.Http.Domain.Composition
import Checkup.Http.Domain.Mapping
import Checkup.Http.Domain.Spelling
import Checkup.Http.Exchange
import Checkup.Http.Form
import Checkup.Http.Percent
import Checkup.Http.Punycode
import Checkup.Http.Target
import Checkup.Http.Url
import Checkup.Identity.Basic
import Checkup.Identity.Client
import Checkup.Identity.Probe
import Checkup.Json.Bytes
import Checkup.Json.Printer
import Checkup.Json.Record
import Checkup.Json.Syntax
import Checkup.Json.Value
import Checkup.Main
import Checkup.Node.Basic
import Checkup.Node.Wire
import Checkup.Numeric.Double
import Checkup.Numeric.Power
import Checkup.Numeric.Shortest
import Checkup.ObjectStore
import Checkup.Platform
import Checkup.Presence
import Checkup.Probe
import Checkup.Proofs.Binding.Demand
import Checkup.Proofs.Binding.Description
import Checkup.Proofs.Binding.Document
import Checkup.Proofs.Binding.Port
import Checkup.Proofs.Broker.Channel
import Checkup.Proofs.Broker.RoundTrip
import Checkup.Proofs.Cluster.Cancellation
import Checkup.Proofs.Cluster.Connection
import Checkup.Proofs.Cluster.Contract
import Checkup.Proofs.Cluster.Deployment
import Checkup.Proofs.Cluster.Manifest
import Checkup.Proofs.Cluster.Record
import Checkup.Proofs.Cluster.Teardown
import Checkup.Proofs.Cluster.Unwinding
import Checkup.Proofs.CommandLine.ExitCode
import Checkup.Proofs.Config.Validation
import Checkup.Proofs.Fault.Leaf
import Checkup.Proofs.FileShare.Containment
import Checkup.Proofs.Files.Path
import Checkup.Proofs.Guards
import Checkup.Proofs.Harness.Composition
import Checkup.Proofs.Harness.Guarded
import Checkup.Proofs.Harness.TimeLimit
import Checkup.Proofs.Http.Exchange
import Checkup.Proofs.Http.Form
import Checkup.Proofs.Http.Request
import Checkup.Proofs.Http.Siblings
import Checkup.Proofs.Http.Target
import Checkup.Proofs.Http.Url
import Checkup.Proofs.Identity.Authorization
import Checkup.Proofs.Identity.Bodies
import Checkup.Proofs.Identity.Cleanup
import Checkup.Proofs.Identity.Creation
import Checkup.Proofs.Identity.Failure
import Checkup.Proofs.Identity.Requests
import Checkup.Proofs.Json.Compact
import Checkup.Proofs.Json.Entries
import Checkup.Proofs.Json.Fields
import Checkup.Proofs.Json.Grammar
import Checkup.Proofs.Json.Indented
import Checkup.Proofs.Json.Meaning
import Checkup.Proofs.Json.Record
import Checkup.Proofs.Json.Spelling
import Checkup.Proofs.Node.Listing
import Checkup.Proofs.Node.RoundTrip
import Checkup.Proofs.Node.Spelling
import Checkup.Proofs.Numeric.Arithmetic
import Checkup.Proofs.Numeric.Nearest
import Checkup.Proofs.Numeric.Rounding
import Checkup.Proofs.Numeric.Value
import Checkup.Proofs.Registry.Order
import Checkup.Proofs.Registry.Rejection
import Checkup.Proofs.Script.Contract
import Checkup.Proofs.Script.Frame
import Checkup.Proofs.Script.Stages
import Checkup.Proofs.Span.Seconds
import Checkup.Proofs.StatusServer.Lock
import Checkup.Proofs.StatusServer.Serve
import Checkup.Proofs.StepLog.Record
import Checkup.Proofs.Store.Release
import Checkup.Proofs.Text.Blank
import Checkup.Proofs.Text.Decimal
import Checkup.Proofs.Text.Split
import Checkup.Proofs.Text.Utf8
import Checkup.Proofs.Timed.Basic
import Checkup.Proofs.Timed.Ensures
import Checkup.Proofs.Timed.Exits
import Checkup.Proofs.Timed.Reaches
import Checkup.Proofs.Timed.Runs
import Checkup.Proofs.Timed.Sequencing
import Checkup.Proofs.Wait.Bounds
import Checkup.Proofs.Wait.Breakdown
import Checkup.Proofs.Wait.Diagnosis
import Checkup.Proofs.Wait.Discipline
import Checkup.Proofs.Wait.Polls
import Checkup.Proofs.Wait.Resolution
import Checkup.Proofs.Wait.Schedule
import Checkup.Proofs.Wait.Spec
import Checkup.Proofs.Wait.Timing
import Checkup.Proofs.Wait.Transient
import Checkup.Proofs.Wait.Turn
import Checkup.Publish.Dashboard
import Checkup.Publish.Error
import Checkup.Registry
import Checkup.Rehearsal
import Checkup.Script
import Checkup.Span
import Checkup.StatusServer
import Checkup.StepLog
import Checkup.Text.Base64
import Checkup.Text.Blank
import Checkup.Text.Decimal
import Checkup.Text.Hexadecimal
import Checkup.Text.Quoted
import Checkup.Text.Split
import Checkup.Text.Unprintable
import Checkup.Text.Utf8
import Checkup.Timed.Basic
import Checkup.Wait.Backoff
import Checkup.Wait.Error
import Checkup.Wait.Spec
import Checkup.Wait.Waiter
import Checkup.Yaml.Layout
import Checkup.Yaml.Property
import Checkup.Yaml.Record
import Checkup.Yaml.Scalar
import Checkup.Yaml.Spot
import Checkup.Yaml.Token
import Checkup.Yaml.Tree
import Checkup.Yaml.Value
