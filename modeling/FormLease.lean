import FormLease.Address.Redacted
import FormLease.Binary64
import FormLease.Caller
import FormLease.Claimant
import FormLease.Scenario.Stage
import FormLease.Settings
import FormLease.Text.Alphanumeric
import FormLease.Journal.Directive
import FormLease.Pattern.Charset
import FormLease.Pattern
import FormLease.Pattern.Reader
import FormLease.Journal.Filter
import FormLease.Address.Ipv4
import FormLease.Address.Domain
import FormLease.Address.Ipv6
import FormLease.Text.Utf8
import FormLease.Address.Percent
import FormLease.Address.Url
import FormLease.Claimant.Run
import FormLease.Journal.Line
import FormLease.Network
import FormLease.Postgres.Exchange
import FormLease.Postgres.Target
import FormLease.Postgres.Store
import FormLease.Redis.Exchange
import FormLease.Redis.Store
import FormLease.Redis.Target
import FormLease.Fault.Report
import FormLease.Probe
import FormLease.Claimant.Seed
import FormLease.Main
import FormLease.Proofs.Table.Desk
import FormLease.Proofs.Table.Holders
import FormLease.Proofs.Directory
import FormLease.Proofs.Table.Prompt
import FormLease.Proofs.Table.Apart
import FormLease.Proofs.Scene.Step
import FormLease.Proofs.Scene.Chronicle
import FormLease.Proofs.Scene.Exclusion
import FormLease.Proofs.Fraction
import FormLease.Proofs.Call.Trace
import FormLease.Proofs.Call.Waits
import FormLease.Proofs.Call.Ceiling
import FormLease.Proofs.ResourceKey
import FormLease.Proofs.Call.SharedDesk
import FormLease.Proofs.Scene.Notice
import FormLease.Proofs.Call.Effect
import FormLease.Proofs.Call.Account
import FormLease.Proofs.Call.InStep
import FormLease.Proofs.Scene.Rows
import FormLease.Proofs.Settings.Added
import FormLease.Proofs.Settings.Leaf
import FormLease.Proofs.Settings.Layers
import FormLease.Proofs.Settings.Sources
import FormLease.Proofs.Call.Warnings
import FormLease.Proofs.Call.Schedule
import FormLease.Proofs.Call.OnPar
import FormLease.Proofs.Call.Bracket
import FormLease.Proofs.Call.Session
import FormLease.Proofs.Call.BracketEffect
import FormLease.Proofs.Scene.Seat
import FormLease.Text.Offset
import FormLease.Proofs.Text.Cut
import FormLease.Proofs.Text.Offset
import FormLease.Proofs.Address.Redacted
import FormLease.Proofs.Table.Refusals
import FormLease.Proofs.Call.Log
import FormLease.Proofs.Call.Attempts
import FormLease.Proofs.Call.Servers
import FormLease.Proofs.Call.Measures
import FormLease.Proofs.Scene.Metered
import FormLease.Proofs.Scene.Tally
import FormLease.Proofs.Fault
import FormLease.Proofs.RetryPolicy.Sum
import FormLease.Proofs.Backoff
import FormLease.Proofs.Text.Digits
