import Naco.Lib.Fnmatch
import Naco.Lib.Datetime
import Naco.Netutils
import Naco.Models
import Naco.Context
import Naco.Conditions
import Naco.Engine
import Naco.Clients
import Naco.Service
import Naco.Reevaluate
import Naco.Simulator
import Naco.Routes.Mutation
import Naco.Proof.Simulator
import Naco.Proof.Sessions
import Naco.Proof.Counters
import Naco.Proof.Lookup
import Naco.Proof.Edits
import Naco.Proof.Schedule
import Naco.Proof.Groups
import Naco.Proof.Policies
import Naco.Proof.PolicyEditor
import Naco.Proof.Reorder
import Naco.Proof.Overnight
import Naco.Proof.Context
import Naco.Proof.Digest
import Naco.Proof.Coa
import Naco.Proof.Disconnect
import Naco.Proof.Worker
import Naco.Proof.Operators
import Naco.Proof.Guesses
import Naco.Proof.SignIns
import Naco.Proof.Usernames
import Naco.Proof.Delays
import Naco.Proof.Maintenance
import Naco.Proof.Directory
import Naco.Proof.Spellings
import Naco.Proof.Rotation
import Naco.Proof.Verified
import Naco.Proof.Tacacs.Commands
import Naco.Proof.Tacacs.Login
import Naco.Proof.Tacacs.Packets
import Naco.Proof.Tacacs.Bodies
import Naco.Proof.Explain
import Naco.Proof.MacForms
import Naco.Proof.Stations
import Naco.Proof.Site
import Naco.Proof.SlidingWindow
import Naco.Proof.Isolation
import Naco.Proof.TimingDummy
import Naco.Proof.Metrics
import Naco.Proof.MasterKey
import Naco.Proof.SessionLife
import Naco.Proof.Tacacs.CommandWords
import Naco.Proof.Tacacs.ServiceLines
import Naco.Proof.Tacacs.Slots
import Naco.Proof.IgnoringCase
import Naco.Proof.Redaction
import Naco.Proof.Imports
import Naco.Proof.RlmAttrs
import Naco.Proof.Exports
import Naco.Proof.Disconnecting
import Naco.Proof.Events
import Naco.Proof.Overview
import Naco.Proof.Portal
import Naco.Proof.Retention
import Naco.Proof.Lists
