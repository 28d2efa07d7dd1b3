import Gatehouse.CommandLine
import Gatehouse.Filter.Builtin
import Gatehouse.Filter.Guard
import Gatehouse.Filter.Options
import Gatehouse.Filter.Passage
import Gatehouse.Filter.Pipeline
import Gatehouse.Filter.Screen
import Gatehouse.Filter.Scripted
import Gatehouse.Filter.Tally
import Gatehouse.Http.Cookie
import Gatehouse.Http.Demo
import Gatehouse.Http.Echo
import Gatehouse.Http.Gate
import Gatehouse.Http.HeaderValue
import Gatehouse.Http.Message
import Gatehouse.Http.Server
import Gatehouse.Http.Target
import Gatehouse.Link.Decoration
import Gatehouse.Link.Form
import Gatehouse.Link.Stamp
import Gatehouse.Main
import Gatehouse.Nonce.Token
import Gatehouse.Nonce.Window
import Gatehouse.Registry
import Gatehouse.Routing.Directory
import Gatehouse.Routing.Pattern
import Gatehouse.Routing.Phase
import Gatehouse.Routing.Rule
import Gatehouse.Session.Service
import Gatehouse.Session.Store
import Gatehouse.Settings.Address
import Gatehouse.Settings.Audit
import Gatehouse.Settings.Decode
import Gatehouse.Settings.Init
import Gatehouse.Settings.Load
import Gatehouse.Settings.Schema
import Gatehouse.Text.Ascii
import Gatehouse.Text.Blank
import Gatehouse.Text.Cut
import Gatehouse.Text.Hex
import Gatehouse.Text.Json
import Gatehouse.Text.Numeral
import Gatehouse.Text.Utf8
import Gatehouse.Toml.Chars
import Gatehouse.Toml.Datetime
import Gatehouse.Toml.Document
import Gatehouse.Toml.Numbers
import Gatehouse.Toml.Quoted
import Gatehouse.Toml.Value
import Gatehouse.Proofs.Session.Access
import Gatehouse.Proofs.Session.Diary
import Gatehouse.Proofs.Session.Eager
import Gatehouse.Proofs.Session.Confined
import Gatehouse.Proofs.Text.Trim
import Gatehouse.Proofs.Guard.Options
import Gatehouse.Proofs.Guard.Pass
import Gatehouse.Proofs.Guard.Reach
import Gatehouse.Proofs.Guard.Grant
import Gatehouse.Proofs.Guard.History
import Gatehouse.Proofs.Pipeline.Build
import Gatehouse.Proofs.Pipeline.Turns
import Gatehouse.Proofs.Pipeline.Chain
import Gatehouse.Proofs.Pipeline.Balance
import Gatehouse.Proofs.Pipeline.News
import Gatehouse.Proofs.Pipeline.Makers
import Gatehouse.Proofs.Gate.Provenance
import Gatehouse.Proofs.Text.Utf8
import Gatehouse.Proofs.Text.Numeral
import Gatehouse.Proofs.Link.Decoding
import Gatehouse.Proofs.Link.Query
import Gatehouse.Proofs.Link.Limit
import Gatehouse.Proofs.Link.Encoding
import Gatehouse.Proofs.Link.Names
import Gatehouse.Proofs.Guard.Links
import Gatehouse.Proofs.Pipeline.Course
import Gatehouse.Proofs.Pipeline.RoundTrip
import Gatehouse.Proofs.Pipeline.Screening
import Gatehouse.Proofs.Concurrency.Calls
import Gatehouse.Proofs.Concurrency.Joint
import Gatehouse.Proofs.Concurrency.Ended
import Gatehouse.Proofs.Routing.Coverage
import Gatehouse.Proofs.Routing.Grammar
import Gatehouse.Proofs.Routing.Failures
import Gatehouse.Proofs.Routing.Registration
import Gatehouse.Proofs.Routing.BestMatch
import Gatehouse.Proofs.Routing.Reordering
import Gatehouse.Proofs.Routing.Definition
import Gatehouse.Proofs.Pipeline.Resolution
import Gatehouse.Proofs.Settings.Agreement
import Gatehouse.Proofs.Settings.Reading
import Gatehouse.Proofs.Nonce.Fifo
import Gatehouse.Proofs.Pipeline.Halt
import Gatehouse.Proofs.Pipeline.Isolation
import Gatehouse.Proofs.Http.Cookie
import Gatehouse.Proofs.Gate.Account
import Gatehouse.Proofs.Gate.Admission
import Gatehouse.Proofs.Guard.Definition
import Gatehouse.Proofs.Http.Listing
import Gatehouse.Proofs.Settings.Completeness
import Gatehouse.Proofs.Settings.Reference
import Gatehouse.Proofs.Session.Forwarding
import Gatehouse.Proofs.Routing.Refusal
import Gatehouse.Proofs.Text.ByteOrder
import Gatehouse.Proofs.Settings.LeftOver
