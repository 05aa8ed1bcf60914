import SlashLine.Command.Request
import SlashLine.Main
import SlashLine.Timestamp.Reading
import SlashLine.Proofs.Dispatch.Course
import SlashLine.Proofs.Dispatch.History
import SlashLine.Proofs.Dispatch.Phase
import SlashLine.Proofs.Dispatch.Reporting
import SlashLine.Proofs.Dispatch.Congruence
import SlashLine.Proofs.Dispatch.Consulting
import SlashLine.Proofs.Dispatch.Painting
import SlashLine.Proofs.Dispatch.Isolation
import SlashLine.Proofs.Recovery.Ledger
import SlashLine.Proofs.Recovery.Requests
import SlashLine.Proofs.Recovery.Tracking
import SlashLine.Proofs.Recovery.Budget
import SlashLine.Proofs.Command.Spelling
import SlashLine.Proofs.Command.Writing
import SlashLine.Proofs.Command.Fitting
import SlashLine.Proofs.Command.Resolution
import SlashLine.Proofs.Command.Reading
import SlashLine.Proofs.Command.Detection
import SlashLine.Proofs.Command.Joining
import SlashLine.Proofs.Command.Requesting
import SlashLine.Proofs.Command.Positions
import SlashLine.Proofs.Command.NumberFlag
import SlashLine.Proofs.Fault.Tally
import SlashLine.Proofs.Recovery.Memory
import SlashLine.Proofs.Output.Feedback
import SlashLine.Proofs.Output.Rendering
import SlashLine.Proofs.Fault.Discretion
import SlashLine.Proofs.Command.Registration
import SlashLine.Proofs.Config.Bounds
import SlashLine.Proofs.Session.Opening
import SlashLine.Proofs.Recovery.Attempts
import SlashLine.Proofs.Command.Demands
import SlashLine.Proofs.Output.Exchange
import SlashLine.Proofs.Fault.Sanitizing
import SlashLine.Proofs.Fault.Ranking
import SlashLine.Proofs.Command.Suggesting
import SlashLine.Proofs.Tips.Prioritizing
import SlashLine.Proofs.Config.Paths
import SlashLine.Proofs.Command.Overview
import SlashLine.Proofs.Numeric.Overflow
import SlashLine.Proofs.Dispatch.Listing
import SlashLine.Proofs.Dispatch.Inquiring
