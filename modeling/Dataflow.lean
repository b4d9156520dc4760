import Dataflow.Table
import Dataflow.NameMap
import Dataflow.Slot
import Dataflow.Store
import Dataflow.Number.Binary64
import Dataflow.Number.Shortest
import Dataflow.Text.Shown
import Dataflow.Text.Quoted
import Dataflow.Json.Basic
import Dataflow.Json.Reader
import Dataflow.Json.Printer
import Dataflow.Payload
import Dataflow.Failure
import Dataflow.Schema.Shape
import Dataflow.Schema
import Dataflow.Result
import Dataflow.Policy
import Dataflow.Recipe
import Dataflow.Node
import Dataflow.Source
import Dataflow.Engine.Basic
import Dataflow.Engine.Subscriptions
import Dataflow.Engine.Gates
import Dataflow.Pipeline
import Dataflow.Seats
import Dataflow.Flight
import Dataflow.Action
import Dataflow.Emission
import Dataflow.Fan
import Dataflow.Task
import Dataflow.Event
import Dataflow.World.Basic
import Dataflow.World.Waking
import Dataflow.World.Party
import Dataflow.World.Shares
import Dataflow.World.Works
import Dataflow.World.Perform
import Dataflow.World.Emissions
import Dataflow.World.Tasks
import Dataflow.World.Run
import Dataflow.Scene
import Dataflow.Trial
import Dataflow.Proofs.History
import Dataflow.Proofs.Ledger
import Dataflow.Proofs.Lawful
import Dataflow.Proofs.Frames
import Dataflow.Proofs.Poise
import Dataflow.Proofs.Steady
import Dataflow.Proofs.Turns
import Dataflow.Proofs.Bookkeeping
import Dataflow.Proofs.Goes
import Dataflow.Proofs.WorkSteps
import Dataflow.Proofs.ActionSteps
import Dataflow.Proofs.EmissionSteps
import Dataflow.Proofs.TaskSteps
import Dataflow.Proofs.EndSteps
import Dataflow.Proofs.Changes
import Dataflow.Proofs.Errands
import Dataflow.Proofs.Mirrors
import Dataflow.Proofs.Registrations
import Dataflow.Proofs.Receipts
import Dataflow.Proofs.Records
import Dataflow.Proofs.Timely
import Dataflow.Proofs.Watchful
import Dataflow.Proofs.Duties
import Dataflow.Proofs.Sound
import Dataflow.Proofs.Runs
import Dataflow.Proofs.Prompts
import Dataflow.Proofs.Origins
import Dataflow.Proofs.StaleWrites
import Dataflow.Proofs.Delivery
import Dataflow.Proofs.DeliveryOrder
import Dataflow.Proofs.Convergence
import Dataflow.Proofs.NodeRegistration
import Dataflow.Proofs.Retries
import Dataflow.Proofs.SingleFlight
import Dataflow.Proofs.Notifications
import Dataflow.Proofs.Unsubscription
import Dataflow.Proofs.Rolls
import Dataflow.Proofs.LastDelivered
import Dataflow.Proofs.Touches
import Dataflow.Proofs.Wear
import Dataflow.Proofs.WearSteps
import Dataflow.Proofs.Courses
import Dataflow.Proofs.Returns
import Dataflow.Proofs.BrokenFlights
import Dataflow.Proofs.Hearsay
import Dataflow.Proofs.PlainEvaluation
import Dataflow.Proofs.Transparency
import Dataflow.Proofs.TidyStores
import Dataflow.Proofs.Enrolment
import Dataflow.Proofs.Stakes
import Dataflow.Proofs.StakeSteps
import Dataflow.Proofs.Strides
import Dataflow.Proofs.Justification
import Dataflow.Proofs.Disclosure
import Dataflow.Proofs.GateKeeping
import Dataflow.Proofs.GateSteps
import Dataflow.Proofs.Awaiting
import Dataflow.Proofs.Residue
import Dataflow.Proofs.SideBySide
import Dataflow.Proofs.FlatStores
import Dataflow.Proofs.Selection
import Dataflow.Proofs.PolicyComparison
import Dataflow.Proofs.StructuralEquality
import Dataflow.Proofs.Edits
import Dataflow.Proofs.Scripts
import Dataflow.Proofs.SuccessiveResults
import Dataflow.Proofs.Sides
import Dataflow.Proofs.Resemblance
import Dataflow.Proofs.EngineStrands
import Dataflow.Proofs.SideTables
import Dataflow.Proofs.Strands
import Dataflow.Proofs.Leading
import Dataflow.Proofs.LeadingWorks
import Dataflow.Proofs.LeadingEmissions
import Dataflow.Proofs.LeadingTasks
import Dataflow.Proofs.LeadingActions
import Dataflow.Proofs.LeadingPerform
import Dataflow.Proofs.LeadingSteps
import Dataflow.Proofs.Tallies
import Dataflow.Proofs.Excerpts
import Dataflow.Proofs.Splits
import Dataflow.Proofs.Allotments
import Dataflow.Proofs.Noninterference
import Dataflow.Proofs.HandingOver
import Dataflow.Proofs.FanCoverage
import Dataflow.Proofs.ForwardedFailures
import Dataflow.Proofs.Bystanders
import Dataflow.Proofs.Askers
import Dataflow.Proofs.Provenance
import Dataflow.Proofs.SlotRequests
import Dataflow.Proofs.Fulfilment
import Dataflow.Proofs.UncachedPath
import Dataflow.Proofs.GateLines
import Dataflow.Proofs.LoneTasks
import Dataflow.Proofs.PromptWorks
import Dataflow.Proofs.LoneDeliveries
import Dataflow.Proofs.FanTurns
import Dataflow.Proofs.FanRounds
import Dataflow.Proofs.FanCompletion
import Dataflow.Proofs.Invalidations
