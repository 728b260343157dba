import CoreBroker.Drill.Announcing
import CoreBroker.Drill.Obtaining
import CoreBroker.Drill.Tracing
import CoreBroker.Json.Printer
import CoreBroker.Proofs.Channel.Draining
import CoreBroker.Proofs.Channel.Receivers
import CoreBroker.Proofs.Channel.Sending
import CoreBroker.Proofs.Dedicated.AtRest
import CoreBroker.Proofs.Dedicated.Awareness
import CoreBroker.Proofs.Dedicated.Ownership
import CoreBroker.Proofs.Dedicated.Probing
import CoreBroker.Proofs.Dedicated.Resting
import CoreBroker.Proofs.Dedicated.Restraint
import CoreBroker.Proofs.Dedicated.Settling
import CoreBroker.Proofs.Dedicated.StepInversion
import CoreBroker.Proofs.Dedicated.Steps
import CoreBroker.Proofs.Dedicated.Stopping
import CoreBroker.Proofs.Json.Reading
import CoreBroker.Proofs.Json.Records
import CoreBroker.Proofs.Json.RoundTrip
import CoreBroker.Proofs.Lists
import CoreBroker.Proofs.Obtainment.Histories
import CoreBroker.Proofs.Obtainment.Law
import CoreBroker.Proofs.Obtainment.Tokens
import CoreBroker.Proofs.Provider.Permits
import CoreBroker.Proofs.Provider.Slots
import CoreBroker.Proofs.Registry.Availability
import CoreBroker.Proofs.Registry.Candidates
import CoreBroker.Proofs.Registry.Counts
import CoreBroker.Proofs.Registry.Course
import CoreBroker.Proofs.Registry.Identity
import CoreBroker.Proofs.Registry.Ownership
import CoreBroker.Proofs.Registry.Reserved
import CoreBroker.Proofs.Registry.Selection
import CoreBroker.Proofs.Registry.Serving
import CoreBroker.Proofs.Registry.Verdicts
import CoreBroker.Proofs.Registry.Views
import CoreBroker.Proofs.Registry.Waiting
import CoreBroker.Proofs.Roster.Replay
import CoreBroker.Proofs.Runs.Announcements
import CoreBroker.Proofs.Runs.Assigning
import CoreBroker.Proofs.Runs.Availability
import CoreBroker.Proofs.Runs.Awareness
import CoreBroker.Proofs.Runs.Backoff
import CoreBroker.Proofs.Runs.ClientActs
import CoreBroker.Proofs.Runs.ClientMoves
import CoreBroker.Proofs.Runs.ClientSteps
import CoreBroker.Proofs.Runs.Demand
import CoreBroker.Proofs.Runs.Engagements
import CoreBroker.Proofs.Runs.ErrandGuarding
import CoreBroker.Proofs.Runs.ErrandLifecycle
import CoreBroker.Proofs.Runs.Errands
import CoreBroker.Proofs.Runs.Exclusion
import CoreBroker.Proofs.Runs.Fulfillers
import CoreBroker.Proofs.Runs.Guarding
import CoreBroker.Proofs.Runs.HandleMoves
import CoreBroker.Proofs.Runs.HandleSteps
import CoreBroker.Proofs.Runs.Handles
import CoreBroker.Proofs.Runs.Keeping
import CoreBroker.Proofs.Runs.Ledgers
import CoreBroker.Proofs.Runs.Listeners
import CoreBroker.Proofs.Runs.Locality
import CoreBroker.Proofs.Runs.Locks
import CoreBroker.Proofs.Runs.Matching
import CoreBroker.Proofs.Runs.MoveInversion
import CoreBroker.Proofs.Runs.MoveTransitions
import CoreBroker.Proofs.Runs.Moves
import CoreBroker.Proofs.Runs.Onsets
import CoreBroker.Proofs.Runs.Overlaps
import CoreBroker.Proofs.Runs.Oversight
import CoreBroker.Proofs.Runs.Probing
import CoreBroker.Proofs.Runs.Removals
import CoreBroker.Proofs.Runs.Reservations
import CoreBroker.Proofs.Runs.Reservers
import CoreBroker.Proofs.Runs.Reserving
import CoreBroker.Proofs.Runs.Resting
import CoreBroker.Proofs.Runs.Restraint
import CoreBroker.Proofs.Runs.Settling
import CoreBroker.Proofs.Runs.Transitions
import CoreBroker.Proofs.Runs.Turns
import CoreBroker.Proofs.Runs.Verdicts
import CoreBroker.Proofs.Runs.Views
import CoreBroker.Proofs.Scene.Acts
import CoreBroker.Proofs.Scene.Boards
import CoreBroker.Proofs.Scene.Changes
import CoreBroker.Proofs.Scene.Guards
import CoreBroker.Proofs.Scene.Likeness
import CoreBroker.Proofs.Scene.Marks
import CoreBroker.Proofs.Scene.Notice
import CoreBroker.Proofs.Scene.Parts
import CoreBroker.Proofs.Scene.Quiet
import CoreBroker.Proofs.Scene.Slots
import CoreBroker.Proofs.Scene.Sound
import CoreBroker.Proofs.Scene.Stage
import CoreBroker.Proofs.Scene.Story
import CoreBroker.Proofs.Settings.Agreement
import CoreBroker.Proofs.Speculative.AtRest
import CoreBroker.Proofs.Speculative.AttemptSteps
import CoreBroker.Proofs.Speculative.AwareSteps
import CoreBroker.Proofs.Speculative.Awareness
import CoreBroker.Proofs.Speculative.Backoff
import CoreBroker.Proofs.Speculative.Custody
import CoreBroker.Proofs.Speculative.Lending
import CoreBroker.Proofs.Speculative.Limits
import CoreBroker.Proofs.Speculative.LoopSteps
import CoreBroker.Proofs.Speculative.Matching
import CoreBroker.Proofs.Speculative.Notification
import CoreBroker.Proofs.Speculative.Numbers
import CoreBroker.Proofs.Speculative.Outcomes
import CoreBroker.Proofs.Speculative.Oversight
import CoreBroker.Proofs.Speculative.Ownership
import CoreBroker.Proofs.Speculative.PassSteps
import CoreBroker.Proofs.Speculative.Probing
import CoreBroker.Proofs.Speculative.Rebalancing
import CoreBroker.Proofs.Speculative.Reconciling
import CoreBroker.Proofs.Speculative.Resting
import CoreBroker.Proofs.Speculative.Restraint
import CoreBroker.Proofs.Speculative.Serving
import CoreBroker.Proofs.Speculative.Sizing
import CoreBroker.Proofs.Speculative.Staleness
import CoreBroker.Proofs.Speculative.States
import CoreBroker.Proofs.Speculative.StepInversion
import CoreBroker.Proofs.Speculative.Stopping
import CoreBroker.Proofs.Speculative.Tracking
import CoreBroker.Scenario.Run
import CoreBroker.Settings.EnvFile
import CoreBroker.Settings.Record
import CoreBroker.Text.Hidden
import CoreBroker.World.Abandonment
