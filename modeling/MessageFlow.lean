import MessageFlow.Proofs.Composer.Apart
import MessageFlow.Proofs.Composer.Batches
import MessageFlow.Proofs.Composer.Described
import MessageFlow.Proofs.Composer.Naming
import MessageFlow.Proofs.Composer.Outputs
import MessageFlow.Proofs.Composer.Refusal
import MessageFlow.Proofs.Composer.Sketch
import MessageFlow.Proofs.Composer.Soundness
import MessageFlow.Proofs.Composer.Subscriber
import MessageFlow.Proofs.Dispatch.Answers
import MessageFlow.Proofs.Dispatch.Chains
import MessageFlow.Proofs.Dispatch.Destinations
import MessageFlow.Proofs.Dispatch.Entrance
import MessageFlow.Proofs.Dispatch.LevelOrder
import MessageFlow.Proofs.Dispatch.Replies
import MessageFlow.Proofs.Dispatch.Retries
import MessageFlow.Proofs.Dispatch.Sequences
import MessageFlow.Proofs.Dispatch.Served
import MessageFlow.Proofs.Dispatch.Sessions
import MessageFlow.Proofs.Dispatch.Survivors
import MessageFlow.Proofs.Json.Settings
import MessageFlow.Proofs.Message.CustomHeaders
import MessageFlow.Proofs.Message.IdTexts
import MessageFlow.Proofs.Pumps.Lifecycle
import MessageFlow.Proofs.Pumps.Order
import MessageFlow.Proofs.Pumps.Progress
import MessageFlow.Proofs.Tracing.Unseen
import MessageFlow.Scenario.Build
import MessageFlow.Scenario.Source
