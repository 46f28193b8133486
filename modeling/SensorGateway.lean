import SensorGateway.Gateway.Command
import SensorGateway.Main
import SensorGateway.Proofs.Bytes.Lenient
import SensorGateway.Proofs.Control.Requests
import SensorGateway.Proofs.Detection
import SensorGateway.Proofs.Gateway.Commands
import SensorGateway.Proofs.Gateway.DeadChannels
import SensorGateway.Proofs.Gateway.Dispatching
import SensorGateway.Proofs.Gateway.Endurance
import SensorGateway.Proofs.Gateway.Inspection
import SensorGateway.Proofs.Gateway.Recording
import SensorGateway.Proofs.Gateway.Relay
import SensorGateway.Proofs.Gateway.Replies
import SensorGateway.Proofs.Gateway.ResetTarget
import SensorGateway.Proofs.Gateway.Startup
import SensorGateway.Proofs.Parameter.Named
import SensorGateway.Proofs.Parameter.Values
import SensorGateway.Proofs.Parameter.Walk
import SensorGateway.Proofs.Shard.Acceptance
import SensorGateway.Proofs.Shard.Answers
import SensorGateway.Proofs.Shard.History
import SensorGateway.Proofs.Shard.Isolation
import SensorGateway.Proofs.Shard.Lifetime
import SensorGateway.Proofs.Shard.Representation
import SensorGateway.Proofs.Shard.Waking
import SensorGateway.Proofs.Shard.Wire
import SensorGateway.Proofs.Parameter.Values
