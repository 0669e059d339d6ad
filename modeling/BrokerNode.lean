import BrokerNode.Channel
import BrokerNode.Endpoint.Validation
import BrokerNode.Main
import BrokerNode.Proofs.Documents
import BrokerNode.Proofs.Endpoint.Checks
import BrokerNode.Proofs.Endpoint.NormalForm
import BrokerNode.Proofs.Endpoint.Numbers
import BrokerNode.Proofs.Endpoint.Spelling
import BrokerNode.Proofs.Json.PassedOver
import BrokerNode.Proofs.PassThrough
import BrokerNode.Proofs.Service
import BrokerNode.Proofs.Narrowing
import BrokerNode.Proofs.Agreement
import BrokerNode.Proofs.Bodies
import BrokerNode.Proofs.Channel
import BrokerNode.Proofs.Mqtt.Outbox
import BrokerNode.Proofs.Mqtt.History
import BrokerNode.Proofs.Mqtt.Deliveries
import BrokerNode.Proofs.Mqtt.Connections
import BrokerNode.Proofs.Mqtt.Leave
import BrokerNode.Proofs.Mqtt.Veil
import BrokerNode.Proofs.Secrecy
import BrokerNode.Proofs.Settings
import BrokerNode.Proofs.Start
import BrokerNode.Proofs.Dotenv
import BrokerNode.Proofs.Environment
import BrokerNode.Proofs.TimeLimit
