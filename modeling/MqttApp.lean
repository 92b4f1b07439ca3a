import MqttApp.CString
import MqttApp.Json.Item
import MqttApp.Json.Parse
import MqttApp.Json.RoundTrip
import MqttApp.Json.Fuel
import MqttApp.Session.State
import MqttApp.Session.Client
import MqttApp.Session.Messages
import MqttApp.Session.Handler
import MqttApp.Session.Variant
import MqttApp.Proofs.Start
import MqttApp.Proofs.Frame
import MqttApp.Proofs.Retry
import MqttApp.Proofs.Resources
import MqttApp.Proofs.Gates
import MqttApp.Proofs.Dispatch
import MqttApp.Proofs.Status
import MqttApp.Proofs.Interval
import MqttApp.Proofs.Link
import MqttApp.Proofs.Handles
import MqttApp.Proofs.Topics
import MqttApp.Proofs.Identity
