import InverterBridge.Config.Endpoint
import InverterBridge.Config.Part
import InverterBridge.Document.Kind
import InverterBridge.Main
import InverterBridge.Proofs.Config.Validity
import InverterBridge.Proofs.Document.Numbering
import InverterBridge.Proofs.Document.Published
import InverterBridge.Proofs.Document.Snapshots
import InverterBridge.Proofs.Document.Status
import InverterBridge.Proofs.Lifecycle.Handles
import InverterBridge.Proofs.Lifecycle.Leaving
import InverterBridge.Proofs.Modbus.Checks
import InverterBridge.Proofs.Modbus.Closing
import InverterBridge.Proofs.Modbus.Freshness
import InverterBridge.Proofs.Modbus.InputAnswers
import InverterBridge.Proofs.Modbus.Memory
import InverterBridge.Proofs.Modbus.Requests
import InverterBridge.Proofs.Modbus.Tiling
import InverterBridge.Proofs.Poller.Availability
import InverterBridge.Proofs.Poller.Ending
import InverterBridge.Proofs.Poller.Identity
import InverterBridge.Proofs.Poller.Measuring
import InverterBridge.Proofs.Poller.Recovery
import InverterBridge.Proofs.Poller.Schedule
import InverterBridge.Proofs.Queue.Isolation
import InverterBridge.Proofs.Queue.Ledger
import InverterBridge.Proofs.Queue.Permission
import InverterBridge.Proofs.Queue.Progress
import InverterBridge.Proofs.RegisterMap.Events
import InverterBridge.Proofs.RegisterMap.Measurements
import InverterBridge.Proofs.RegisterMap.Modules
import InverterBridge.Proofs.RegisterMap.Strings
import InverterBridge.Simulation.Delivery
import InverterBridge.Simulation.Loopback
import InverterBridge.Simulation.Polling
import InverterBridge.Simulation.Script
import InverterBridge.Simulation.Supervision
