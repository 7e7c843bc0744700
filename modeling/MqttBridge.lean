import MqttBridge.Metric
import MqttBridge.Library.Announcements
import MqttBridge.Library.FirstOccurrence
import MqttBridge.Library.Runs
import MqttBridge.Library.Simulation
import MqttBridge.Library.SortedVector
import MqttBridge.Automaton
import MqttBridge.ConcurrentScrapes
import MqttBridge.ConfigureHandlers
import MqttBridge.ConfigureTopics
import MqttBridge.Families
import MqttBridge.Rejection
import MqttBridge.Repetition
import MqttBridge.Reservation
import MqttBridge.Routing
import MqttBridge.Shutdown
import MqttBridge.Units
import MqttBridge.Wiring
import MqttBridge.Interpretation
import MqttBridge.Slicing
import MqttBridge.EntryOrder
import MqttBridge.Merging
import MqttBridge.Ownership
import MqttBridge.Bridge
import MqttBridge.Serving
import MqttBridge.SerialScrapes
import MqttBridge.Locking
import MqttBridge.Deadlock
import MqttBridge.ThreadedShutdown
