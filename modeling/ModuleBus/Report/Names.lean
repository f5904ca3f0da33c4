import ModuleBus.Controller.ModuleTable
import ModuleBus.Handshake
import ModuleBus.Request

set_option autoImplicit false

/-! # Names

The names under which reports speak of kinds of messages, of services and their requests, of what
a slot is switched off for, and of the stages of a handshake. -/

namespace ModuleBus

/-- The name of a kind of message. -/
def FrameKind.name : FrameKind → String
  | notification => "Notification"
  | command => "Command"
  | response => "Response"
  | error => "Error"

/-- The name of a service. -/
def Service.name : Service → String
  | initialization => "Initialization"
  | storage => "Storage"
  | networking => "Networking"
  | processing => "Processing"
  | energy => "Energy"
  | timeLocation => "TimeLocation"
  | edison => "Edison"
  | watchdog => "Watchdog"

/-- The name of a request to the initialization service. -/
def InitializationRequest.name : InitializationRequest → String
  | declare => "Declare"
  | exchangeKey => "KeyExchange"
  | listModules => "GetMods"
  | revoke => "Revoke"
  | listStates => "GetState"

/-- The name of a request to the storage service. -/
def StorageRequest.name : StorageRequest → String
  | write => "Write"
  | read => "Read"
  | delete => "Delete"
  | scan => "Scan"

/-- The name of a request to the networking service. -/
def NetworkingRequest.name : NetworkingRequest → String
  | publish => "Publish"
  | subscribe => "Subscribe"

/-- The name of a request to the energy service. -/
def EnergyRequest.name : EnergyRequest → String
  | query => "Query"
  | reset => "Reset"
  | report => "Report"
  | dutyCycle => "DutyCycle"

/-- The name of a request to the time and place service. -/
def TimeLocationRequest.name : TimeLocationRequest → String
  | getTime => "GetTime"
  | getLocation => "GetLocation"
  | getTimeNextPps => "GetTimeNextPps"

/-- The name of a request to the watchdog service. -/
def WatchdogRequest.name : WatchdogRequest → String
  | start => "Start"
  | tickle => "Tickle"

namespace SlotPower

/-- Every reason for a slot to be on or off. -/
def all : List SlotPower :=
  [enabled, disabledIsolation, disabledEnergy, disabledDutyCycle, disabledOff]

/-- The name of a reason for a slot to be on or off. -/
def name : SlotPower → String
  | enabled => "Enabled"
  | disabledIsolation => "DisabledIsolation"
  | disabledEnergy => "DisabledEnergy"
  | disabledDutyCycle => "DisabledDutyCycle"
  | disabledOff => "DisabledOff"

end SlotPower

/-- The name of a stage of a handshake. -/
def HandshakeStage.name : HandshakeStage → String
  | requestIsolation => "RequestIsolation"
  | declare => "Declare"
  | keyExchange => "KeyExchange"
  | finishExchange => "FinishExchange"
  | done => "Done"

end ModuleBus
