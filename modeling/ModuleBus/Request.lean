set_option autoImplicit false

/-! # Requests of the services

The message types that each service answers, with their numbers. -/

namespace ModuleBus

/-- What modules ask of the controller's module table. -/
inductive InitializationRequest where
  /-- A module gives its name and asks for an address. -/
  | declare
  /-- A module sends its public point and gets the controller's. -/
  | exchangeKey
  /-- The addresses of all slots. -/
  | listModules
  /-- A module's session key is to be forgotten. -/
  | revoke
  /-- Address, key and name of every occupied slot. -/
  | listStates
deriving DecidableEq

namespace InitializationRequest

/-- The number of a request. -/
def toByte : InitializationRequest → UInt8
  | declare => 0
  | exchangeKey => 1
  | listModules => 2
  | revoke => 3
  | listStates => 4

/-- The request with the given number. -/
def ofByte? (b : UInt8) : Option InitializationRequest :=
  [declare, exchangeKey, listModules, revoke, listStates].find? (·.toByte == b)

end InitializationRequest

/-- What modules ask of the storage module. -/
inductive StorageRequest where
  | write
  | read
  | delete
  | scan
deriving DecidableEq

namespace StorageRequest

/-- The number of a request. -/
def toByte : StorageRequest → UInt8
  | write => 0
  | read => 1
  | delete => 2
  | scan => 3

/-- The request with the given number. -/
def ofByte? (b : UInt8) : Option StorageRequest :=
  [write, read, delete, scan].find? (·.toByte == b)

end StorageRequest

/-- What passes between modules, radio and controller. -/
inductive NetworkingRequest where
  /-- A module publishes data under a topic, through the radio. -/
  | publish
  /-- The radio forwards a message from outside to the controller. -/
  | subscribe
deriving DecidableEq

namespace NetworkingRequest

/-- The number of a request. -/
def toByte : NetworkingRequest → UInt8
  | publish => 0
  | subscribe => 1

/-- The request with the given number. -/
def ofByte? (b : UInt8) : Option NetworkingRequest :=
  [publish, subscribe].find? (·.toByte == b)

end NetworkingRequest

/-- What modules ask of the controller's energy accounts. -/
inductive EnergyRequest where
  /-- The sender's budget. -/
  | query
  /-- The sender's use is to be counted from zero. -/
  | reset
  /-- Energy that the sender spent for others. -/
  | report
  /-- The sender wants to be off for a while. -/
  | dutyCycle
deriving DecidableEq

namespace EnergyRequest

/-- The number of a request. -/
def toByte : EnergyRequest → UInt8
  | query => 0
  | reset => 1
  | report => 2
  | dutyCycle => 3

/-- The request with the given number. -/
def ofByte? (b : UInt8) : Option EnergyRequest :=
  [query, reset, report, dutyCycle].find? (·.toByte == b)

end EnergyRequest

/-- What modules ask of the controller's satellite receiver. -/
inductive TimeLocationRequest where
  | getTime
  | getLocation
  | getTimeNextPps
deriving DecidableEq

namespace TimeLocationRequest

/-- The number of a request. -/
def toByte : TimeLocationRequest → UInt8
  | getTime => 0
  | getLocation => 1
  | getTimeNextPps => 2

/-- The request with the given number. -/
def ofByte? (b : UInt8) : Option TimeLocationRequest :=
  [getTime, getLocation, getTimeNextPps].find? (·.toByte == b)

end TimeLocationRequest

/-- What modules ask of the controller's watchdog. -/
inductive WatchdogRequest where
  | start
  | tickle
deriving DecidableEq

namespace WatchdogRequest

/-- The number of a request. -/
def toByte : WatchdogRequest → UInt8
  | start => 0
  | tickle => 1

/-- The request with the given number. -/
def ofByte? (b : UInt8) : Option WatchdogRequest :=
  [start, tickle].find? (·.toByte == b)

end WatchdogRequest

end ModuleBus
