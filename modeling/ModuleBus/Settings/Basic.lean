import ModuleBus.Packet.Header

set_option autoImplicit false

/-! # Settings

Timing and policy of a bus. Every setting has a default that fits the deployed boards; times are
in milliseconds and energies in microwatt-hours. -/

namespace ModuleBus

/-- How every participant sends and receives. -/
structure DispatchSettings where
  /-- Packets go out with legacy headers. -/
  legacyHeaders : Bool := false
  /-- A partial message without a new packet for this long is given up. -/
  reassemblyTimeout : Nat := 1000
  /-- Bytes of the receive buffer; longer messages are dropped. -/
  receiveBuffer : Nat := 4096
  /-- Times that an error reply is written at most. -/
  errorReplyAttempts : Nat := 3
  /-- Pause after a failed error reply and after a failed receive. -/
  errorRetryDelay : Nat := 50
deriving DecidableEq, Inhabited

/-- The header layout of outgoing packets. -/
def DispatchSettings.layout (s : DispatchSettings) : Layout :=
  if s.legacyHeaders then .legacy else .current

/-- Timing of a module's handshake. -/
structure HandshakeSettings where
  /-- How long a module waits for its grant. -/
  requestTimeout : Nat := 5000
  /-- Pause between attempts. -/
  retryBackoff : Nat := 3000
  /-- Pause after the grant, before it is looked at again. -/
  settle : Nat := 50
  /-- Pause before the module declares itself. -/
  declareDelay : Nat := 500
  declareTimeout : Nat := 100
  keyExchangeTimeout : Nat := 5000
deriving DecidableEq, Inhabited

/-- Timing of the isolation scheduler. -/
structure IsolationSettings where
  /-- Time between ticks. -/
  checkInterval : Nat := 300
  /-- Ticks that a module may hold its grant. -/
  timeoutTicks : Nat := 10
  /-- Failures before the module is power-cycled. -/
  maxFailures : Nat := 4
  /-- How long the power is off then. -/
  powerCycle : Nat := 1000
deriving DecidableEq, Inhabited

/-- Budgets. -/
structure EnergySettings where
  /-- Time between accounting periods. -/
  updateInterval : Nat := 600000
  batteryCapacity : Nat := 96459000
  /-- Assumed charge of a battery without a gauge. -/
  assumedCharge : Nat := 44400000
  /-- The controller's share in percent. -/
  controllerShare : Nat := 40
  /-- The share of each metered slot in percent. -/
  moduleShare : Nat := 10
  /-- Largest entry of a report that is accepted. -/
  reportCeiling : Nat := 100000
  /-- A limit below this is a warning. -/
  warningThreshold : Nat := 1000000
  /-- A limit below this is critical. -/
  criticalThreshold : Nat := 200000
deriving DecidableEq, Inhabited

/-- Timing of the controller's watchdog over modules. -/
structure WatchdogSettings where
  checkInterval : Nat := 60000
  /-- How long the power of a reset module is off. -/
  resetPulse : Nat := 300
deriving DecidableEq, Inhabited

/-- How long calls to each service wait for the reply. -/
structure ServiceTimeouts where
  storage : Nat := 5000
  networking : Nat := 3000
  energy : Nat := 10000
  timeLocation : Nat := 1000
  watchdog : Nat := 1000
deriving DecidableEq, Inhabited

/-- All settings of a bus. -/
structure Settings where
  dispatch : DispatchSettings := {}
  handshake : HandshakeSettings := {}
  isolation : IsolationSettings := {}
  energy : EnergySettings := {}
  watchdog : WatchdogSettings := {}
  services : ServiceTimeouts := {}
deriving DecidableEq, Inhabited

/-! ## Checking -/

/-- Metered slots, each of which has a module's share. -/
def meteredCount : Nat := 6

/-- All shares together, in percent. -/
def EnergySettings.totalShare (s : EnergySettings) : Nat :=
  s.controllerShare + meteredCount * s.moduleShare

/-- Why there are no settings. -/
inductive SettingsError where
  /-- The file could not be read. -/
  | unreadable (path : String)
  /-- The text is no TOML, or a value does not fit its setting. -/
  | malformed
  /-- The shares add up to more than the whole. -/
  | overspent (energy : EnergySettings)
deriving DecidableEq

namespace SettingsError

/-- The text of a settings error. -/
def message : SettingsError → String
  | unreadable path => "Failed to read config file " ++ path
  | malformed => "Failed to parse config file"
  | overspent _ => "Invalid [energy] section"

/-- What lies behind an error in the energy section. -/
def cause? : SettingsError → Option String
  | overspent energy =>
    some s!"energy shares add up to {energy.totalShare}% (controller {energy.controllerShare}% + {
      meteredCount} x module {energy.moduleShare}%)"
  | _ => none

end SettingsError

/-- Settings whose shares fit the whole. -/
def Settings.check (s : Settings) : Except SettingsError Settings :=
  if s.energy.totalShare ≤ 100 then .ok s else .error (.overspent s.energy)

theorem Settings.check_eq_ok_iff {s t : Settings} :
    s.check = .ok t ↔ s.energy.totalShare ≤ 100 ∧ s = t := by
  unfold check
  split <;> simp [*]

end ModuleBus
