import ModuleBus.Settings.Basic
import ModuleBus.Toml.Reader

set_option autoImplicit false

/-! # Reading settings

Settings are written in TOML, one table for each part. What is not written has its default, and
entries of other names are passed over. -/

namespace ModuleBus.Settings

/-- A whole number of 64 bits. -/
def long (default : Nat) : Option Toml → Option Nat := Toml.default? default (Toml.nat? UInt64.size)

/-- A whole number of 32 bits. -/
def word (default : Nat) : Option Toml → Option Nat := Toml.default? default (Toml.nat? UInt32.size)

/-- A whole number of eight bits. -/
def byte (default : Nat) : Option Toml → Option Nat := Toml.default? default (Toml.nat? UInt8.size)

/-- The settings of sending and receiving. -/
def readDispatch (v : Toml) : Option DispatchSettings := do
  let d : DispatchSettings := {}
  match ← v.record? ["legacy-headers", "reassembly-timeout-ms", "receive-buffer-len",
    "error-reply-attempts", "error-retry-delay-ms"] with
  | [legacy, timeout, buffer, attempts, delay] =>
    pure {
      legacyHeaders := ← Toml.default? d.legacyHeaders Toml.bool? legacy
      reassemblyTimeout := ← long d.reassemblyTimeout timeout
      receiveBuffer := ← long d.receiveBuffer buffer
      errorReplyAttempts := ← byte d.errorReplyAttempts attempts
      errorRetryDelay := ← long d.errorRetryDelay delay }
  | _ => none

/-- The settings of the handshake. -/
def readHandshake (v : Toml) : Option HandshakeSettings := do
  let d : HandshakeSettings := {}
  match ← v.record? ["request-timeout-ms", "retry-backoff-ms", "settle-ms", "declare-delay-ms",
    "declare-timeout-ms", "key-exchange-timeout-ms"] with
  | [request, backoff, settle, delay, declare, exchange] =>
    pure {
      requestTimeout := ← long d.requestTimeout request
      retryBackoff := ← long d.retryBackoff backoff
      settle := ← long d.settle settle
      declareDelay := ← long d.declareDelay delay
      declareTimeout := ← long d.declareTimeout declare
      keyExchangeTimeout := ← long d.keyExchangeTimeout exchange }
  | _ => none

/-- The settings of the isolation scheduler. -/
def readIsolation (v : Toml) : Option IsolationSettings := do
  let d : IsolationSettings := {}
  match ← v.record? ["check-interval-ms", "timeout-ticks", "max-failures", "power-cycle-ms"] with
  | [interval, ticks, failures, cycle] =>
    pure {
      checkInterval := ← long d.checkInterval interval
      timeoutTicks := ← word d.timeoutTicks ticks
      maxFailures := ← word d.maxFailures failures
      powerCycle := ← long d.powerCycle cycle }
  | _ => none

/-- The settings of the budgets. -/
def readEnergy (v : Toml) : Option EnergySettings := do
  let d : EnergySettings := {}
  match ← v.record? ["update-interval-ms", "battery-capacity-uwh", "debug-start-uwh",
    "controller-share-percent", "module-share-percent", "report-ceiling-uwh",
    "warning-threshold-uwh", "critical-threshold-uwh"] with
  | [interval, capacity, start, controller, module, ceiling, warning, critical] =>
    pure {
      updateInterval := ← long d.updateInterval interval
      batteryCapacity := ← long d.batteryCapacity capacity
      assumedCharge := ← long d.assumedCharge start
      controllerShare := ← word d.controllerShare controller
      moduleShare := ← word d.moduleShare module
      reportCeiling := ← word d.reportCeiling ceiling
      warningThreshold := ← word d.warningThreshold warning
      criticalThreshold := ← word d.criticalThreshold critical }
  | _ => none

/-- The settings of the watchdog. -/
def readWatchdog (v : Toml) : Option WatchdogSettings := do
  let d : WatchdogSettings := {}
  match ← v.record? ["check-interval-ms", "reset-pulse-ms"] with
  | [interval, pulse] =>
    pure {
      checkInterval := ← long d.checkInterval interval
      resetPulse := ← long d.resetPulse pulse }
  | _ => none

/-- The timeouts of the services. -/
def readServices (v : Toml) : Option ServiceTimeouts := do
  let d : ServiceTimeouts := {}
  match ← v.record? ["storage-ms", "networking-ms", "energy-ms", "timelocation-ms",
    "watchdog-ms"] with
  | [storage, networking, energy, timeLocation, watchdog] =>
    pure {
      storage := ← long d.storage storage
      networking := ← long d.networking networking
      energy := ← long d.energy energy
      timeLocation := ← long d.timeLocation timeLocation
      watchdog := ← long d.watchdog watchdog }
  | _ => none

/-- Settings, not yet checked. -/
def ofToml? (v : Toml) : Option Settings := do
  let d : Settings := {}
  match ← v.record? ["dispatch", "initialization", "isolation", "energy", "watchdog",
    "services"] with
  | [dispatch, handshake, isolation, energy, watchdog, services] =>
    pure {
      dispatch := ← Toml.default? d.dispatch readDispatch dispatch
      handshake := ← Toml.default? d.handshake readHandshake handshake
      isolation := ← Toml.default? d.isolation readIsolation isolation
      energy := ← Toml.default? d.energy readEnergy energy
      watchdog := ← Toml.default? d.watchdog readWatchdog watchdog
      services := ← Toml.default? d.services readServices services }
  | _ => none

/-- The settings that a text writes. -/
def read (text : String) : Except SettingsError Settings :=
  match (Toml.read? text).bind ofToml? with
  | none => .error .malformed
  | some settings => settings.check

/-! ## Where settings are kept -/

/-- The name of a settings file. -/
def fileName : String := "config.toml"

/-- The parts of a path between its slashes, without the empty and the dot parts at the end; a dot
part at the very start is kept if `keepDot` says so. -/
def withoutVoidEnd (keepDot : Bool) (parts : List String) : List String :=
  let kept := (parts.reverse.dropWhile fun part => part == "" || part == ".").reverse
  if kept.isEmpty && keepDot && parts.head? == some "." then ["."] else kept

/-- The path of the settings of a scene: a file in the scene's directory, or in the current one
if the scene's path names no file. -/
def pathFor (scene : String) : String :=
  let isRooted := scene.startsWith "/"
  let parts := (scene.splitOn "/").drop (if isRooted then 1 else 0)
  match withoutVoidEnd (!isRooted) parts with
  | [] => "./" ++ fileName
  | named =>
    let directory := withoutVoidEnd (!isRooted) named.dropLast
    (if isRooted then "/" else "") ++ "/".intercalate (directory ++ [fileName])

end ModuleBus.Settings
