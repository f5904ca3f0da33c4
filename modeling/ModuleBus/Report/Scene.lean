import ModuleBus.Report.Basic
import ModuleBus.Report.Values
import ModuleBus.Scene.Basic
import ModuleBus.Settings.Basic

set_option autoImplicit false

/-! # Reports of settings and scenes -/

namespace ModuleBus

instance : Reported DispatchSettings where
  report s := .record [
    ("legacy_headers", s.legacyHeaders),
    ("header_version", match s.layout with | .legacy => "Legacy" | .current => "V1"),
    ("reassembly_timeout_ms", s.reassemblyTimeout),
    ("receive_buffer_len", s.receiveBuffer),
    ("error_reply_attempts", s.errorReplyAttempts),
    ("error_retry_delay_ms", s.errorRetryDelay)]

instance : Reported HandshakeSettings where
  report s := [s.requestTimeout, s.retryBackoff, s.settle, s.declareDelay, s.declareTimeout,
    s.keyExchangeTimeout]

instance : Reported IsolationSettings where
  report s := [s.checkInterval, s.timeoutTicks, s.maxFailures, s.powerCycle]

instance : Reported EnergySettings where
  report s := [s.updateInterval, s.batteryCapacity, s.assumedCharge, s.controllerShare,
    s.moduleShare, s.reportCeiling, s.warningThreshold, s.criticalThreshold]

instance : Reported WatchdogSettings := ⟨fun s => [s.checkInterval, s.resetPulse]⟩

instance : Reported ServiceTimeouts where
  report s := [s.storage, s.networking, s.energy, s.timeLocation, s.watchdog]

instance : Reported Settings where
  report s := .record [("dispatch", s.dispatch), ("initialization", s.handshake),
    ("isolation", s.isolation), ("energy", s.energy), ("watchdog", s.watchdog),
    ("services", s.services)]

/-! ## Scenes -/

instance : Reported ModuleDescription where
  report m := .array [m.name, m.slot, m.kind.name, m.draw, m.publishInterval, m.dutyCycle,
    m.watchdog, m.hangAfter, m.uplinkSuccess, m.uplinkCost]

instance : Reported Receiver where
  report r := .array [r.latitude, r.longitude, r.satellites, r.start, r.delay, r.interval]

instance : Reported Downlink := ⟨fun d => .array [d.time, d.topic, d.data]⟩

/-- A scene also shows which of its modules is in which slot. -/
instance : Reported Scene where
  report s := .record [
    ("name", s.name), ("duration_s", s.duration),
    ("battery", .array [s.battery.start, s.battery.capacity, s.battery.gauge]),
    ("harvest", .array [s.harvest.mean, s.harvest.spread]),
    ("controller_draw_uw", s.controllerDraw), ("house_draw_uw", s.houseDraw),
    ("gps", s.receiver), ("modules", s.modules), ("downlinks", s.downlinks),
    ("by_slot", Slot.all.map fun slot => (s.moduleIn? slot).map ModuleDescription.name)]

end ModuleBus
