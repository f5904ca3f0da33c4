import ModuleBus.Report.Errors
import ModuleBus.Report.Values
import ModuleBus.Simulation.Run

set_option autoImplicit false

/-! # Reports of runs -/

namespace ModuleBus

instance : Reported ModuleEvent where
  report
    | .poweredOn => .array ["PoweredOn"]
    | .powerLost => .array ["PowerLost"]
    | .initialized address attempts => .array ["Initialized", address, attempts]
    | .stored logName length => .array ["StorageWritten", logName, length]
    | .published topic code => .array ["Published", topic, code]
    | .uplink source delivered => .array ["Uplink", source, delivered]
    | .energyQueried information => .array ["EnergyQueried", information]
    | .energyReported entries => .array ["EnergyReported", entries]
    | .sleepRequested ms => .array ["DutyCycleRequested", ms]
    | .forwarded topic => .array ["DownlinkForwarded", topic]
    | .callFailed text => .array ["CallFailed", text]

instance : Reported SlotEvent := ⟨fun e => .array [toMillis e.time, e.slot, e.event]⟩

instance : Reported SlotSummary where
  report s := .array [s.name, s.powerOns, s.powerLosses, s.initializations, s.address, s.writes,
    s.storedBytes, s.publishes, s.rejected, s.delivered, s.undelivered, s.reports, s.sleeps,
    s.forwarded, s.failedCalls, s.energy]

instance : Reported RunSummary where
  report r := .record [("events", r.events), ("slots", r.slots), ("text", r.text)]

/-- The rails of a backplane. -/
def Backplane.railReport (b : Backplane) : Json :=
  .record [("power", b.power), ("bus", b.bus), ("offs", b.powerOffs), ("battery", b.battery),
    ("pulses", b.pulses)]

/-- The meter of a backplane. -/
def Backplane.meterReport (b : Backplane) : Json :=
  .record [("counters", Entity.all.map (Board.counter b)), ("gauge", Board.charge? b)]

/-- The report of a run of a scene, without its events. -/
def Run.report (scene : Scene) (r : Run) : List (String × Json) :=
  [("summary", r.summary scene), ("rails", r.world.railReport),
    ("ledger", Coordinator.loadLedger r.world), ("logs", r.tally)]

end ModuleBus
