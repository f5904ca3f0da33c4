import ModuleBus.Controller.Coordinator
import ModuleBus.EnergyMessage
import ModuleBus.Message
import ModuleBus.Packet.Reassembler
import ModuleBus.Position
import ModuleBus.Report.Basic
import ModuleBus.Report.Names
import ModuleBus.SlotState
import ModuleBus.Storage.Record
import ModuleBus.Topic

set_option autoImplicit false

/-! # Reports of what travels on the bus and of what the controller keeps -/

namespace ModuleBus

instance : Reported StorageRecord := ⟨fun r => .array [r.logName, r.offset, r.length]⟩

instance : Reported ReportEntry := ⟨fun e => .array [e.application, e.energy]⟩

instance : Reported SlotState := ⟨fun s => .array [s.address, s.hasKey, s.name]⟩

instance : Reported EnergyInformation where
  report i := .record [("used", i.used), ("limit", i.limit), ("time_s", i.seconds),
    ("warning", i.warning), ("critical", i.critical)]

instance : Reported TimeInfo where
  report t := .array [t.year, t.month, t.day, t.hours, t.minutes, t.seconds, t.satellites]

instance : Reported DateTime where
  report t := .array [t.year, t.month, t.dayOfMonth, t.hour, t.minute, t.secondOfMinute]

instance : Reported LocationInfo := ⟨fun l => .array [l.latitude, l.longitude, l.satellites]⟩

instance : Reported Fix := ⟨fun f => .array [f.time, f.location]⟩

instance : Reported DownlinkCommand where
  report
    | .on name => .array ["on", name]
    | .off name => .array ["off", name]
    | .reset name => .array ["reset", name]
    | .hardReset => .array ["hard_reset"]

/-! ## Messages and packets -/

/-- The report of a message whose payload is shown in the given form. -/
def Message.reportWith (m : Message) (payload : Json) : List (String × Json) :=
  [("source", m.source), ("destination", m.destination), ("frame", m.frame.name),
    ("service", m.service.name), ("type", m.type), ("payload", payload)]

instance : Reported Message := ⟨fun m => .record (m.reportWith m.payload)⟩

/-- The name of the layout of a header. -/
def Layout.name : Layout → String
  | legacy => "legacy"
  | current => "v1"

instance : Reported Header where
  report h := .record [("version", h.layout.name), ("is_fragment", h.more),
    ("is_encrypted", h.sealed), ("source", h.source), ("sequence", h.sequence),
    ("length", h.length), ("offset", h.offset)]

instance : Reported Reassembled where
  report d := .record [("source", d.source), ("seq", d.sequence), ("encrypted", d.sealed),
    ("length", d.length), ("total", d.total), ("truncated", d.truncated)]

/-! ## The controller -/

instance : Reported Ledger where
  report l := .record [("remaining", l.remaining), ("used", l.used), ("time_ms", l.elapsed)]

instance : Reported ModuleRecord where
  report r := .array [r.address, r.name, r.hasKey, r.state.name, r.isWatched, r.hasTickled,
    r.failures]

instance : Reported ModuleTable := ⟨fun t => t.records⟩

instance : Reported IsolationEvent where
  report
    | .idle => .array ["Idle"]
    | .granted s => .array ["Granted", s]
    | .holding s => .array ["Holding", s]
    | .released s => .array ["Released", s]
    | .timedOut s failures => .array ["TimedOut", s, failures]
    | .powerCycled s => .array ["PowerCycled", s]

instance : Reported Accounts where
  report a := .record [("remaining", a.all.map Account.remaining), ("used", a.all.map Account.used),
    ("average", a.all.map Account.average), ("battery", a.battery)]

instance : Reported Coordinator where
  report c := .record [("modules", c.modules), ("isolated", c.isolation.holder),
    ("hard_reset", c.hardReset), ("gps", c.fix),
    ("remaining", c.accounts.all.map Account.remaining), ("used", c.accounts.all.map Account.used)]

instance : Reported Tally where
  report t := .record (t.entries.map fun (a, c) => (a.text, .array [c.warnings, c.errors]))

end ModuleBus
