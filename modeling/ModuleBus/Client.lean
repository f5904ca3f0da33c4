import ModuleBus.Dispatch.Call
import ModuleBus.EnergyMessage
import ModuleBus.Position
import ModuleBus.Request
import ModuleBus.SlotState
import ModuleBus.Storage.Record
import ModuleBus.Topic

set_option autoImplicit false

/-! # What modules ask for

The requests and notices that modules send to the controller, to the storage module and to the
radio, and how the replies are read. -/

namespace ModuleBus.Client

/-- A reply that may make no sense. -/
def expect {α : Type} : Option α → Except DispatchError α
  | some value => .ok value
  | none => .error .malformed

/-- A reply of which only the arrival counts. -/
def acknowledged : Bytes → Except DispatchError Unit := fun _ => .ok ()

/-- A reply that starts with a status word. -/
def status (bytes : Bytes) : Except DispatchError Int := expect (ErrorCode.status? bytes)

/-- A reply that changes nothing in the participant that asked. -/
def unmoved (_ : Bytes) (d : Dispatcher) : Dispatcher := d

/-! ## Storage -/

/-- A request to the storage module. -/
def toStorage {α : Type} (type : StorageRequest) (payload : Bytes)
    (read : Bytes → Except DispatchError α) : Request α :=
  ⟨⟨.storage, .storage, type.toByte⟩, payload, read, unmoved⟩

/-- A record as reply. -/
def record (bytes : Bytes) : Except DispatchError StorageRecord :=
  expect (StorageRecord.parse? bytes)

/-- Records one after another; the last one has to be whole. -/
def records (bytes : Bytes) : Except DispatchError (List StorageRecord) :=
  if _ : bytes = [] then .ok []
  else
    match record (bytes.take StorageRecord.size) with
    | .error e => .error e
    | .ok r => (records (bytes.drop StorageRecord.size)).map (r :: ·)
termination_by bytes.length
decreasing_by
  have hpos := List.length_pos_iff.mpr (by assumption : bytes ≠ [])
  simp only [List.length_drop, StorageRecord.size, StorageRecord.nameField, maxLogName]
  omega

/-- Adds data to a log. -/
def write (name : String) (data : Bytes) : Except DispatchError (Request StorageRecord) :=
  ((namedPayload name data).map fun payload => toStorage .write payload record).mapError .remote

/-- The bytes of a record. -/
def read (r : StorageRecord) : Except DispatchError (Request Bytes) :=
  let rest := Bytes.ofNatLE 4 r.offset.toNat ++ Bytes.ofNatLE 4 r.length.toNat
  ((namedPayload r.logName rest).map fun payload => toStorage .read payload .ok).mapError .remote

/-- Removes a log. -/
def delete (name : String) : Except DispatchError (Request StorageRecord) :=
  ((checkLogName name).map fun _ => toStorage .delete (Utf8.ofText name) record).mapError .remote

/-- The records of the first logs. -/
def scan (max : UInt32) : Request (List StorageRecord) :=
  toStorage .scan (Bytes.ofNatLE 4 max.toNat) records

/-! ## Networking -/

/-- Remarks on a radio that refuses. -/
def remarkRefusal (reply : Bytes) (d : Dispatcher) : Dispatcher :=
  match status reply with
  | .ok code => if code < 0 then d.note .warning else d
  | .error _ => d

/-- Publishes data under a topic; the reply is the radio's status. -/
def publish (name topic : String) (data : Bytes) : Except DispatchError (Request Int) :=
  ((TopicMessage.publishPayload topic name data).map fun payload =>
    (⟨⟨.radio, .networking, NetworkingRequest.publish.toByte⟩, payload, status, remarkRefusal⟩ :
      Request Int)).mapError .remote

/-- Forwards a message from outside to the controller. -/
def forward (m : TopicMessage) : Except DispatchError Notice :=
  ((TopicMessage.subscribePayload m).map fun payload =>
    (⟨.controller, .notification, .networking, NetworkingRequest.subscribe.toByte, payload⟩ :
      Notice)).mapError .remote

/-! ## Energy -/

/-- A request to the controller's accounts. -/
def toAccounts {α : Type} (type : EnergyRequest) (payload : Bytes)
    (read : Bytes → Except DispatchError α) : Request α :=
  ⟨⟨.controller, .energy, type.toByte⟩, payload, read, unmoved⟩

/-- The sender's budget. -/
def queryEnergy : Request EnergyInformation :=
  toAccounts .query [] fun bytes => expect (EnergyInformation.parse? bytes)

/-- Counts the sender's use from zero. -/
def resetEnergy : Request Unit := toAccounts .reset [] fun bytes => (status bytes).map fun _ => ()

/-- Reports energy that the sender spent for others. -/
def reportEnergy (entries : List ReportEntry) : Request Unit :=
  toAccounts .report (ReportEntry.encodeReport entries) fun bytes =>
    (status bytes).map fun _ => ()

/-- Asks to be switched off for some milliseconds. -/
def sleep (ms : UInt32) : Notice :=
  ⟨.controller, .notification, .energy, EnergyRequest.dutyCycle.toByte, Bytes.ofNatLE 4 ms.toNat⟩

/-! ## Initialization -/

/-- A request to the controller's module table. -/
def toTable {α : Type} (type : InitializationRequest) (payload : Bytes)
    (read : Bytes → Except DispatchError α) : Request α :=
  ⟨⟨.controller, .initialization, type.toByte⟩, payload, read, unmoved⟩

/-- Declares a name; the reply starts with the address that the module gets. -/
def declare (name : String) : Request (Option Address) :=
  toTable .declare ((Utf8.ofText name).take maxWireName) fun bytes =>
    .ok (bytes.head?.map fun b => ⟨b⟩)

/-- Sends a public point; the reply is the controller's. -/
def exchangeKey (point : Bytes) : Request Bytes := toTable .exchangeKey point .ok

/-- The addresses of all slots. -/
def listModules : Request (List (Option Address)) :=
  toTable .listModules [] fun bytes => expect (decodeAddresses? bytes)

/-- Asks the controller to forget the sender's key; the sender forgets it too. -/
def revoke : Request Unit :=
  { toTable .revoke [] (fun bytes => do
      let code ← status bytes
      match ErrorCode.ofCode code with
      | .success => .ok ()
      | refused => .error (.remote refused)) with
    onReply := fun _ d => d.revokeKey .controller }

/-- The states of the occupied slots. -/
def listStates : Request (List SlotState) :=
  toTable .listStates [] fun bytes => (SlotState.decodeList bytes).mapError fun _ => .malformed

/-! ## Time and place -/

/-- A request to the controller's satellite receiver. -/
def toReceiver {α : Type} (type : TimeLocationRequest) (read : Bytes → Except DispatchError α) :
    Request α :=
  ⟨⟨.controller, .timeLocation, type.toByte⟩, [], read, unmoved⟩

/-- A value that counts only if there are enough satellites. -/
def withFix {α : Type} (satellites : UInt8) (value : α) : Except DispatchError α :=
  if satellites < minSatellites then .error (.remote .noSatellites) else .ok value

/-- The time. -/
def getTime : Request TimeInfo :=
  toReceiver .getTime fun bytes => do
    let info ← expect (TimeInfo.parse? bytes)
    withFix info.satellites info

/-- The time as a date and a time of day. -/
def getDateTime : Request DateTime :=
  { getTime with
    read := fun bytes => do
      let info ← getTime.read bytes
      expect info.toDateTime? }

/-- The place. -/
def getLocation : Request LocationInfo :=
  toReceiver .getLocation fun bytes => do
    let info ← expect (LocationInfo.parse? bytes)
    withFix info.satellites info

/-! ## Watchdog -/

/-- A request to the controller's watchdog. -/
def toWatchdog (type : WatchdogRequest) : Request Unit :=
  ⟨⟨.controller, .watchdog, type.toByte⟩, [], acknowledged, unmoved⟩

/-- Asks to be watched. -/
def startWatchdog : Request Unit := toWatchdog .start

/-- Tells that the sender is alive. -/
def tickle : Request Unit := toWatchdog .tickle

end ModuleBus.Client
