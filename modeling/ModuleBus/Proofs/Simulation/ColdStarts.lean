import ModuleBus.Proofs.Controller.Rails
import ModuleBus.Proofs.Simulation.Residents

set_option autoImplicit false

/-! # Cold starts

A module that is switched on drops what waits at its port and the keys that it had, and goes back to
its first address; its call was forgotten when the power was lost. But the queue of its participant
and its listener live on: requests that had not been taken up, the message in progress, the bytes
that the receive buffer was left with, and the command whose refusal is to be tried again. Whatever
is used after a cold start was received after it, or was held then in one of these places. -/

namespace ModuleBus

namespace Resident

variable {x x' y z : Resident}

/-! ## What is held is there -/

/-- The memory holds packets for what the module has, and for nothing else. -/
structure IsFiled (x : Resident) : Prop where
  tame : x.job.IsTame
  off : x.job.activity = .off → x.job.isServing = false
  calls : x.endpoint.node.pending.IsOnly x.job.ticket?
  serving : x.job.isServing = false → x.memory.serving = []
  queue : x.memory.queue.length = x.endpoint.node.inbound.length
  queued : ∀ message ∈ x.memory.queue, message ≠ []
  pieces : x.memory.pieces = [] ↔ x.listener.reassembler.isIdle = true
  refusing : x.memory.refusing = [] ↔ x.listener.isRetrying = false
  tells : x.memory.Tells x.listener.reassembler

namespace IsFiled

theorem start (description : ModuleDescription) (slot : Slot) (settings : Settings)
    (downlinks : List Downlink) (port : Port) (world : Backplane) :
    (start description slot settings downlinks port world).IsFiled where
  tame := trivial
  off _ := rfl
  calls := ⟨fun _ h => (by cases h), fun _ h => (by cases h)⟩
  serving _ := rfl
  queue := rfl
  queued _ h := by cases h
  pieces := ⟨fun _ => rfl, fun _ => rfl⟩
  refusing := ⟨fun _ => rfl, fun _ => rfl⟩
  tells := Memory.tells_empty _

theorem worked (h : x.IsFiled) {before : Backplane} {clock : Clock} {job : Job}
    {e : Endpoint Backplane} (hstep : x.job.step before clock x.endpoint = some (job, e)) :
    (x.worked job e).IsFiled := by
  have hturns := Job.turns_step h.tame hstep
  have hserving : job.isServing = false → (x.worked job e).memory.serving = [] := by
    intro hidle
    simp only [Resident.worked, Memory.work, hidle]
    rfl
  have hfiled (hlength : (x.worked job e).memory.queue.length = e.node.inbound.length)
      (hqueued : ∀ message ∈ (x.worked job e).memory.queue, message ∈ x.memory.queue) :
      (x.worked job e).IsFiled :=
    ⟨hturns.tame, hturns.off, hturns.calls h.calls, hserving, hlength,
      fun message hmem => h.queued message (hqueued message hmem), h.pieces, h.refusing, h.tells⟩
  have hqueue := h.queue
  -- The queue has become shorter if and only if a request was taken up.
  rcases hturns.queue with ⟨m, hinbound⟩ | ⟨hinbound, -⟩
  · rw [hinbound, List.length_cons] at hqueue
    have htail : (x.worked job e).memory.queue = x.memory.queue.tail :=
      if_pos (by rw [hinbound, List.length_cons]; simp)
    refine hfiled ?_ fun message hmem => List.mem_of_mem_tail (htail ▸ hmem)
    rw [htail, List.length_tail, hqueue, Nat.add_sub_cancel]
  · have hsame : (x.worked job e).memory.queue = x.memory.queue :=
      if_neg (by rw [hinbound]; simp)
    exact hfiled (by rw [hsame, hqueue, hinbound]) fun message hmem => hsame ▸ hmem

/-- A listener that rests neither begins a message nor a refusal. -/
theorem rested (h : x.IsFiled) {l : Listener} {e : Endpoint Backplane}
    (hpacket : x.listener.packet? x.endpoint = none)
    (hrests : x.listener.Rests l x.endpoint.node e.node) : (x.heard l e).IsFiled := by
  unfold Resident.heard
  rw [hpacket]
  refine ⟨h.tame, h.off, hrests.calls _ h.calls, h.serving, ?_, h.queued, ?_, ?_, ?_⟩
  · exact h.queue.trans (congrArg List.length hrests.inbound).symm
  · cases hidle : l.reassembler.isIdle with
    | true => simp [Memory.wait]
    | false =>
      have hbusy : ¬x.listener.reassembler.isIdle = true := fun h => by
        rw [hrests.idle h] at hidle
        cases hidle
      simpa [Memory.wait] using fun hnone => hbusy (h.pieces.mp hnone)
  · cases hretrying : l.isRetrying with
    | false => simp [Memory.wait]
    | true =>
      have hretried := hrests.retrying hretrying
      have hne : ¬x.memory.refusing = [] := fun hnone => by
        rw [h.refusing.mp hnone] at hretried
        cases hretried
      simpa [Memory.wait] using hne
  · have htells := h.tells
    rw [Memory.Tells, ← hrests.buffer] at htells
    exact htells

theorem took (h : x.IsFiled) {l : Listener} {e : Endpoint Backplane} {packet : Bytes}
    (hpacket : x.listener.packet? x.endpoint = some packet)
    (hretrying : x.listener.isRetrying = false)
    (hpushed : l.reassembler = (x.listener.reassembler.push packet).2)
    (htakes : l.Takes x.endpoint.node e.node (x.listener.reassembler.push packet).1)
    (hcalls : ∀ t, x.endpoint.node.pending.IsOnly t → e.node.pending.IsOnly t) :
    (x.heard l e).IsFiled := by
  have hqueue := h.queue
  have hrefusing := h.refusing.mpr hretrying
  have htells := h.tells.hear packet (x.endpoint.node.inbound.length < e.node.inbound.length)
    l.isRetrying
  rw [← hpushed] at htells
  unfold Resident.heard
  rw [hpacket]
  dsimp only
  rcases hresult : (x.listener.reassembler.push packet).1 with error | done
  · have hsame := Reassembler.push_error hresult
    rw [hresult] at htakes
    cases htakes with
    | refused hretrying' hinbound =>
      refine ⟨h.tame, h.off, hcalls _ h.calls, ?_, ?_, ?_, ?_, ?_, htells⟩
      all_goals rw [Memory.hear, hresult]
      · exact h.serving
      · exact hqueue.trans (congrArg List.length hinbound).symm
      · exact h.queued
      · rw [hpushed, hsame]
        exact h.pieces
      · exact ⟨fun _ => hretrying', fun _ => hrefusing⟩
  · have hidle := Reassembler.isIdle_push hresult
    rw [← hpushed] at hidle
    rw [hresult] at htakes
    cases htakes with
    | continued hretrying' hinbound =>
      refine ⟨h.tame, h.off, hcalls _ h.calls, ?_, ?_, ?_, ?_, ?_, htells⟩
      all_goals rw [Memory.hear, hresult]
      · exact h.serving
      · exact hqueue.trans (congrArg List.length hinbound).symm
      · exact h.queued
      · simp [hidle]
      · exact ⟨fun _ => hretrying', fun _ => hrefusing⟩
    | ended hinbound =>
      -- A message that has ended has at least the packet that ended it.
      have hne (done : Reassembled) : x.memory.message packet done ≠ [] := by
        simp [Memory.message]
      refine ⟨h.tame, h.off, hcalls _ h.calls, ?_, ?_, ?_, ?_, ?_, htells⟩
      all_goals rw [Memory.hear, hresult]
      · exact h.serving
      · rcases hinbound with hinbound | ⟨m, hinbound⟩
        · simp [hinbound, hqueue]
        · simp [hinbound, hqueue]
      · intro message hmem
        dsimp only at hmem
        split at hmem
        · rcases List.mem_append.mp hmem with hmem | hmem
          · exact h.queued message hmem
          · rw [List.mem_singleton.mp hmem]
            exact hne _
        · exact h.queued message hmem
      · exact ⟨fun _ => hidle, fun _ => rfl⟩
      · cases hl : l.isRetrying with
        | true => simp [hne]
        | false => simp

theorem heard (h : x.IsFiled) {clock : Clock} {l : Listener} {e : Endpoint Backplane}
    (hstep : x.listener.step clock x.endpoint = some (l, e)) : (x.heard l e).IsFiled := by
  cases hpacket : x.listener.packet? x.endpoint with
  | none => exact h.rested hpacket (Listener.rests_step hpacket hstep)
  | some packet =>
    obtain ⟨hretrying, hpushed, htakes, hcalls⟩ := Listener.takes_step hpacket hstep
    exact h.took hpacket hretrying hpushed htakes hcalls

theorem step (h : x.IsFiled) (hstep : Step x x') : x'.IsFiled := by
  cases hstep with
  | work hstep => exact h.worked hstep
  | listen hstep => exact h.heard hstep
  | drift world =>
    exact ⟨h.tame, h.off, h.calls, h.serving, h.queue, h.queued, h.pieces, h.refusing, h.tells⟩

theorem lives (h : x.IsFiled) (hlife : Lives x x') : x'.IsFiled := by
  induction hlife with
  | refl => exact h
  | tail _ hstep ih => exact ih.step hstep

/-- Outside its listener and its queue, a module without work holds no packet. -/
theorem holds_nothing_iff (h : x.IsFiled) (hserving : x.memory.serving = []) :
    (∀ packet, ¬x.memory.Holds packet)
      ↔ x.endpoint.node.inbound = [] ∧ x.listener.reassembler.isIdle = true
        ∧ x.listener.isRetrying = false ∧ ∀ origin ∈ x.memory.buffer, origin = none := by
  refine ⟨fun hnothing => ⟨?_, h.pieces.mp ?_, h.refusing.mp ?_, fun origin horigin => ?_⟩, ?_⟩
  · rw [← List.length_eq_zero_iff, ← h.queue, List.length_eq_zero_iff]
    refine List.eq_nil_iff_forall_not_mem.mpr fun message hmem => ?_
    obtain ⟨packet, hpacket⟩ := List.exists_mem_of_ne_nil message (h.queued message hmem)
    exact hnothing packet (.queued hmem hpacket)
  · exact List.eq_nil_iff_forall_not_mem.mpr fun packet hmem => hnothing packet (.piece hmem)
  · exact List.eq_nil_iff_forall_not_mem.mpr fun packet hmem => hnothing packet (.refused hmem)
  · cases origin with
    | none => rfl
    | some packet => exact absurd (.buffered horigin) (hnothing packet)
  · rintro ⟨hinbound, hidle, hretrying, hbuffer⟩ packet hholds
    have hqueue : x.memory.queue = [] := by
      rw [← List.length_eq_zero_iff, h.queue, hinbound, List.length_nil]
    cases hholds with
    | buffered hmem => cases hbuffer _ hmem
    | piece hmem => rw [h.pieces.mpr hidle] at hmem; cases hmem
    | queued hmessage _ => rw [hqueue] at hmessage; cases hmessage
    | refused hmem => rw [h.refusing.mpr hretrying] at hmem; cases hmem
    | served hmem => rw [hserving] at hmem; cases hmem

end IsFiled

/-- However the module lived, the bytes of a message that a packet ends came with the packets that
the memory says, but for those that have been zero from the start. -/
theorem Lives.exists_packet_of_mem_content {description : ModuleDescription} {slot : Slot}
    {settings : Settings} {downlinks : List Downlink} {port : Port} {world : Backplane}
    (hlife : Lives (start description slot settings downlinks port world) x) {packet : Bytes}
    {done : Reassembled} (hpush : (x.listener.reassembler.push packet).1 = .ok (some done))
    {byte : UInt8} (hbyte : byte ∈ (x.listener.reassembler.push packet).2.content done) :
    byte = 0 ∨ ∃ k ∈ x.memory.message packet done,
      ∃ bytes, (x.memory.packets ++ [packet])[k]? = some bytes ∧ byte ∈ bytes :=
  have hfiled := (IsFiled.start description slot settings downlinks port world).lives hlife
  Memory.exists_packet_of_mem_content hfiled.tells hpush hbyte

/-! ## Switching on -/

/-- The module is switched on. -/
def Boots (x y : Resident) : Prop :=
  x.job.activity = .off ∧ ∃ before clock job e,
    x.job.step before clock x.endpoint = some (job, e) ∧ y = x.worked job e

theorem Boots.step (h : x.Boots y) : Step x y := by
  obtain ⟨-, before, clock, job, e, hstep, rfl⟩ := h
  exact .work hstep

/-- The module is as it was when it was built, but for its queue, its listener, and what it counts
and draws from. -/
structure IsReset (x : Resident) : Prop where
  address : x.endpoint.address = Job.factoryAddress x.job.description.kind
  keys : x.endpoint.node.keys = []
  waiting : x.endpoint.node.pending.waiting = []
  answered : x.endpoint.node.pending.answered = []
  serving : x.job.isServing = false
  port : ∀ port, x.endpoint.world.ports[x.endpoint.node.port]? = some port →
    port.address = Job.factoryAddress x.job.description.kind ∧ port.inbox = []

/-- Switching on leaves the queue, the listener and everything that is held. -/
structure IsKept (x y : Resident) : Prop where
  inbound : y.endpoint.node.inbound = x.endpoint.node.inbound
  listener : y.listener = x.listener
  memory : y.memory = { x.memory with uses := [] :: x.memory.uses }

theorem Boots.isReset_and_isKept (h : x.Boots y) (hfiled : x.IsFiled) :
    y.IsReset ∧ x.IsKept y := by
  obtain ⟨hoff, before, clock, job, e, hstep, rfl⟩ := h
  have hon : x.job.bootUp clock x.endpoint = (job, e) := by
    rw [Job.step, hoff] at hstep
    dsimp only at hstep
    split at hstep
    · exact Option.some.inj hstep
    · cases hstep
  obtain ⟨haddress, hkeys, hpending, hinbound, hport, hinbox⟩ :=
    x.job.bootUp_frame clock x.endpoint
  have hdescription : (x.job.bootUp clock x.endpoint).1.description = x.job.description := rfl
  have hidle := (Job.goesOn_bootUp hoff clock x.endpoint).serving.trans (hfiled.off hoff)
  rw [hon] at haddress hkeys hpending hinbound hport hinbox hdescription hidle
  -- The call that the module waited for was forgotten when it lost its power.
  have hticket : x.job.ticket? = none := by rw [Job.ticket?, hoff]
  obtain ⟨hwaiting, hanswered⟩ := (hticket ▸ hfiled.calls).eq_nil
  have hserving := hfiled.serving (hfiled.off hoff)
  refine ⟨⟨hdescription ▸ haddress, hkeys, hpending ▸ hwaiting, hpending ▸ hanswered, hidle, ?_⟩,
    hinbound, rfl, ?_⟩
  · intro port hlooked
    rw [Resident.worked, hport] at hlooked
    exact hdescription ▸ hinbox port hlooked
  · dsimp only at hinbound hidle
    simp [Resident.worked, Memory.work, hinbound, hidle, hserving]

/-- **What a cold start forgets, and what it keeps.** However a module got into it, after it was
switched on it answers at its first address, has no key and no call, is about no request, and
nothing waits at its port. Its queue and its listener are what they were. So it holds nothing from
before if and only if no request waits, no message is in progress, no refusal is to be tried again,
and the receive buffer was never written to. Whatever is taken in, handled, answered or refused
later is made of packets that were received since, and of those that were held. -/
theorem cold_start_keeps {description : ModuleDescription} {slot : Slot} {settings : Settings}
    {downlinks : List Downlink} {port : Port} {world : Backplane}
    (hbefore : Lives (start description slot settings downlinks port world) x) (hboot : x.Boots y)
    (hafter : Lives y z) :
    y.IsReset ∧ x.IsKept y
    ∧ ((∀ packet, ¬y.memory.Holds packet)
      ↔ y.endpoint.node.inbound = [] ∧ y.listener.reassembler.isIdle = true
        ∧ y.listener.isRetrying = false ∧ ∀ origin ∈ y.memory.buffer, origin = none)
    ∧ ∃ later, z.memory.uses = later ++ y.memory.uses ∧ ∀ message ∈ later, ∀ packet ∈ message,
        y.memory.Holds packet ∨ y.memory.received ≤ packet := by
  have hfiled := (IsFiled.start description slot settings downlinks port world).lives hbefore
  obtain ⟨hreset, hkept⟩ := hboot.isReset_and_isKept hfiled
  have hfiled' := hfiled.step hboot.step
  exact ⟨hreset, hkept, hfiled'.holds_nothing_iff (hfiled'.serving hreset.serving),
    hafter.precedes.uses⟩

/-! ## A message of two halves -/

/-- The module acts on a backplane, if there is anything to do. -/
def workOn (x : Resident) (world : Backplane) : Resident :=
  match x.job.step world ⟨0, 0⟩ (x.on world).endpoint with
  | none => x.on world
  | some (job, e) => (x.on world).worked job e

/-- Its listener does. -/
def hearOn (x : Resident) (world : Backplane) : Resident :=
  match x.listener.step ⟨0, 0⟩ (x.on world).endpoint with
  | none => x.on world
  | some (l, e) => (x.on world).heard l e

theorem lives_workOn (x : Resident) (world : Backplane) : Lives x (x.workOn world) := by
  have hdrift : Lives x (x.on world) := .single (.drift world)
  unfold workOn
  split
  · exact hdrift
  · next hstep => exact hdrift.tail (.work hstep)

theorem lives_hearOn (x : Resident) (world : Backplane) : Lives x (x.hearOn world) := by
  have hdrift : Lives x (x.on world) := .single (.drift world)
  unfold hearOn
  split
  · exact hdrift
  · next hstep => exact hdrift.tail (.listen hstep)

/-- The module has no power, or has not been switched on yet. -/
def isOff (x : Resident) : Bool :=
  match x.job.activity with
  | .off => true
  | _ => false

/-- A module without power that finds itself switched on in a turn. -/
theorem boots_workOn {world : Backplane} (hoff : x.isOff = true)
    (hon : world.isPowered x.endpoint.node.port = true) : (x.on world).Boots (x.workOn world) := by
  have hactivity : x.job.activity = .off := by
    unfold isOff at hoff
    split at hoff
    · assumption
    · cases hoff
  rcases hbooted : x.job.bootUp ⟨0, 0⟩ (x.on world).endpoint with ⟨job, e⟩
  have hstep : x.job.step world ⟨0, 0⟩ (x.on world).endpoint = some (job, e) := by
    rw [Job.step, hactivity, ← hbooted]
    exact if_pos (by simp [Resident.on, hon])
  refine ⟨hactivity, world, ⟨0, 0⟩, job, e, hstep, ?_⟩
  rw [workOn, hstep]

/-- A backplane with the port of one module, with power for all slots or for none. -/
def oneSlot (isOn : Bool) (inbox : List Bytes) : Backplane :=
  .quiet isOn [⟨Slot.last, .storage, inbox⟩]

/-- A notification of two packets for the storage module. -/
def halves : List Bytes :=
  match (Dispatcher.start 1 Slot.first.assignedAddress {} [] 1).frame .storage false
    (envelope .notification Service.storage.toByte 1 (List.replicate 300 7)) with
  | (.ok outgoing, _) => outgoing.packets
  | (.error _, _) => []

/-- A storage module that has never had power. -/
def unpowered : Resident :=
  start ⟨"s", 0, .storage, 0.0, 0, none, false, none, 0.0, 0⟩ Slot.last {} [] 0 (oneSlot false [])

/-- It is switched on, receives the first half, and loses its power. -/
def interrupted : Resident :=
  ((unpowered.workOn (oneSlot true [])).hearOn (oneSlot true (halves.take 1))).workOn
    (oneSlot false [])

/-- It is switched on again. -/
def restarted : Resident := interrupted.workOn (oneSlot true [])

/-- It receives the second half. -/
def completed : Resident := restarted.hearOn (oneSlot true (halves.drop 1))

/-- A notification is taken in after a cold start whose first packet was received before it. -/
theorem packet_outlives_power :
    Lives unpowered (interrupted.on (oneSlot true []))
    ∧ (interrupted.on (oneSlot true [])).Boots restarted ∧ Lives restarted completed
    ∧ restarted.endpoint.node.keys = [] ∧ restarted.memory.received = 1
    ∧ completed.endpoint.node.inbound.length = 1
    ∧ ∃ message, completed.memory.uses = message :: restarted.memory.uses ∧ 0 ∈ message := by
  have hbefore : Lives unpowered (interrupted.on (oneSlot true [])) :=
    (((lives_workOn _ _).trans (lives_hearOn _ _)).trans (lives_workOn _ _)).tail (.drift _)
  have hboot : (interrupted.on (oneSlot true [])).Boots restarted :=
    boots_workOn (by decide +kernel) (by decide +kernel)
  have hafter : Lives restarted completed := lives_hearOn _ _
  obtain ⟨hreset, -, -, later, huses, -⟩ := cold_start_keeps hbefore hboot hafter
  -- One more use is on record than before the second half, and it is the latest.
  have hrestarted : restarted.memory.uses.length = 3 := by decide +kernel
  have hcompleted : completed.memory.uses.length = 4 := by decide +kernel
  have hlatest : 0 ∈ completed.memory.uses.headD [] := by decide +kernel
  have hone : later.length = 1 := by
    rw [huses, List.length_append] at hcompleted
    omega
  obtain ⟨message, rfl⟩ := List.length_eq_one_iff.mp hone
  rw [huses] at hlatest
  exact ⟨hbefore, hboot, hafter, hreset.keys, by decide +kernel, by decide +kernel, message, huses,
    hlatest⟩

end Resident

end ModuleBus
