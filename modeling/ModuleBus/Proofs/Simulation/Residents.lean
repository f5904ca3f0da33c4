import Mathlib.Logic.Relation
import ModuleBus.Proofs.Dispatch.Reception
import ModuleBus.Proofs.Simulation.Memories
import ModuleBus.Proofs.Simulation.Turns
import ModuleBus.Simulation.Run

set_option autoImplicit false

/-! # Residents

A resident is a module at its work, its listener and what its participant remembers, on a backplane
that the others change as they like, together with the memory of its packets. Every module of a run
lives such a life (`exists_lives_simulate`), so that what holds of all lives holds in every run. -/

namespace ModuleBus

/-- A module at its work, with what its participant remembers and the memory of its packets. -/
structure Resident where
  job : Job
  listener : Listener
  endpoint : Endpoint Backplane
  memory : Memory

namespace Resident

/-- A module that has never had power. -/
def start (description : ModuleDescription) (slot : Slot) (settings : Settings)
    (downlinks : List Downlink) (port : Port) (world : Backplane) : Resident where
  job := .start description slot settings downlinks
  listener := .start settings.dispatch
  endpoint := ⟨.start port .unassigned settings.dispatch (Job.servicesOf description.kind) port,
    world⟩
  memory := .empty settings.dispatch.receiveBuffer

/-- After a step of the module, which takes a request up if the queue has become shorter. -/
def worked (x : Resident) (job : Job) (e : Endpoint Backplane) : Resident where
  job := job
  listener := x.listener
  endpoint := e
  memory := x.memory.work (e.node.inbound.length < x.endpoint.node.inbound.length) job.isServing

/-- After a step of the listener, which queues a request if the queue has become longer. -/
def heard (x : Resident) (l : Listener) (e : Endpoint Backplane) : Resident where
  job := x.job
  listener := l
  endpoint := e
  memory := match x.listener.packet? x.endpoint with
    | none => x.memory.wait l.reassembler.isIdle l.isRetrying
    | some packet => x.memory.hear x.listener.reassembler packet
        (x.endpoint.node.inbound.length < e.node.inbound.length) l.isRetrying

/-- The module on another backplane. -/
def on (x : Resident) (world : Backplane) : Resident :=
  { x with endpoint := { x.endpoint with world := world } }

/-- The module acts, or its listener, or the others on the backplane do. -/
inductive Step : Resident → Resident → Prop
  | work {x : Resident} {before : Backplane} {clock : Clock} {job : Job}
      {e : Endpoint Backplane} :
      x.job.step before clock x.endpoint = some (job, e) → Step x (x.worked job e)
  | listen {x : Resident} {clock : Clock} {l : Listener} {e : Endpoint Backplane} :
      x.listener.step clock x.endpoint = some (l, e) → Step x (x.heard l e)
  | drift {x : Resident} (world : Backplane) : Step x (x.on world)

/-- Any number of steps. -/
abbrev Lives : Resident → Resident → Prop := Relation.ReflTransGen Step

variable {x x' : Resident}

theorem precedes_step (h : Step x x') : Memory.Precedes x.memory x'.memory := by
  cases h with
  | work hstep => exact x.memory.precedes_work _ _
  | drift world => exact .refl _
  | listen hstep =>
    unfold heard
    dsimp only
    split
    · exact x.memory.precedes_wait _ _
    · exact x.memory.precedes_hear _ _ _ _

theorem Lives.precedes (h : Lives x x') : Memory.Precedes x.memory x'.memory := by
  induction h with
  | refl => exact .refl _
  | tail _ hstep ih => exact ih.trans (precedes_step hstep)

end Resident

/-! ## Turns of a bench -/

/-- What every step keeps, any number of steps keep. -/
theorem of_repeatStep {σ : Type} {f : σ → Option σ} {p : σ → Prop}
    (hf : ∀ s s', p s → f s = some s' → p s') (fuel : Nat) {s : σ} (h : p s) :
    p (repeatStep f fuel s).2 := by
  induction fuel generalizing s with
  | zero => exact h
  | succ fuel ih =>
    rw [repeatStep]
    cases hnext : f s with
    | none => exact h
    | some s' => exact ih (hf s s' h hnext)

/-- In a turn without errands the stations act, and then whatever else lives in the world. -/
theorem Bench.turn_of_errands_eq_nil {A H W α : Type} [Link W] [Lines W] [Handler H W]
    [Actor A H W] {b : Bench A H W α} (h : b.errands = []) :
    let clock : Clock := { b.clock with turn := b.clock.turn + 1 }
    let heard := actStations clock b.stations b.world
    let acted := Actor.act clock b.actor heard.2.1 heard.2.2
    b.turn.2 = ⟨clock, acted.2.2.2, acted.2.2.1, acted.2.1, []⟩ := by
  simp only [turn, h, List.length_nil, List.range_zero, List.foldl_nil]

/-- In a run that is the controller, the receiver, the meter and the modules. -/
theorem act_inhabitants : (Actor.act : Clock → Inhabitants → List (Station BenchHandler) →
    Backplane → Bool × Inhabitants × List (Station BenchHandler) × Backplane)
      = Inhabitants.act := rfl

/-! ## Runs -/

namespace Resident

variable {x : Resident} {clock : Clock}

/-- The station of the module, which has no server of its own. -/
def station (x : Resident) : Station BenchHandler := ⟨x.endpoint.node, some x.listener, none⟩

theorem exists_lives_act (clock : Clock) (x : Resident) : ∃ x', Lives x x' ∧ x'.job = x.job
    ∧ (x.station.act clock x.endpoint.world).2 = (x'.station, x'.endpoint.world) := by
  obtain ⟨x', hlives, hjob, hpair⟩ := of_repeatStep
    (p := fun q => ∃ x', Lives x x' ∧ x'.job = x.job ∧ (x'.listener, x'.endpoint) = q)
    (f := fun q : Listener × Endpoint Backplane => q.1.step clock q.2)
    (by
      rintro _ next ⟨y, hlives, hjob, rfl⟩ hstep
      exact ⟨y.heard next.1 next.2, hlives.tail (.listen hstep), hjob, rfl⟩)
    stepsPerTurn ⟨x, .refl, rfl, rfl⟩
  refine ⟨x', hlives, hjob, ?_⟩
  simp only [station, Station.act, ← hpair]

theorem exists_lives_actAt (before : Backplane) (clock : Clock) (x : Resident) {i : Nat}
    {stations : List (Station BenchHandler)} (hstation : stations[i]? = some x.station) :
    ∃ x', Lives x x' ∧ (actAt (fun (j : Job) e => j.step before clock e) i x.job stations
      x.endpoint.world).2 = (x'.job, stations.set i x'.station, x'.endpoint.world) := by
  obtain ⟨x', hlives, hlistener, hpair⟩ := of_repeatStep
    (p := fun q => ∃ x', Lives x x' ∧ x'.listener = x.listener ∧ (x'.job, x'.endpoint) = q)
    (f := fun q : Job × Endpoint Backplane => q.1.step before clock q.2)
    (by
      rintro _ next ⟨y, hlives, hlistener, rfl⟩ hstep
      exact ⟨y.worked next.1 next.2, hlives.tail (.work hstep), hlistener, rfl⟩)
    stepsPerTurn ⟨x, .refl, rfl, rfl⟩
  refine ⟨x', hlives, ?_⟩
  simp only [actAt, hstation, ← hpair, station, hlistener]

theorem exists_lives_actStations (clock : Clock) (stations : List (Station BenchHandler))
    {k : Nat} (x : Resident) (hstation : stations[k]? = some x.station) :
    ∃ x', Lives x x' ∧ x'.job = x.job
      ∧ (Bench.actStations clock stations x.endpoint.world).2.1[k]? = some x'.station
      ∧ (Bench.actStations clock stations x.endpoint.world).2.2 = x'.endpoint.world := by
  induction stations generalizing k x with
  | nil => cases hstation
  | cons s rest ih =>
    cases k with
    -- Its own listener acts, and the stations after it change the world only.
    | zero =>
      obtain rfl := Option.some.inj hstation
      obtain ⟨x', hlives, hjob, hact⟩ := x.exists_lives_act clock
      refine ⟨x'.on (Bench.actStations clock rest x'.endpoint.world).2.2,
        hlives.tail (.drift _), hjob, ?_, ?_⟩
      · simp only [Bench.actStations, hact]
        rfl
      · simp only [Bench.actStations, hact]
        rfl
    | succ k =>
      obtain ⟨x', hlives, hjob, hlater, hworld⟩ :=
        ih (x.on (s.act clock x.endpoint.world).2.2) hstation
      exact ⟨x', .head (.drift _) hlives, hjob, hlater, hworld⟩

theorem stations_actAt {σ : Type} (step : σ → Endpoint Backplane → Option (σ × Endpoint Backplane))
    {i base : Nat} (hi : i ≠ base) (s : σ) (stations : List (Station BenchHandler))
    (b : Backplane) : (actAt step base s stations b).2.2.1[i]? = stations[i]? := by
  unfold actAt
  split
  · rfl
  · exact List.getElem?_set_ne hi.symm

theorem stations_actJobs (before : Backplane) (clock : Clock) (jobs : List Job) {i base : Nat}
    (hi : i < base) (stations : List (Station BenchHandler)) (b : Backplane) :
    (Inhabitants.actJobs before clock base jobs stations b).2.2.1[i]? = stations[i]? := by
  induction jobs generalizing base stations b with
  | nil => rfl
  | cons job rest ih =>
    exact (ih (Nat.lt_succ_of_lt hi) _ _).trans
      (stations_actAt (fun (j : Job) e => j.step before clock e) (Nat.ne_of_lt hi) job stations b)

theorem exists_lives_actJobs (before : Backplane) (clock : Clock) (jobs : List Job) {k base : Nat}
    (stations : List (Station BenchHandler)) (x : Resident) (hjob : jobs[k]? = some x.job)
    (hstation : stations[base + k]? = some x.station) :
    ∃ x', Lives x x'
      ∧ (Inhabitants.actJobs before clock base jobs stations x.endpoint.world).2.1[k]?
        = some x'.job
      ∧ (Inhabitants.actJobs before clock base jobs stations x.endpoint.world).2.2.1[base + k]?
        = some x'.station
      ∧ (Inhabitants.actJobs before clock base jobs stations x.endpoint.world).2.2.2
        = x'.endpoint.world := by
  induction jobs generalizing k base stations x with
  | nil => cases hjob
  | cons job rest ih =>
    cases k with
    -- The module itself acts, and those after it leave its station alone.
    | zero =>
      obtain rfl := Option.some.inj hjob
      rw [Nat.add_zero] at hstation ⊢
      obtain ⟨x', hlives, hact⟩ := x.exists_lives_actAt before clock hstation
      have hkept := stations_actJobs before clock rest (Nat.lt_succ_self base)
        (stations.set base x'.station) x'.endpoint.world
      have hbase : base < stations.length := (List.getElem?_eq_some_iff.mp hstation).choose
      rw [List.getElem?_set_self hbase] at hkept
      refine ⟨x'.on (Inhabitants.actJobs before clock (base + 1) rest
        (stations.set base x'.station) x'.endpoint.world).2.2.2, hlives.tail (.drift _), ?_, ?_, ?_⟩
      · simp only [Inhabitants.actJobs, hact]
        rfl
      · simp only [Inhabitants.actJobs, hact]
        exact hkept
      · simp only [Inhabitants.actJobs, hact]
        rfl
    | succ k =>
      have hlater : base + (k + 1) = base + 1 + k := by omega
      have hother : base + 1 + k ≠ base := by omega
      rw [hlater] at hstation ⊢
      obtain ⟨x', hlives, hout⟩ := ih _
        (x.on (actAt (fun (j : Job) e => j.step before clock e) base job stations
          x.endpoint.world).2.2.2) hjob
        ((stations_actAt (fun (j : Job) e => j.step before clock e) hother job stations
          x.endpoint.world).trans hstation)
      exact ⟨x', .head (.drift _) hlives, hout⟩

/-- The module with a number lives in the run. -/
structure IsIn (x : Resident) (n : Nat) (r : Run) : Prop where
  job : r.actor.jobs[n]? = some x.job
  station : r.stations[n + 1]? = some x.station
  world : r.world = x.endpoint.world
  errands : r.errands = []

theorem jobs_stepMeter {i i' : Inhabitants} {b b' : Backplane}
    (h : i.stepMeter clock b = some (i', b')) : i'.jobs = i.jobs := by
  unfold Inhabitants.stepMeter at h
  split at h
  · cases h
  · cases h
    rfl

theorem jobs_stepReceiver {i i' : Inhabitants} (h : i.stepReceiver clock = some i') :
    i'.jobs = i.jobs := by
  unfold Inhabitants.stepReceiver at h
  split at h
  · cases h
  · split at h
    · cases h
    · split at h
      · cases h
        rfl
      · cases h
    · split at h
      · cases h
        rfl
      · cases h
    · split at h
      · cases h
      · cases h
        rfl

/-- Others act before the modules do. -/
theorem exists_lives_actAll (clock : Clock) (i : Inhabitants)
    (stations : List (Station BenchHandler)) {n : Nat} (x : Resident)
    (hjob : i.jobs[n]? = some x.job) (hstation : stations[n + 1]? = some x.station) :
    ∃ x', Lives x x'
      ∧ (i.act clock stations x.endpoint.world).2.1.jobs[n]? = some x'.job
      ∧ (i.act clock stations x.endpoint.world).2.2.1[n + 1]? = some x'.station
      ∧ (i.act clock stations x.endpoint.world).2.2.2 = x'.endpoint.world := by
  unfold Inhabitants.act
  dsimp only
  set acted := actAt (fun (c : Controller) e => c.step clock e) 0 i.controller stations
    x.endpoint.world
  set metered := repeatStep (fun (p : Inhabitants × Backplane) => p.1.stepMeter clock p.2)
    stepsPerTurn ({ i with controller := acted.2.1 }, acted.2.2.2)
  -- The controller, the meter and the receiver leave the jobs and the station alone.
  have hmeter : metered.2.1.jobs = i.jobs :=
    of_repeatStep (p := fun q : Inhabitants × Backplane => q.1.jobs = i.jobs)
      (fun _ _ h hstep => (jobs_stepMeter hstep).trans h) stepsPerTurn rfl
  have hreceiver := of_repeatStep (p := fun q : Inhabitants => q.jobs = i.jobs)
      (f := Inhabitants.stepReceiver clock)
      (fun _ _ h hstep => (jobs_stepReceiver hstep).trans h) stepsPerTurn hmeter
  rw [hreceiver]
  have hkept : acted.2.2.1[n + 1]? = some x.station :=
    (stations_actAt _ (Nat.succ_ne_zero n) i.controller stations x.endpoint.world).trans hstation
  obtain ⟨x', hlives, hjobs, hstations, hworld⟩ :=
    exists_lives_actJobs x.endpoint.world clock i.jobs acted.2.2.1 (x.on metered.2.2) hjob
      ((congrArg _ (Nat.add_comm 1 n)).trans hkept)
  refine ⟨x', .head (.drift _) hlives, hjobs, ?_, hworld⟩
  rw [Nat.add_comm n 1]
  exact hstations

/-- A turn of a run takes its modules through steps of theirs. -/
theorem IsIn.turn {n : Nat} {r : Run} (h : x.IsIn n r) :
    ∃ x', Lives x x' ∧ x'.IsIn n r.turn.2 := by
  obtain ⟨y, hlives, hsame, hheard, hworld⟩ :=
    exists_lives_actStations { r.clock with turn := r.clock.turn + 1 } r.stations x h.station
  obtain ⟨x', hlives', hjobs, hstations, hworld'⟩ :=
    exists_lives_actAll { r.clock with turn := r.clock.turn + 1 } r.actor _ y
      (h.job.trans (congrArg some hsame.symm)) hheard
  rw [← hworld, ← h.world] at hjobs hstations hworld'
  refine ⟨x', hlives.trans hlives', ?_⟩
  rw [Bench.turn_of_errands_eq_nil h.errands, act_inhabitants]
  exact ⟨hjobs, hstations, hworld', rfl⟩

theorem IsIn.goTo {n : Nat} {r : Run} (h : x.IsIn n r) (time : Nat) :
    (x.on (r.goTo time).world).IsIn n (r.goTo time) :=
  ⟨h.job, h.station, rfl, h.errands⟩

theorem IsIn.runTo {n : Nat} {r : Run} (untilDone : Bool) (limit : Option Nat) (fuel : Nat)
    (h : x.IsIn n r) : ∃ x', Lives x x' ∧ x'.IsIn n (r.runTo untilDone limit fuel) := by
  induction fuel generalizing r x with
  | zero => exact ⟨x, .refl, h⟩
  | succ fuel ih =>
    obtain ⟨y, hlives, hturned⟩ := h.turn
    rw [Bench.runTo]
    dsimp only
    split
    · exact ⟨y, hlives, hturned⟩
    · split
      · obtain ⟨x', hlives', hin⟩ := ih hturned
        exact ⟨x', hlives.trans hlives', hin⟩
      · split
        · next time _ =>
          obtain ⟨x', hlives', hin⟩ := ih (hturned.goTo time)
          exact ⟨x', (hlives.tail (.drift _)).trans hlives', hin⟩
        · exact ⟨_, hlives.tail (.drift _), hturned.goTo _⟩

/-- Every module of a simulation lives a life that began when the scene did. -/
theorem exists_lives_simulate (scene : Scene) (settings : Settings) (ms : Nat) {n : Nat} {s : Slot}
    {m : ModuleDescription} (hplaced : scene.placed[n]? = some (s, m)) :
    ∃ downlinks world x, Lives (start m s settings downlinks (n + 1) world) x
      ∧ x.IsIn n (Run.simulate scene settings ms) := by
  have hstart : (start m s settings (if m.kind = .radio then scene.downlinks else []) (n + 1)
      (Run.start scene settings).world).IsIn n (Run.start scene settings) := by
    refine ⟨?_, ?_, rfl, rfl⟩
    · simp [Run.start, hplaced, start]
    · simp [Run.start, Scene.stations, hplaced, start, station, Station.listening]
      rfl
  obtain ⟨x, hlives, hin⟩ := hstart.runTo _ _ _
  exact ⟨_, _, x, hlives, hin⟩

end Resident

end ModuleBus
