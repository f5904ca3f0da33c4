import Mathlib.Tactic.Push
import ModuleBus.Client
import ModuleBus.Proofs.Controller.AddressIndex
import ModuleBus.Proofs.Controller.PowerLosses
import ModuleBus.Proofs.Scene.Check
import ModuleBus.Proofs.Text.Topics

set_option autoImplicit false

/-! # Modules that are switched by name

The topic of a message from outside names a module. On its way it is written with its length, read
back, freed of trailing zeros and looked up in the table, slot after slot. No check of a scene knows
about this, so that three kinds of names that a scene may use do not reach their module: the name of
the whole post, which is no module to a command; a name that ends in a zero, which the command does
not keep; and the controller's own name in a slot behind the controller's, since the look-up ends at
the first record of that name and the controller is not switched. Every other module of a scene is
switched off by its name, and no other slot is (`Coordinator.switchesOff_of_check`). -/

namespace ModuleBus

open Wired (rails)

/-! ## From the name to the command -/

/-- There is nothing to cut off where the last character stays. -/
theorem trimEnd_eq_self {drop : Char → Bool} {cs : List Char}
    (h : ∀ c ∈ cs.getLast?, drop c = false) : trimEnd drop cs = cs := by
  rcases cs.eq_nil_or_concat with rfl | ⟨cs, c, rfl⟩
  · rfl
  · rw [List.concat_eq_append] at h ⊢
    have hc : drop c = false := h c List.getLast?_concat
    rw [trimEnd, List.reverse_append, List.reverse_singleton, List.singleton_append,
      List.dropWhile_cons_of_neg (by rw [hc]; decide), List.reverse_cons, List.reverse_reverse]

/-- The message that switches a module off by its name. -/
def TopicMessage.off (name : String) : TopicMessage := ⟨name, Utf8.ofText "off"⟩

theorem TopicMessage.exists_payload_off {name : String}
    (h : (Utf8.ofText name).length ≤ maxSubscribeTopic) :
    ∃ payload, subscribePayload (.off name) = .ok payload := by
  refine ⟨_, subscribePayload_eq_ok_iff.mpr ⟨h, encode_eq_ok_iff.mpr ⟨?_, ?_, rfl⟩⟩⟩
  · exact Nat.le_trans h (by decide)
  · show (Utf8.ofText "off").length ≤ 255
    decide

/-- A name that is not that of the whole post and does not end in a zero is that of a module. -/
theorem DownlinkCommand.parse?_off {name : String} (hpost : name ≠ signpostTopic)
    (hzero : name.toList.getLast? ≠ some '\x00') : parse? (.off name) = some (.off name) := by
  have hname : trimEnd (· == '\x00') name.toList = name.toList := by
    refine trimEnd_eq_self fun c hc => beq_false_of_ne ?_
    rintro rfl
    exact hzero hc
  have haction : trimBlanks (trimEnd (· == '\x00') (Utf8.decodeLossy (Utf8.ofText "off")))
      = "off".toList := by
    rw [Utf8.ofText, Utf8.decodeLossy_of_decode? (Utf8.decode?_encode _)]
    decide
  unfold parse? TopicMessage.off
  dsimp only
  rw [hname, haction, String.ofList_toList, if_neg hpost, if_neg (by decide), if_pos rfl]

/-! ## From the command to the slot -/

namespace ModuleTable

/-- The look-up of a name ends at the first slot that has it. -/
theorem findName?_eq_some {t : ModuleTable} {name : String} {s : Slot}
    (hname : (t.get s).name = name) (hne : name ≠ "") (hfirst : ∀ r < s, (t.get r).name ≠ name) :
    t.findName? name = some s := by
  rw [findName?, List.find?_eq_some_iff_getElem]
  refine ⟨by simp [hname, hne], s.val, by simp [Slot.all], by simp [Slot.all], ?_⟩
  intro i hi
  have hr := hfirst ⟨i, Nat.lt_trans hi s.isLt⟩ hi
  simp [Slot.all, hr]

/-- The table holds exactly the modules of a scene, each in its slot under its name. -/
structure Lists (t : ModuleTable) (scene : Scene) : Prop where
  controller : (t.get Slot.controller).address = some .controller
    ∧ (t.get Slot.controller).name = "controller"
  module : ∀ m ∈ scene.modules, ∀ s : Slot, s.val = m.slot →
    (t.get s).address.isSome = true ∧ (t.get s).name = m.name
  vacant : ∀ s : Slot, s ≠ Slot.controller → (∀ m ∈ scene.modules, s.val ≠ m.slot) →
    (t.get s).address = none ∧ (t.get s).name = ""

/-- A module that is listed is found by its name, unless the controller of that name is found
before it. -/
theorem Lists.findName? {t : ModuleTable} {scene : Scene} (h : t.Lists scene)
    (hscene : scene.check = .ok ()) {m : ModuleDescription} (hm : m ∈ scene.modules) {s : Slot}
    (hs : s.val = m.slot) (hself : m.name = "controller" → m.slot < Slot.controller.val) :
    t.findName? m.name = some s := by
  have hfits := (Scene.modules_of_check hscene).1 m hm
  have hne : m.name ≠ "" := by
    intro hempty
    have hsize := hfits.name_nonempty
    rw [hempty] at hsize
    exact absurd hsize (by decide)
  refine findName?_eq_some (h.module m hm s hs).2 hne ?_
  intro r hrs hname
  by_cases hcontroller : r = Slot.controller
  · rw [hcontroller, h.controller.2] at hname
    have hbefore := hself hname.symm
    rw [hcontroller, Fin.lt_def] at hrs
    omega
  · by_cases hfree : ∀ o ∈ scene.modules, r.val ≠ o.slot
    · exact hne (hname.symm.trans (h.vacant r hcontroller hfree).2)
    · push Not at hfree
      obtain ⟨o, ho, hro⟩ := hfree
      -- Names are not repeated, so the slot is that of the module itself.
      obtain rfl := Scene.eq_of_not_differs hscene hm ho
        (.inr (hname.symm.trans (h.module o ho r hro).2))
      exact absurd (Fin.ext (hro.trans hs.symm)) (Fin.ne_of_lt hrs)

end ModuleTable

/-! ## From the slot to its power -/

namespace Coordinator

variable {W : Type} [Board W] [Link W]

/-- A message with a command to switch off the module of a slot. -/
theorem handle_off {c : Coordinator} {name : String} {s : Slot} {message : Message}
    {m : TopicMessage} (clock : Clock) (e : Endpoint W) (hservice : message.service = .networking)
    (htype : message.type = NetworkingRequest.subscribe.toByte)
    (hparse : TopicMessage.parse message.payload = .ok m)
    (hcommand : DownlinkCommand.parse? m = some (.off name))
    (hname : c.modules.findName? name = some s) (hs : s ≠ Slot.controller) :
    c.handle clock message e = (.ok none, (c.disable s .disabledOff e.world).1,
      { e with world := (c.disable s .disabledOff e.world).2 }) := by
  have hrequest : NetworkingRequest.ofByte? message.type = some .subscribe := by
    rw [htype]
    decide
  simp only [handle, hservice, handleNetworking, hrequest, hparse, hcommand,
    applyDownlink_off clock hname hs]

variable [Wired W]

/-- Of all slots, one has been switched off from outside and has lost its power. -/
structure HasSwitchedOff (s : Slot) (before after : Coordinator) (w w' : W) : Prop where
  state : (after.modules.get s).state = .disabledOff
  power : (rails w').power s = false
  others (r : Slot) : r ≠ s → after.modules.get r = before.modules.get r
  othersPower (r : Slot) : r ≠ s → (rails w').power r = (rails w).power r

theorem hasSwitchedOff_disable (c : Coordinator) (s : Slot) (w : W) :
    HasSwitchedOff s c (c.disable s .disabledOff w).1 w (c.disable s .disabledOff w).2 := by
  have hrails : rails (c.disable s .disabledOff w).2
      = ((rails w).setPower s false).setBus s false := by
    rw [disable, Wired.rails_setBus, Wired.rails_setPower]
  constructor
  case state =>
    rw [disable, modify, ModuleTable.get_modify_self]
  case power =>
    rw [hrails]
    exact Function.update_self ..
  case others =>
    intro r hr
    rw [disable, modify, ModuleTable.get_modify_of_ne _ _ hr]
  case othersPower =>
    intro r hr
    rw [hrails]
    exact Function.update_of_ne hr ..

/-- The name switches the slot off: the message that the radio forwards for it can be written, and
whoever brings it, it is handled without a refusal and has switched off this slot only. -/
def SwitchesOff (c : Coordinator) (clock : Clock) (e : Endpoint W) (name : String) (s : Slot) :
    Prop :=
  ∃ notice, Client.forward (.off name) = .ok notice ∧ ∀ message : Message,
    message.service = notice.service → message.type = notice.type →
    message.payload = notice.payload →
    (c.handle clock message e).1 = .ok none
      ∧ HasSwitchedOff s c (c.handle clock message e).2.1 e.world
        (c.handle clock message e).2.2.world

/-- **A module of a scene is switched off by its name.** It is, in every scene that passes the check
and with every table that lists the scene, if the name is not that of the whole post and does not
end in a zero, and unless it is the controller's own behind the slot of the controller. -/
theorem switchesOff_of_check {scene : Scene} (hscene : scene.check = .ok ()) {c : Coordinator}
    (htable : c.modules.Lists scene) {m : ModuleDescription} (hm : m ∈ scene.modules)
    (hpost : m.name ≠ signpostTopic) (hzero : m.name.toList.getLast? ≠ some '\x00')
    (hself : m.name = "controller" → m.slot < Slot.controller.val) (clock : Clock)
    (e : Endpoint W) : ∃ s : Slot, s.val = m.slot ∧ c.SwitchesOff clock e m.name s := by
  have hfits := (Scene.modules_of_check hscene).1 m hm
  refine ⟨⟨m.slot, hfits.slot_lt⟩, rfl, ?_⟩
  generalize hs : (⟨m.slot, hfits.slot_lt⟩ : Slot) = s
  have hval : s.val = m.slot := hs ▸ rfl
  have hmodule : s ≠ Slot.controller := by
    rintro rfl
    exact hfits.slot_ne hval.symm
  obtain ⟨payload, hpayload⟩ := TopicMessage.exists_payload_off
    (Nat.le_trans hfits.name_short (by decide))
  refine ⟨⟨.controller, .notification, .networking, NetworkingRequest.subscribe.toByte, payload⟩,
    ?_, ?_⟩
  · rw [Client.forward, hpayload]
    rfl
  · intro message hservice htype hsame
    have hparse : TopicMessage.parse message.payload = .ok (.off m.name) := by
      rw [hsame]
      exact TopicMessage.parse_of_subscribePayload hpayload
    rw [handle_off clock e hservice htype hparse (DownlinkCommand.parse?_off hpost hzero)
      (htable.findName? hscene hm hval hself) hmodule]
    exact ⟨rfl, hasSwitchedOff_disable c s e.world⟩

end Coordinator

/-! ## Names that do not reach their module -/

namespace Scene

/-- A scene in which only the first module has a name that means nothing else. -/
def namesakes : Scene where
  name := "post"
  duration := 5
  battery := ⟨10000000, 20000000, true⟩
  harvest := ⟨0.0, 0.0⟩
  controllerDraw := 3600.0
  houseDraw := 0.0
  receiver := none
  modules := [("ambient", 1), (signpostTopic, 0), ("controller", 5), ("gate\x00", 6)].map
    fun (name, slot) => ⟨name, slot, .sensor, 3600.0, 10000, none, false, none, 1.0, 0⟩
  downlinks := []

theorem check_namesakes : namesakes.check = .ok () := by
  have hnone : namesakes.problem?.isNone = true := by decide +kernel
  rw [check, Option.isNone_iff_eq_none.mp hnone]

end Scene

namespace Coordinator

open Scene (namesakes check_namesakes)

/-- The controller of that scene, after all modules have declared themselves. -/
def ofNamesakes : Coordinator :=
  { (boot {} 0 (Backplane.quiet true [])).1 with
    modules := .bound (namesakes.modules.filterMap fun m =>
      (Slot.ofNat? m.slot).map fun s => ⟨s, s.assignedAddress, m.name⟩) }

/-- The controller's end of the bus, with nobody else on it. -/
def ofNamesakesEnd : Endpoint Backplane :=
  ⟨.start 0 .controller {} services 0, Backplane.quiet true []⟩

theorem lists_namesakes : ofNamesakes.modules.Lists namesakes := by
  constructor
  case controller => decide +kernel
  case module => decide +kernel
  case vacant => decide +kernel

/-- In that scene "ambient" is switched off by its name. -/
theorem ambient_is_switched_off :
    ∃ s : Slot, s.val = 1 ∧ ofNamesakes.SwitchesOff ⟨0, 0⟩ ofNamesakesEnd "ambient" s :=
  switchesOff_of_check check_namesakes lists_namesakes List.mem_cons_self (by decide) (by decide)
    (by decide) ⟨0, 0⟩ ofNamesakesEnd

/-- A name does not switch off the slot that is in another state after the message. -/
theorem not_switchesOff {c : Coordinator} {clock : Clock} {e : Endpoint Backplane} {name : String}
    {s : Slot} {notice : Notice} (hnotice : Client.forward (.off name) = .ok notice)
    (hstate : ((c.handle clock ⟨.controller, .controller, notice.frame, notice.service,
      notice.type, notice.payload⟩ e).2.1.modules.get s).state ≠ .disabledOff) :
    ¬c.SwitchesOff clock e name s := by
  rintro ⟨notice', hnotice', hoff⟩
  cases hnotice.symm.trans hnotice'
  exact hstate (hoff _ rfl rfl rfl).2.state

/-- The other three names leave their modules as they are. -/
theorem namesakes_stay_on : namesakes.check = .ok () ∧ ofNamesakes.modules.Lists namesakes
    ∧ ∀ m ∈ namesakes.modules, m.name ≠ "ambient" → ∀ s : Slot, s.val = m.slot →
      ¬ofNamesakes.SwitchesOff ⟨0, 0⟩ ofNamesakesEnd m.name s := by
  refine ⟨check_namesakes, lists_namesakes, ?_⟩
  intro m hm hother s hs
  simp only [namesakes, List.map_cons, List.map_nil, List.mem_cons, List.not_mem_nil, or_false] at hm
  rcases hm with rfl | rfl | rfl | rfl
  · exact absurd rfl hother
  · obtain rfl : s = 0 := Fin.ext hs
    exact not_switchesOff rfl (by decide +kernel)
  · obtain rfl : s = 5 := Fin.ext hs
    exact not_switchesOff rfl (by decide +kernel)
  · obtain rfl : s = 6 := Fin.ext hs
    exact not_switchesOff rfl (by decide +kernel)

end Coordinator

end ModuleBus
