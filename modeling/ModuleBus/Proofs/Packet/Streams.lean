import ModuleBus.Proofs.Packet.Fragments
import ModuleBus.Proofs.Packet.Interleaving

set_option autoImplicit false

/-! # Streams of packets

One sender's messages reach a receiver one after another, each with its packets in order. Stray
packets come in between: such that cannot be read, anywhere, and such of other messages while a
message is in progress. Stray packets are refused and change nothing, so that every message is
complete at its last packet, whatever the size of the buffer. -/

namespace ModuleBus

/-- A packet that arrives at a receiver: a fragment of a message that the sender at some address
sends, or a stray packet. -/
inductive Incoming where
  | stray (packet : Bytes)
  | fragment (m : Sent) (k : Nat)

namespace Incoming

/-- The packet that arrives. -/
def packet (a : Address) : Incoming → Bytes
  | stray packet => packet
  | fragment m k => m.packet a k

/-- The message that the arrival ends. -/
def ended? : Incoming → Option Sent
  | stray _ => none
  | fragment m k => if k + 1 = m.count then some m else none

theorem ended?_of_lt {m : Sent} {k : Nat} (hmore : k + 1 < m.count) :
    (fragment m k).ended? = none :=
  if_neg (Nat.ne_of_lt hmore)

theorem ended?_of_eq {m : Sent} {k : Nat} (hlast : k + 1 = m.count) :
    (fragment m k).ended? = some m :=
  if_pos hlast

/-- A packet may stray in if it cannot be read. While the first of the messages that are left is in
progress, so may a packet of any other. -/
def MayStray (a : Address) (left : List Sent) (k : Nat) (packet : Bytes) : Prop :=
  match Header.parse packet with
  | .error _ => True
  | .ok h => 0 < k ∧ ∃ m ∈ left.head?, ¬(a = h.source ∧ m.outgoing.sequence = h.sequence)

end Incoming

/-- The arrivals are what is left of some messages of the sender at an address, the first of them
from its packet with index `k` on, and stray packets. -/
inductive Stream (a : Address) : List Sent → Nat → List Incoming → Prop
  | done : Stream a [] 0 []
  | stray {left : List Sent} {k : Nat} {packet : Bytes} {rest : List Incoming} :
      Incoming.MayStray a left k packet → Stream a left k rest →
      Stream a left k (.stray packet :: rest)
  | more {m : Sent} {left : List Sent} {k : Nat} {rest : List Incoming} :
      k + 1 < m.count → Stream a (m :: left) (k + 1) rest →
      Stream a (m :: left) k (.fragment m k :: rest)
  | last {m : Sent} {left : List Sent} {k : Nat} {rest : List Incoming} :
      k + 1 = m.count → Stream a left 0 rest → Stream a (m :: left) k (.fragment m k :: rest)

/-- The messages that end in a stream are those that it consists of, each once and in order. -/
theorem Stream.ended {a : Address} {left : List Sent} {k : Nat} {arrivals : List Incoming}
    (h : Stream a left k arrivals) : arrivals.filterMap Incoming.ended? = left := by
  induction h with
  | done => rfl
  | stray _ _ ih => exact ih
  | @more m _ k _ hmore _ ih =>
    rw [List.filterMap_cons_none (Incoming.ended?_of_lt hmore)]
    exact ih
  | @last m _ k _ hlast _ ih => rw [List.filterMap_cons_some (Incoming.ended?_of_eq hlast), ih]

/-! ## What the sender makes of its payloads -/

namespace FrameEncoder

theorem refusal_current {size : Nat} (hsize : size < UInt16.size) (sealed : Bool) :
    refusal .current size sealed = none := by
  rw [refusal, if_neg (Nat.not_le.mpr hsize)]

/-- A payload that the length field can tell is sent. -/
theorem sendAll_cons {a : Address} {next : UInt16} {l : Letter} (letters : List Letter)
    (hsize : l.payload.length < UInt16.size) :
    sendAll ⟨a, .current, next⟩ (l :: letters)
      = ⟨l.payload, l.sealed, l.destination, next,
          (List.range (packetCount l.payload.length)).map
            (packet ⟨a, .current, next⟩ l.payload l.sealed)⟩
        :: sendAll ⟨a, .current, next + 1⟩ letters := by
  simp only [sendAll, encode, refusal_current hsize]

/-- Such payloads are all sent, under consecutive sequence numbers. -/
theorem sendAll_eq {a : Address} {next : UInt16} {letters : List Letter}
    (hsizes : ∀ l ∈ letters, l.payload.length < UInt16.size) :
    ((sendAll ⟨a, .current, next⟩ letters).map fun m =>
        (m.payload, m.sealed, m.outgoing.sequence))
      = letters.mapIdx fun i l => (l.payload, l.sealed, next + UInt16.ofNat i) := by
  induction letters generalizing next with
  | nil => rfl
  | cons l rest ih =>
    have hnext (i : Nat) : next + 1 + UInt16.ofNat i = next + UInt16.ofNat (i + 1) := by
      rw [UInt16.ofNat_add, UInt16.add_assoc, UInt16.add_comm 1]
      rfl
    rw [sendAll_cons rest (hsizes l List.mem_cons_self), List.map_cons,
      ih fun l' hl' => hsizes l' (List.mem_cons_of_mem l hl'), List.mapIdx_cons]
    simp [hnext]

end FrameEncoder

/-! ## What the receiver makes of the packets -/

namespace Reassembler

/-- What the buffer holds after some messages were collected in it. -/
def filled (buffer : Bytes) (messages : List Sent) : Bytes :=
  messages.foldl (fun buffer m => buffer.overwrite 0 m.payload) buffer

theorem length_filled (buffer : Bytes) (messages : List Sent) :
    (filled buffer messages).length = buffer.length := by
  induction messages generalizing buffer with
  | nil => rfl
  | cons m rest ih => exact (ih _).trans (Bytes.length_overwrite _ _ _)

/-- What a receiver does with an arrival, which has held `held` in its buffer since the last message
was complete. A stray packet is refused and changes nothing. The first fragment of a message finds
the receiver idle. The last one, and no other, completes the message: the outcome names its sender,
its sequence number and its flag, and how many of its bytes there are and are held, the buffer holds
them in front of what it held before, and the receiver is idle again. -/
def Meets (a : Address) (held : Bytes) (r : Reassembler) : Incoming → Prop
  | .stray packet => ∃ error, r.push packet = (.error error, r)
  | .fragment m k =>
    (k = 0 → r = start held) ∧
    if k + 1 < m.count then
      ∃ r', r.push (m.packet a k) = (.ok none, r') ∧ r'.isIdle = false
    else
      ∃ r', r.push (m.packet a k) = (.ok (some {
          source := a
          sequence := m.outgoing.sequence
          sealed := m.sealed
          length := min m.payload.length held.length
          total := m.payload.length
          truncated := m.payload.length > held.length }), r')
        ∧ r'.isIdle = true
        ∧ r'.buffer = m.payload.take held.length
          ++ held.drop (min m.payload.length held.length)

/-- A receiver that waits for what is left of some messages, from the packet with index `k` of the
first of them on. -/
def awaiting (a : Address) (held : Bytes) (left : List Sent) (k : Nat) : Reassembler :=
  match left with
  | [] => start held
  | m :: _ => collecting held (m.opening a) m.payload k

theorem awaiting_zero (a : Address) (held : Bytes) (left : List Sent) :
    awaiting a held left 0 = start held := by
  cases left with
  | nil => rfl
  | cons m rest => exact collecting_zero held _ _

variable {a : Address} {held : Bytes} {left : List Sent} {m : Sent} {k : Nat}

/-- A stray packet is refused. -/
theorem push_stray (held : Bytes) {packet : Bytes} (hstray : Incoming.MayStray a left k packet) :
    ∃ error, (awaiting a held left k).push packet = (.error error, awaiting a held left k) := by
  unfold Incoming.MayStray at hstray
  split at hstray
  · next error hparse => exact ⟨error, push_unreadable hparse⟩
  · next h hparse =>
    obtain ⟨hk, m, hm, hother⟩ := hstray
    cases left with
    | nil => cases hm
    | cons first rest =>
      obtain rfl : first = m := Option.some.inj hm
      exact ⟨_, push_stranger hparse (if_neg (Nat.ne_of_gt hk)) hother⟩

/-- A fragment that is not the last is collected. -/
theorem push_more (hm : m.IsFrom a) (hmore : k + 1 < m.count) :
    (awaiting a held (m :: left) k).push (m.packet a k)
      = (.ok none, awaiting a held (m :: left) (k + 1)) := by
  have hk : k < m.count := Nat.lt_of_succ_lt hmore
  exact (push_fragment held (Sent.isFragment_packet hm hk) hk).trans (if_pos hmore)

/-- The last fragment completes its message. -/
theorem push_last (hm : m.IsFrom a) (hlast : k + 1 = m.count) :
    (awaiting a held (m :: left) k).push (m.packet a k)
      = (.ok (some ((m.opening a).ended m.payload.length held.length)),
        start (held.overwrite 0 m.payload)) := by
  have hk : k < m.count := by omega
  exact (push_fragment held (Sent.isFragment_packet hm hk) hk).trans
    (if_neg (Nat.not_lt.mpr (Nat.le_of_eq hlast.symm)))

theorem meets_more (left : List Sent) (hm : m.IsFrom a) (hmore : k + 1 < m.count) :
    Meets a held (awaiting a held (m :: left) k) (.fragment m k) := by
  refine ⟨fun hk => ?_, ?_⟩
  · rw [hk, awaiting_zero]
  · rw [if_pos hmore]
    exact ⟨_, push_more hm hmore, rfl⟩

theorem meets_last (left : List Sent) (hm : m.IsFrom a) (hlast : k + 1 = m.count) :
    Meets a held (awaiting a held (m :: left) k) (.fragment m k) := by
  refine ⟨fun hk => ?_, ?_⟩
  · rw [hk, awaiting_zero]
  · rw [if_neg (by omega)]
    exact ⟨_, push_last hm hlast, rfl, Bytes.overwrite_zero held m.payload⟩

/-- Every arrival of a stream is met as it should be. -/
theorem meets_of_stream (held : Bytes) {arrivals before after : List Incoming} {arrival : Incoming}
    (hstream : Stream a left k arrivals) (hfrom : ∀ m ∈ left, m.IsFrom a)
    (hsplit : arrivals = before ++ arrival :: after) :
    Meets a (filled held (before.filterMap Incoming.ended?))
      ((awaiting a held left k).pushAll (before.map (Incoming.packet a))) arrival := by
  induction hstream generalizing before held with
  | done => simp at hsplit
  | stray hstray _ ih =>
    obtain ⟨error, hpush⟩ := push_stray held hstray
    cases before with
    | nil =>
      obtain ⟨rfl, rfl⟩ := List.cons.inj hsplit
      exact ⟨error, hpush⟩
    | cons first before =>
      obtain ⟨rfl, hrest⟩ := List.cons.inj hsplit
      rw [List.map_cons, pushAll, List.foldl_cons]
      have hnext : ((awaiting a held _ _).push (Incoming.packet a (.stray _))).2 = _ :=
        congrArg Prod.snd hpush
      rw [hnext]
      exact ih held hfrom hrest
  | @more m left k _ hmore _ ih =>
    have hm := hfrom m List.mem_cons_self
    cases before with
    | nil =>
      obtain ⟨rfl, rfl⟩ := List.cons.inj hsplit
      exact meets_more left hm hmore
    | cons first before =>
      obtain ⟨rfl, hrest⟩ := List.cons.inj hsplit
      rw [List.map_cons, pushAll, List.foldl_cons, Incoming.packet, push_more hm hmore,
        List.filterMap_cons_none (Incoming.ended?_of_lt hmore)]
      exact ih held hfrom hrest
  | @last m left k _ hlast _ ih =>
    have hm := hfrom m List.mem_cons_self
    cases before with
    | nil =>
      obtain ⟨rfl, rfl⟩ := List.cons.inj hsplit
      exact meets_last left hm hlast
    | cons first before =>
      obtain ⟨rfl, hrest⟩ := List.cons.inj hsplit
      have hnext := ih (held.overwrite 0 m.payload)
        (fun m' hm' => hfrom m' (List.mem_cons_of_mem m hm')) hrest
      rw [awaiting_zero] at hnext
      rw [List.map_cons, pushAll, List.foldl_cons, Incoming.packet, push_last hm hlast,
        List.filterMap_cons_some (Incoming.ended?_of_eq hlast)]
      exact hnext

/-- **Streams are collected.** A sender in the current layout sends payloads of at most 65535 bytes,
one after another from any sequence number on, and their packets reach an idle receiver in order,
with stray packets in between. Then there is one message to each payload, under consecutive sequence
numbers, whose fragments are the packets that were written; the messages end in the stream each once
and in order; and every arrival is met as it should be: stray packets are refused and change
nothing, and each message is complete at its last packet. The buffer keeps its size, and what the
earlier messages have left in it is still there behind the later ones. -/
theorem streams_are_collected {next : UInt16} {letters : List Letter} {r : Reassembler}
    {arrivals : List Incoming} (hsizes : ∀ l ∈ letters, l.payload.length ≤ 65535)
    (hidle : r.isIdle = true)
    (hstream : Stream a (FrameEncoder.sendAll ⟨a, .current, next⟩ letters) 0 arrivals) :
    ((FrameEncoder.sendAll ⟨a, .current, next⟩ letters).map fun m =>
        (m.payload, m.sealed, m.outgoing.sequence))
      = letters.mapIdx (fun i l => (l.payload, l.sealed, next + UInt16.ofNat i))
    ∧ (∀ m ∈ FrameEncoder.sendAll ⟨a, .current, next⟩ letters,
        m.outgoing.packets = (List.range m.count).map (m.packet a))
    ∧ arrivals.filterMap Incoming.ended? = FrameEncoder.sendAll ⟨a, .current, next⟩ letters
    ∧ ∀ before arrival after, arrivals = before ++ arrival :: after →
      (filled r.buffer (before.filterMap Incoming.ended?)).length = r.buffer.length
      ∧ Meets a (filled r.buffer (before.filterMap Incoming.ended?))
        (r.pushAll (before.map (Incoming.packet a))) arrival := by
  have hfrom (m : Sent) (hm : m ∈ FrameEncoder.sendAll ⟨a, .current, next⟩ letters) :
      m.IsFrom a :=
    Sent.isFrom_of_mem_sendAll rfl hm
  refine ⟨FrameEncoder.sendAll_eq fun l hl => Nat.lt_succ_of_le (hsizes l hl),
    fun m hm => (hfrom m hm).packets, hstream.ended,
    fun before arrival after hsplit => ⟨length_filled _ _, ?_⟩⟩
  have hmeets := meets_of_stream r.buffer hstream hfrom hsplit
  rw [awaiting_zero, ← eq_start hidle] at hmeets
  exact hmeets

/-- A buffer of four bytes, a message of three hundred, and one of two whose packet is lost in the
middle of the first and written again after it. -/
theorem stream_around_strays_is_collected :
    ∃ long : Bytes, long.length = 300 ∧ ∃ m₀ m₁ : Sent,
      FrameEncoder.sendAll ⟨⟨0x20⟩, .current, 0xFFFF⟩
        [⟨⟨0x30⟩, long, true⟩, ⟨⟨0x30⟩, [1, 2], false⟩] = [m₀, m₁]
      ∧ m₁.outgoing.sequence = 0
      ∧ Meets ⟨0x20⟩ [0, 0, 0, 0] (start [0, 0, 0, 0]) (.stray [])
      ∧ Meets ⟨0x20⟩ (long.take 4) ((start [0, 0, 0, 0]).pushAll [[], m₀.packet ⟨0x20⟩ 0,
          m₁.packet ⟨0x20⟩ 0, m₀.packet ⟨0x20⟩ 1]) (.fragment m₁ 0) := by
  obtain ⟨long, hlong⟩ : ∃ long : Bytes, long.length = 300 :=
    ⟨List.replicate 300 7, List.length_replicate⟩
  obtain ⟨m₀, m₁, hsent, hcount₀, hcount₁, hsequence₀, hsequence₁, hpayload₀⟩ :
      ∃ m₀ m₁ : Sent, FrameEncoder.sendAll ⟨⟨0x20⟩, .current, 0xFFFF⟩
          [⟨⟨0x30⟩, long, true⟩, ⟨⟨0x30⟩, [1, 2], false⟩] = [m₀, m₁]
        ∧ m₀.count = 2 ∧ m₁.count = 1 ∧ m₀.outgoing.sequence = 0xFFFF
        ∧ m₁.outgoing.sequence = 0 ∧ m₀.payload = long := by
    refine ⟨_, _, (FrameEncoder.sendAll_cons _ (by rw [hlong]; decide)).trans
      (congrArg _ (FrameEncoder.sendAll_cons _ (by decide))), ?_, rfl, rfl, rfl, rfl⟩
    rw [Sent.count, hlong]
    rfl
  have hstray : Incoming.MayStray ⟨0x20⟩ [m₀, m₁] 1 (m₁.packet ⟨0x20⟩ 0) := by
    unfold Incoming.MayStray Sent.packet
    rw [Header.parse_toBytes_append rfl]
    refine ⟨Nat.one_pos, m₀, rfl, fun h => ?_⟩
    rw [hsequence₀, Sent.header, hsequence₁] at h
    exact absurd h.2 (by simp)
  have hstream : Stream ⟨0x20⟩ [m₀, m₁] 0 [.stray [], .fragment m₀ 0,
      .stray (m₁.packet ⟨0x20⟩ 0), .fragment m₀ 1, .fragment m₁ 0] :=
    .stray trivial (.more (by omega) (.stray hstray (.last (by omega) (.last (by omega) .done))))
  have hmeets := streams_are_collected (r := start [0, 0, 0, 0]) (by simp [hlong]) rfl
    (hsent.symm ▸ hstream)
  refine ⟨long, hlong, m₀, m₁, hsent, hsequence₁, (hmeets.2.2.2 [] _ _ rfl).2, ?_⟩
  have hended : [.stray [], .fragment m₀ 0, .stray (m₁.packet ⟨0x20⟩ 0),
      .fragment m₀ 1].filterMap Incoming.ended? = [m₀] := by
    rw [List.filterMap_cons_none rfl, List.filterMap_cons_none (Incoming.ended?_of_lt (by omega)),
      List.filterMap_cons_none rfl, List.filterMap_cons_some (Incoming.ended?_of_eq (by omega)),
      List.filterMap_nil]
  have hfilled : filled [0, 0, 0, 0] [m₀] = long.take 4 := by
    simp [filled, hpayload₀, Bytes.overwrite_zero, hlong]
  have hmeets₁ := (hmeets.2.2.2 [_, _, _, _] _ [] rfl).2
  rw [hended] at hmeets₁
  exact hfilled ▸ hmeets₁

end Reassembler

end ModuleBus
