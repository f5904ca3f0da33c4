import ModuleBus.Proofs.Text.Lossy
import ModuleBus.Topic

set_option autoImplicit false

/-! # Topic messages are read back

A payload is two fields, each with its length before it, and whatever follows them
(`parse_eq_ok_iff`). Both encoders write the two fields and nothing more, so a payload of either is
read in full and none of its strict prefixes is read at all. What is read is what was written,
except that a published topic was cut by its bytes: if the cut splits a character, that character is
read as U+FFFD, while the slash and the name behind it stay as they are. Written again, a payload
that was read is what it was up to its unread rest, as far as its topic was text. -/

namespace ModuleBus

namespace TopicMessage

open Utf8

variable {payload field topic data rest : Bytes} {m : TopicMessage}

/-! ## Fields -/

/-- A field with its length before it, and what follows. -/
theorem field?_eq_some_iff : field? payload = some (field, rest) ↔
    field.length ≤ 255 ∧ payload = UInt8.ofNat field.length :: (field ++ rest) := by
  constructor
  · intro h
    cases payload with
    | nil => cases h
    | cons length tail =>
      rw [field?] at h
      split at h
      · cases h
      · next hlong =>
        cases h
        have hlength : (tail.take length.toNat).length = length.toNat :=
          List.length_take_of_le (Nat.not_lt.mp hlong)
        rw [hlength, UInt8.ofNat_toNat, List.take_append_drop]
        exact ⟨Nat.le_of_lt_succ length.toNat_lt, rfl⟩
  · rintro ⟨hle, rfl⟩
    rw [field?, toNat_ofNat_of_lt (Nat.lt_succ_of_le hle), if_neg (by simp), List.take_left' rfl,
      List.drop_left' rfl]

/-- A field that is cut short is none. -/
theorem field?_take (rest : Bytes) (hle : field.length ≤ 255) {n : Nat} (hn : n ≤ field.length) :
    field? ((UInt8.ofNat field.length :: (field ++ rest)).take n) = none := by
  cases n with
  | zero => rfl
  | succ n =>
    rw [List.take_succ_cons, field?, toNat_ofNat_of_lt (Nat.lt_succ_of_le hle),
      if_pos (by rw [List.length_take]; omega)]

/-- The two fields of a payload, and what is behind them. -/
def fields? (payload : Bytes) : Option (Bytes × Bytes × Bytes) :=
  (field? payload).bind fun (topic, behind) =>
    (field? behind).map fun (data, rest) => (topic, data, rest)

theorem fields?_eq_some_iff : fields? payload = some (topic, data, rest) ↔
    topic.length ≤ 255 ∧ data.length ≤ 255 ∧ payload = UInt8.ofNat topic.length ::
      (topic ++ UInt8.ofNat data.length :: (data ++ rest)) := by
  unfold fields?
  constructor
  · intro h
    obtain ⟨⟨topic', behind⟩, htopic, h⟩ := Option.bind_eq_some_iff.mp h
    obtain ⟨⟨data', rest'⟩, hdata, h⟩ := Option.map_eq_some_iff.mp h
    cases h
    obtain ⟨hlt, rfl⟩ := field?_eq_some_iff.mp htopic
    obtain ⟨hld, rfl⟩ := field?_eq_some_iff.mp hdata
    exact ⟨hlt, hld, rfl⟩
  · rintro ⟨hlt, hld, hpayload⟩
    rw [field?_eq_some_iff.mpr ⟨hlt, hpayload⟩, Option.bind_some]
    dsimp only
    rw [field?_eq_some_iff.mpr ⟨hld, rfl⟩, Option.map_some]

/-- A payload is refused exactly if its two fields are not all there. -/
theorem parse_eq : parse payload = match fields? payload with
    | none => .error .size
    | some (topic, data, _) => .ok ⟨textLossy topic, data⟩ := by
  unfold parse fields?
  cases field? payload with
  | none => rfl
  | some f =>
    dsimp only [Option.bind_some]
    cases field? f.2 <;> rfl

theorem parse_eq_ok_iff : parse payload = .ok m ↔
    ∃ topic rest, fields? payload = some (topic, m.data, rest) ∧ textLossy topic = m.topic := by
  rw [parse_eq]
  constructor
  · intro h
    split at h
    · cases h
    · next topic data rest hfields =>
      cases h
      exact ⟨topic, rest, hfields, rfl⟩
  · rintro ⟨topic, rest, hfields, htopic⟩
    rw [hfields]
    dsimp only
    rw [htopic]

/-! ## Payloads that are written -/

theorem encode_eq_ok_iff : encode topic data = .ok payload ↔ topic.length ≤ 255 ∧ data.length ≤ 255
    ∧ payload = UInt8.ofNat topic.length :: (topic ++ UInt8.ofNat data.length :: data) := by
  unfold encode
  split
  · next hlong =>
    constructor
    · intro h
      cases h
    · rintro ⟨htopic, hdata, -⟩
      omega
  · next hfits =>
    rw [not_or, Nat.not_lt, Nat.not_lt] at hfits
    rw [Except.ok.injEq, eq_comm]
    exact ⟨fun h => ⟨hfits.1, hfits.2, h⟩, fun h => h.2.2⟩

/-- Both fields of a payload are read back, and nothing is left. -/
theorem fields?_of_encode (h : encode topic data = .ok payload) :
    fields? payload = some (topic, data, []) := by
  obtain ⟨htopic, hdata, rfl⟩ := encode_eq_ok_iff.mp h
  rw [fields?_eq_some_iff, List.append_nil]
  exact ⟨htopic, hdata, rfl⟩

/-- No strict prefix of a payload is one. -/
theorem fields?_take_of_encode (h : encode topic data = .ok payload) {n : Nat}
    (hn : n < payload.length) : fields? (payload.take n) = none := by
  obtain ⟨htopic, hdata, rfl⟩ := encode_eq_ok_iff.mp h
  by_cases hshort : n ≤ topic.length
  · rw [fields?, field?_take _ htopic hshort, Option.bind_none]
  · obtain ⟨k, rfl⟩ : ∃ k, n = topic.length + k + 1 := ⟨n - topic.length - 1, by omega⟩
    rw [List.length_cons, List.length_append, List.length_cons] at hn
    have hk : k ≤ data.length := by omega
    have hdata' := field?_take [] hdata hk
    rw [List.append_nil] at hdata'
    rw [fields?, List.take_succ_cons, List.take_length_add_append,
      field?_eq_some_iff.mpr ⟨htopic, rfl⟩, Option.bind_some]
    dsimp only
    rw [hdata', Option.map_none]

/-- A payload that either encoder wrote. -/
inductive IsEncoded (payload : Bytes) : Prop where
  | published (topic name : String) (data : Bytes)
      (written : publishPayload topic name data = .ok payload)
  | forwarded (m : TopicMessage) (written : subscribePayload m = .ok payload)

theorem subscribePayload_eq_ok_iff : subscribePayload m = .ok payload ↔
    (ofText m.topic).length ≤ maxSubscribeTopic ∧ encode (ofText m.topic) m.data = .ok payload := by
  unfold subscribePayload
  split
  · next hlong =>
    constructor
    · intro h
      cases h
    · rintro ⟨hfits, -⟩
      exact absurd hlong (Nat.not_lt.mpr hfits)
  · next hfits => exact ⟨fun h => ⟨Nat.not_lt.mp hfits, h⟩, And.right⟩

theorem IsEncoded.exists_encode (h : IsEncoded payload) :
    ∃ topic data, encode topic data = .ok payload := by
  cases h with
  | published topic name data written => exact ⟨_, _, written⟩
  | forwarded m written => exact ⟨_, _, (subscribePayload_eq_ok_iff.mp written).2⟩

/-! ## Published topics -/

/-- What stands between a topic and the name of its module. -/
def separator (topic name : String) : String :=
  if topic.toList.head? = some '/' ∨ name.toList.getLast? = some '/' then "" else "/"

theorem ofText_append (s t : String) : ofText (s ++ t) = ofText s ++ ofText t := by
  rw [ofText, String.toList_append, encode_append]
  rfl

/-- The bytes of a published topic are those of the topic, cut short, and of whole texts. -/
theorem publishTopic_eq (topic name : String) : publishTopic topic name =
    (ofText topic).take maxPublishTopic ++ ofText (separator topic name ++ name) := by
  have hhead : ((ofText topic).take maxPublishTopic).head? = some 0x2f
      ↔ topic.toList.head? = some '/' := by
    rw [List.head?_take, if_neg (by decide)]
    exact head?_encode_eq_some_iff (by decide) (by decide) _
  have hlast : (ofText name).getLast? = some 0x2f ↔ name.toList.getLast? = some '/' :=
    getLast?_encode_eq_some_iff (by decide) (by decide) _
  unfold publishTopic separator
  simp only [hhead, hlast, ofText_append]
  split
  · rfl
  · rfl

theorem textLossy_publishTopic (topic name : String) : textLossy (publishTopic topic name) =
    textLossy ((ofText topic).take maxPublishTopic) ++ separator topic name ++ name := by
  rw [publishTopic_eq, textLossy, ofText, ofText, decodeLossy_take_append, String.ofList_append,
    String.ofList_toList, String.append_assoc]
  rfl

/-! ## Both encoders -/

theorem parse_of_publishPayload {topic name : String}
    (h : publishPayload topic name data = .ok payload) :
    parse payload = .ok ⟨textLossy ((ofText topic).take maxPublishTopic)
      ++ separator topic name ++ name, data⟩ := by
  rw [parse_eq, fields?_of_encode h]
  dsimp only
  rw [textLossy_publishTopic]

theorem parse_of_subscribePayload (h : subscribePayload m = .ok payload) :
    parse payload = .ok m := by
  rw [parse_eq, fields?_of_encode (subscribePayload_eq_ok_iff.mp h).2]
  dsimp only
  rw [textLossy_ofText]

/-- A payload whose topic is text is written again from its message. -/
theorem subscribePayload_of_parse (h : parse payload = .ok m)
    (hfields : fields? payload = some (topic, m.data, rest)) (htext : (text? topic).isSome = true)
    (hshort : topic.length ≤ maxSubscribeTopic) :
    ∃ written, subscribePayload m = .ok written ∧ written ++ rest = payload := by
  obtain ⟨topic', rest', hfields', hm⟩ := parse_eq_ok_iff.mp h
  cases hfields.symm.trans hfields'
  obtain ⟨s, hs⟩ := Option.isSome_iff_exists.mp htext
  obtain rfl := text?_eq_some_iff.mp hs
  obtain rfl : s = m.topic := (textLossy_ofText s).symm.trans hm
  obtain ⟨htopic, hdata, hpayload⟩ := fields?_eq_some_iff.mp hfields
  refine ⟨_, subscribePayload_eq_ok_iff.mpr ⟨hshort, encode_eq_ok_iff.mpr ⟨htopic, hdata, rfl⟩⟩, ?_⟩
  rw [hpayload, List.cons_append, List.append_assoc, List.cons_append]

theorem parse_take (h : IsEncoded payload) {n : Nat} (hn : n < payload.length) :
    parse (payload.take n) = .error .size := by
  obtain ⟨topic, data, hencode⟩ := h.exists_encode
  rw [parse_eq, fields?_take_of_encode hencode hn]

/-- **Topic messages are read back from both encoders.** A published message has its data and the
topic it was published under, of which only the part that was cut is read as it then is; a forwarded
message is the same message; a payload that is read as a message whose topic is text of 28 bytes at
most is what the message is written as, and what was not read; and no payload is readable before
its last byte. -/
theorem round_trips :
    (∀ topic name data payload, publishPayload topic name data = .ok payload →
      parse payload = .ok ⟨textLossy ((ofText topic).take maxPublishTopic)
        ++ separator topic name ++ name, data⟩)
    ∧ (∀ m payload, subscribePayload m = .ok payload → parse payload = .ok m)
    ∧ (∀ payload m, parse payload = .ok m →
      ∃ topic rest, fields? payload = some (topic, m.data, rest) ∧ textLossy topic = m.topic
        ∧ ((text? topic).isSome = true → topic.length ≤ maxSubscribeTopic →
          ∃ written, subscribePayload m = .ok written ∧ written ++ rest = payload))
    ∧ ∀ payload, IsEncoded payload → ∀ n < payload.length,
      parse (payload.take n) = .error .size := by
  refine ⟨?_, ?_, ?_, ?_⟩
  · intro topic name data payload h
    exact parse_of_publishPayload h
  · intro m payload h
    exact parse_of_subscribePayload h
  · intro payload m h
    obtain ⟨topic, rest, hfields, hm⟩ := parse_eq_ok_iff.mp h
    exact ⟨topic, rest, hfields, hm, subscribePayload_of_parse h hfields⟩
  · intro payload h n hn
    exact parse_take h hn

/-- The cut can split a character, which is then read as U+FFFD before the slash. -/
theorem round_trips_of_split_character : ∃ payload,
    publishPayload "temperatures-é" "hall" [21] = .ok payload
    ∧ parse payload = .ok ⟨"temperatures-\uFFFD/hall", [21]⟩
    ∧ parse (payload.take 20) = .error .size := by
  obtain ⟨hpublished, -, -, hprefix⟩ := round_trips
  have hread : textLossy ((ofText "temperatures-é").take maxPublishTopic)
      ++ separator "temperatures-é" "hall" ++ "hall" = "temperatures-\uFFFD/hall" := by
    decide +kernel
  have hpayload : publishPayload "temperatures-é" "hall" [21] = .ok _ := rfl
  exact ⟨_, hpayload, hread ▸ hpublished _ _ _ _ hpayload,
    hprefix _ (.published _ _ _ hpayload) 20 (by decide)⟩

end TopicMessage

end ModuleBus
