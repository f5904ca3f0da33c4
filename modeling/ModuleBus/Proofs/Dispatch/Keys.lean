import Mathlib.Data.List.Basic
import ModuleBus.Proofs.Dispatch.Sending

set_option autoImplicit false

/-! # The keys of a dispatcher

What revoking and installing do to the keys that a dispatcher holds. Nothing else changes them: no
message that goes out does, whether it is written, sealed or refused. -/

namespace ModuleBus

/-- A table without the entries of one key. -/
theorem lookup_filter_ne {α β : Type} [DecidableEq α] (l : List (α × β)) (a b : α) :
    (l.filter fun x => x.1 != b).lookup a = if a = b then none else l.lookup a := by
  induction l with
  | nil => simp
  | cons x rest ih =>
    by_cases hx : x.1 = b
    · rw [List.filter_cons_of_neg (by simp [hx]), ih, List.lookup_cons]
      by_cases ha : a = b
      · rw [if_pos ha, if_pos ha]
      · rw [if_neg ha, if_neg ha, hx, beq_false_of_ne ha]
    · rw [List.filter_cons_of_pos (by simp [hx]), List.lookup_cons, List.lookup_cons, ih]
      by_cases ha : a = x.1
      · simp [ha, hx]
      · rw [beq_false_of_ne ha]

namespace Dispatcher

theorem key?_revokeKey (d : Dispatcher) (peer a : Address) :
    (d.revokeKey peer).key? a = if a = peer then none else d.key? a :=
  lookup_filter_ne d.keys a peer

theorem hasKey_revokeKey (d : Dispatcher) (peer a : Address) :
    (d.revokeKey peer).hasKey a = if a = peer then false else d.hasKey a := by
  rw [hasKey, key?_revokeKey]
  split <;> rfl

theorem key?_installKey_of_ne (d : Dispatcher) {peer a : Address} (key : SessionKey)
    (h : a ≠ peer) : (d.installKey peer key).key? a = d.key? a := by
  have hother : (d.installKey peer key).key? a = (d.revokeKey peer).key? a := by
    rw [key?, installKey, List.lookup_cons, beq_false_of_ne h]
    rfl
  rw [hother, key?_revokeKey, if_neg h]

theorem hasKey_installKey (d : Dispatcher) (peer a : Address) (key : SessionKey) :
    (d.installKey peer key).hasKey a = if a = peer then true else d.hasKey a := by
  by_cases h : a = peer
  · simp [h, hasKey]
  · rw [hasKey, d.key?_installKey_of_ne key h, if_neg h, hasKey]

theorem hasKey_of_keys {d d' : Dispatcher} (h : d'.keys = d.keys) (a : Address) :
    d'.hasKey a = d.hasKey a := by
  rw [hasKey, key?, h]
  rfl

end Dispatcher

variable {W : Type} [Link W]

theorem Endpoint.keys_sendEnvelope (e : Endpoint W) (destination : Address) (maySeal : Bool)
    (bytes : Bytes) : (e.sendEnvelope destination maySeal bytes).2.node.keys = e.node.keys := by
  obtain ⟨encoder, entropy, h⟩ := e.sendEnvelope_frame destination maySeal bytes
  rw [h]

theorem ErrorReply.keys_send (r : ErrorReply) (clock : Clock) (e : Endpoint W) :
    (r.send clock e).2.node.keys = e.node.keys := by
  obtain ⟨encoder, entropy, tally, h⟩ := r.send_frame clock e
  rw [h]

end ModuleBus
