import Mathlib.Algebra.BigOperators.Fin
import Mathlib.Data.List.Basic
import ModuleBus.Controller.Accounts
import ModuleBus.Controller.Board

set_option autoImplicit false

/-! # The ledger keeps the accounts

A ledger is written as words of four bytes, so that each word can be found by its index, and reads
back as it was written if its numbers fit into the words. The numbers of a snapshot always do,
because it saturates them. A boot from a snapshot starts the timers anew and carries the time that
has passed along, so that a snapshot of the same instant is the same again. -/

namespace ModuleBus

/-! ## Words -/

/-- A number that a signed word of 32 bits can hold. -/
def FitsSigned (i : Int) : Prop := Int32.minValue.toInt ≤ i ∧ i ≤ Int32.maxValue.toInt

instance (i : Int) : Decidable (FitsSigned i) := inferInstanceAs (Decidable (_ ∧ _))

theorem fitsSigned_saturateSigned (i : Int) : FitsSigned (Accounts.saturateSigned i) := by
  unfold FitsSigned Accounts.saturateSigned
  have hle : Int32.minValue.toInt ≤ Int32.maxValue.toInt := by decide
  omega

theorem saturateSigned_of_fits {i : Int} (h : FitsSigned i) : Accounts.saturateSigned i = i := by
  unfold FitsSigned at h
  unfold Accounts.saturateSigned
  omega

namespace Ledger

theorem toIntLE_signedWord {i : Int} (h : FitsSigned i) :
    Bytes.toIntLE (signedWord i).reverse = i := by
  have hmin : Int32.minValue.toInt = -2147483648 := by decide
  have hmax : Int32.maxValue.toInt = 2147483647 := by decide
  have hspan : Bytes.span 4 = 4294967296 := by decide
  unfold FitsSigned at h
  rw [signedWord, List.reverse_reverse, Bytes.toIntLE_ofIntLE, hspan]
  exact Int.bmod_eq_of_le (by omega) (by omega)

theorem toNatBE_word {n : Nat} (h : n < UInt32.size) :
    Bytes.toNatBE (Bytes.ofNatBE 4 n) = n := by
  rw [Bytes.toNatBE_ofNatBE]
  exact Nat.mod_eq_of_lt h

/-- A word is found by its index. -/
theorem word_flatten {words : List Bytes} (hwords : ∀ x ∈ words, x.length = 4) {head : Bytes}
    (hhead : head.length = 4) (i : Nat) (hi : i < words.length) :
    word (head ++ words.flatten) i = words[i] := by
  unfold word
  rw [List.drop_append, List.drop_eq_nil_of_le (by omega), hhead, Nat.add_sub_cancel_left,
    List.nil_append]
  induction words generalizing i with
  | nil => cases hi
  | cons x rest ih =>
    have hx : x.length = 4 := hwords x List.mem_cons_self
    rw [List.flatten_cons]
    cases i with
    | zero => simp [hx]
    | succ i =>
      rw [List.drop_append, List.drop_eq_nil_of_le (by omega), List.nil_append, hx,
        show 4 * (i + 1) - 4 = 4 * i by omega, List.getElem_cons_succ]
      exact ih (fun y hy => hwords y (List.mem_cons_of_mem x hy)) i _

/-- The words of a ledger, after the magic word. -/
def words (l : Ledger) : List Bytes :=
  l.remaining.toList.map signedWord ++ l.used.toList.map signedWord
    ++ l.elapsed.toList.map (Bytes.ofNatBE 4)

theorem toBytes_eq (l : Ledger) : l.toBytes = Bytes.ofNatBE 4 magic ++ l.words.flatten := by
  simp [toBytes, words, List.flatMap_def]

theorem length_words (l : Ledger) : l.words.length = 3 * entityCount := by
  simp only [words, List.length_append, List.length_map, Vector.length_toList]
  omega

theorem length_of_mem_words {l : Ledger} {x : Bytes} (h : x ∈ l.words) : x.length = 4 := by
  simp only [words, List.mem_append, List.mem_map] at h
  rcases h with (⟨i, _, rfl⟩ | ⟨i, _, rfl⟩) | ⟨n, _, rfl⟩
  · simp [signedWord]
  · simp [signedWord]
  · simp

@[simp] theorem length_toBytes (l : Ledger) : l.toBytes.length = size := by
  have hwords : l.words.map List.length = List.replicate (3 * entityCount) 4 := by
    refine List.eq_replicate_iff.mpr ⟨by rw [List.length_map, length_words], fun n hn => ?_⟩
    obtain ⟨x, hx, rfl⟩ := List.mem_map.mp hn
    exact length_of_mem_words hx
  rw [toBytes_eq, List.length_append, List.length_flatten, hwords, List.sum_replicate,
    Bytes.length_ofNatBE, size, smul_eq_mul]
  omega

/-! ## Reading back -/

/-- The numbers of the ledger fit into its words. -/
structure Fits (l : Ledger) : Prop where
  remaining : ∀ i ∈ l.remaining.toList, FitsSigned i
  used : ∀ i ∈ l.used.toList, FitsSigned i
  elapsed : ∀ n ∈ l.elapsed.toList, n < UInt32.size

/-- What was written is read. -/
theorem parse_toBytes {l : Ledger} (h : l.Fits) : parse l.toBytes = .ok l := by
  have hmagic : Bytes.toNatBE (l.toBytes.take 4) = magic := by
    rw [toBytes_eq, List.take_left' (by simp)]
    exact toNatBE_word (by decide)
  have hword (i : Nat) (hi : i < l.words.length) : word l.toBytes i = l.words[i] := by
    rw [toBytes_eq]
    exact word_flatten (fun _ => length_of_mem_words) (by simp) i hi
  have hcount := l.length_words
  rw [parse, if_neg (by simp)]
  dsimp only
  rw [if_neg (by simpa using hmagic)]
  congr 1
  rcases l with ⟨remaining, used, elapsed⟩
  rw [mk.injEq]
  -- The three arrays follow one another, so each index falls into its own part of the words.
  refine ⟨Vector.ext fun i hi => ?_, Vector.ext fun i hi => ?_, Vector.ext fun i hi => ?_⟩
  · rw [Vector.getElem_ofFn, signed, hword i (by omega)]
    simp only [words]
    rw [List.getElem_append_left (by simp; omega), List.getElem_append_left (by simpa using hi),
      List.getElem_map, toIntLE_signedWord (h.remaining _ (List.getElem_mem _))]
    simp
  · rw [Vector.getElem_ofFn, signed, hword _ (by omega)]
    simp only [words]
    rw [List.getElem_append_left (by simp; omega), List.getElem_append_right (by simp),
      List.getElem_map, toIntLE_signedWord (h.used _ (List.getElem_mem _))]
    simp
  · rw [Vector.getElem_ofFn, hword _ (by omega)]
    simp only [words]
    rw [List.getElem_append_right (by simp; omega), List.getElem_map,
      toNatBE_word (h.elapsed _ (List.getElem_mem _))]
    simp [Nat.two_mul]

/-- Bytes that are too few, or that start with another word, are no ledger. -/
theorem exists_parse_error {bytes : Bytes}
    (h : bytes.length < size ∨ Bytes.toNatBE (bytes.take 4) ≠ magic) :
    ∃ error, parse bytes = .error error := by
  unfold parse
  split
  · exact ⟨_, rfl⟩
  · next hlong =>
    rw [if_pos (h.resolve_left hlong)]
    exact ⟨_, rfl⟩

end Ledger

/-- Data that is written at the start of a memory stands before the rest of it. -/
theorem extendMemory_zero (memory data : Bytes) :
    extendMemory memory 0 data = data ++ memory.drop data.length := by
  unfold extendMemory Bytes.overwrite
  dsimp only
  rw [Nat.zero_add, List.take_zero, List.nil_append, Nat.sub_zero, Nat.zero_add,
    List.take_of_length_le (by simp; omega), List.drop_append]
  congr 1
  by_cases hlong : data.length ≤ memory.length
  · simp [Nat.sub_eq_zero_of_le hlong]
  · simp

/-! ## Snapshots -/

namespace Accounts

/-- The numbers that a ledger keeps of the accounts fit into its words. -/
def Fits (a : Accounts) (now : Nat) : Prop :=
  ∀ x, FitsSigned (a.get x).remaining ∧ FitsSigned (a.get x).used
    ∧ (a.get x).age now < UInt32.size

theorem fits_snapshot (a : Accounts) (now : Nat) : (a.snapshot now).Fits := by
  refine ⟨fun i hi => ?_, fun i hi => ?_, fun n hn => ?_⟩
  · obtain ⟨x, _, rfl⟩ := List.mem_map.mp (Vector.toList_map ▸ hi)
    exact fitsSigned_saturateSigned _
  · obtain ⟨x, _, rfl⟩ := List.mem_map.mp (Vector.toList_map ▸ hi)
    exact fitsSigned_saturateSigned _
  · obtain ⟨x, _, rfl⟩ := List.mem_map.mp (Vector.toList_map ▸ hn)
    exact Nat.lt_of_le_of_lt (Nat.min_le_right _ _) (by decide)

/-- A snapshot of accounts that fit keeps them as they are. -/
theorem get_snapshot {a : Accounts} {now : Nat} (h : a.Fits now) (x : Entity) :
    (a.snapshot now).remaining.get x = (a.get x).remaining
      ∧ (a.snapshot now).used.get x = (a.get x).used
      ∧ (a.snapshot now).elapsed.get x = (a.get x).age now := by
  obtain ⟨hremaining, hused, hage⟩ := h x
  refine ⟨?_, ?_, ?_⟩
  · rw [snapshot, PerEntity.get, Vector.getElem_map]
    exact saturateSigned_of_fits hremaining
  · rw [snapshot, PerEntity.get, Vector.getElem_map]
    exact saturateSigned_of_fits hused
  · rw [snapshot, PerEntity.get, Vector.getElem_map]
    exact Nat.min_eq_left (Nat.le_pred_of_lt hage)

theorem get_restore (a : Accounts) (l : Ledger) (x : Entity) :
    (a.restore l).get x = { a.get x with
      remaining := l.remaining.get x, used := l.used.get x, elapsed := l.elapsed.get x } := by
  simp [restore, get, PerEntity.get]

/-- The accounts of a boot from a ledger have what it kept, and the time that it kept has passed. -/
theorem get_boot (settings : EnergySettings) (charge : Nat) (l : Ledger) (now : Nat) (x : Entity) :
    ((boot settings (some charge) (some l) now).get x).remaining = l.remaining.get x
      ∧ ((boot settings (some charge) (some l) now).get x).used = l.used.get x
      ∧ ((boot settings (some charge) (some l) now).get x).age now = l.elapsed.get x := by
  rw [boot, get_restore]
  refine ⟨rfl, rfl, ?_⟩
  simp [get, Account.age, millisBetween]

/-- A snapshot at the boot from a ledger is that ledger. -/
theorem snapshot_boot (settings : EnergySettings) (charge : Nat) {l : Ledger} (h : l.Fits)
    (now : Nat) : (boot settings (some charge) (some l) now).snapshot now = l := by
  rcases l with ⟨remaining, used, elapsed⟩
  rw [boot, snapshot, Ledger.mk.injEq]
  refine ⟨Vector.ext fun i hi => ?_, Vector.ext fun i hi => ?_, Vector.ext fun i hi => ?_⟩
  · rw [Vector.getElem_map, restore, Vector.getElem_ofFn]
    exact saturateSigned_of_fits (h.remaining _ (by simp))
  · rw [Vector.getElem_map, restore, Vector.getElem_ofFn]
    exact saturateSigned_of_fits (h.used _ (by simp))
  · -- At the instant of the boot no time has passed but what the ledger carries.
    have helapsed := h.elapsed elapsed[i] (by simp)
    rw [Vector.getElem_map, restore, Vector.getElem_ofFn]
    simp only [Account.age, millisBetween, PerEntity.constant, Fin.getElem_fin,
      Vector.getElem_replicate, Nat.sub_self, Nat.zero_div, Nat.add_zero]
    exact Nat.min_eq_left (Nat.le_pred_of_lt helapsed)

end Accounts

end ModuleBus
