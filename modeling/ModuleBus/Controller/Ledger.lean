import ModuleBus.Bytes
import ModuleBus.Slot

set_option autoImplicit false

/-! # The energy ledger in non-volatile memory

The controller keeps its accounts at the start of a memory that survives a loss of power: a magic
word, then what remains, what was used and the time since the last reset of every entity in ledger
order. All words have four bytes, most significant first. -/

namespace ModuleBus

/-- Why no ledger was read or written. -/
inductive LedgerError where
  /-- The memory holds fewer bytes than a ledger. -/
  | tooShort (length : Nat)
  /-- The memory does not start with the magic word. -/
  | badMagic (word : Nat)
  /-- The memory failed. -/
  | storage (text : String)
deriving DecidableEq

/-- The text of a ledger error. -/
def LedgerError.message : LedgerError → String
  | tooShort length => s!"ledger record of {length} bytes is too short"
  | badMagic word => "ledger magic 0x" ++ Bytes.hexText 8 word ++ " does not match"
  | storage text => "non-volatile storage failed: " ++ text

/-- The accounts as they are kept. -/
structure Ledger where
  remaining : PerEntity Int
  used : PerEntity Int
  /-- Milliseconds since the last reset. -/
  elapsed : PerEntity Nat
deriving DecidableEq

namespace Ledger

/-- The word that a ledger starts with. -/
def magic : Nat := 0x49C8000B

/-- Bytes of a ledger. -/
def size : Nat := 4 + 3 * (4 * entityCount)

/-- A signed word, most significant byte first. -/
def signedWord (i : Int) : Bytes := (Bytes.ofIntLE 4 i).reverse

/-- The bytes of a ledger. -/
def toBytes (l : Ledger) : Bytes :=
  Bytes.ofNatBE 4 magic ++ l.remaining.toList.flatMap signedWord ++ l.used.toList.flatMap signedWord
    ++ l.elapsed.toList.flatMap (Bytes.ofNatBE 4)

/-- The word with index `i` after the magic word. -/
def word (bytes : Bytes) (i : Nat) : Bytes := (bytes.drop (4 + 4 * i)).take 4

/-- The signed word with index `i`. -/
def signed (bytes : Bytes) (i : Nat) : Int := Bytes.toIntLE (word bytes i).reverse

/-- The ledger at the start of some bytes. -/
def parse (bytes : Bytes) : Except LedgerError Ledger :=
  if bytes.length < size then .error (.tooShort bytes.length)
  else
    let found := Bytes.toNatBE (bytes.take 4)
    if found ≠ magic then .error (.badMagic found)
    else .ok {
      remaining := Vector.ofFn fun i => signed bytes i.val
      used := Vector.ofFn fun i => signed bytes (entityCount + i.val)
      elapsed := Vector.ofFn fun i => Bytes.toNatBE (word bytes (2 * entityCount + i.val)) }

end Ledger

end ModuleBus
