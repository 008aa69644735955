/-
  SplitFlap.Lib.KeptCount — a small count in memory that a reset keeps.

  The memory holds anything after a power-on, so the count travels with a magic and its
  own complement.  What was written is read back; anything else reads as zero.
-/
import Mathlib.Data.Nat.Basic

namespace SplitFlap

structure KeptCount where
  magic : UInt32
  count : UInt8
  check : UInt8
  deriving DecidableEq

namespace KeptCount

def encode (magic : UInt32) (count : UInt8) : KeptCount where
  magic := magic
  count := count
  check := ~~~count

def decode (magic : UInt32) (r : KeptCount) : UInt8 :=
  if r.magic ≠ magic then 0
  else if r.check ≠ ~~~r.count then 0
  else r.count

@[simp] theorem decode_encode (magic : UInt32) (count : UInt8) :
    decode magic (encode magic count) = count := by
  unfold decode encode
  rw [if_neg (not_not.mpr rfl), if_neg (not_not.mpr rfl)]

end KeptCount

end SplitFlap
