import Mathlib

/-!
# Octets and error codes

The two notions that every protocol layer of the gateway shares: a message is a string of octets,
and a function that refuses one returns a negative `errno`.
-/

namespace OsmoSgsn

/-- A string of octets. -/
abbrev Bytes := List UInt8

/-- The error codes that the modelled functions return, each negated in the source. -/
inductive Errno
  | eio | einval | enomsg | efbig | enoent | eacces | enomem | enotsup | eproto | eagain
  | ealready
  deriving DecidableEq, Repr

/-- Octet `i` of a message. Reading past the end is not modelled as a fault here; the functions
below check the length before they rely on an octet. -/
def octet (msg : Bytes) (i : ℕ) : UInt8 := msg.getD i 0

@[simp] theorem octet_cons_zero (b : UInt8) (msg : Bytes) : octet (b :: msg) 0 = b := rfl

@[simp] theorem octet_cons_succ (b : UInt8) (msg : Bytes) (i : ℕ) :
    octet (b :: msg) (i + 1) = octet msg i := rfl

end OsmoSgsn
