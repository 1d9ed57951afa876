import Mathlib.Data.List.Forall2
import Mathlib.Logic.Relation

/-! # The supervision contract

The types through which the supervision code talks to the children it starts and runs:
Rust's `Poll` and `Result`, the time types, and the results of starting a child
(`StartResult`) and of running one (`ExitResult`), as `one_for_one.rs` matches on them.

The children themselves are type-erased in the sources (`DynSpec`, `DynStartFut`,
`DynSupervisee`, `BoxError`). The model keeps them as type parameters `Sp`, `Fut`, `Sv` and
`Er`, so that every result holds for every kind of child; what a child does when it is
polled is an answer of the environment (`Zestors/Supervision/OneForOne/Poll.lean`), never a
fixed behaviour.
-/

set_option autoImplicit false

namespace Zestors

/-- `std::task::Poll`. -/
inductive Poll (α : Type) where
  | ready (value : α)
  | pending
  deriving Repr, DecidableEq

/-- `std::result::Result`. -/
inductive Result (α ε : Type) where
  | ok (value : α)
  | err (error : ε)
  deriving Repr, DecidableEq

/-- `std::time::Duration`, in nanoseconds. -/
abbrev Duration := Nat

/-- `tokio::time::Instant`, in nanoseconds from a fixed origin. -/
abbrev Instant := Nat

/-- `Duration::MAX`: `u64::MAX` seconds and 999 999 999 nanoseconds. -/
def durationMax : Duration := 18446744073709551615 * 1000000000 + 999999999

/-- `Duration::from_millis`. -/
def Duration.fromMillis (ms : Nat) : Duration := ms * 1000000

/-- `Duration::saturating_add`: the sum, capped at `Duration::MAX`. -/
def Duration.saturatingAdd (a b : Duration) : Duration := min (a + b) durationMax

namespace Supervision

/-- `StartError<S>`: why starting the specification `S` gave no supervisee. -/
inductive StartError (S E : Type) where
  | completed
  | failed (spec : S)
  | irrecoverable (error : E)
  deriving Repr, DecidableEq

/-- `StartResult<S>`: the supervisee and its reference, or the `StartError`. -/
abbrev StartResult (S Sup R E : Type) := Result (Sup × R) (StartError S E)

/-- `ExitResult<S>`: the specification to restart with (`None` once the child is finished), or
the error it exited with. -/
abbrev ExitResult (S E : Type) := Result (Option S) E

/-- The `Specification` methods the one-for-one combinator calls on a child's `DynSpec`: its
`start_time` and `start`. -/
structure Specification (Sp Fut : Type) where
  startTime : Sp → Duration
  start : Sp → Fut

end Supervision

end Zestors
