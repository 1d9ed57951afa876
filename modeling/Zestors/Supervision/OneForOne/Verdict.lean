import Zestors.Supervision.OneForOne.Spec

/-! # The supervisee of a group, and the verdict of a drained start

`OneForOneSupervisee` is what a successful start of a `OneForOneSpec` gives: the same slots,
now mostly running. Its `halt` and `abort` pass the signal on to every running slot, in slot
order, and to no other.

`take_start_now` gives the verdict of a start that went into the draining phase. It folds
three flags `(ok, irrecoverable, completed)` over the slots. The fold keeps
`ok = false → irrecoverable = true`, so only its first two branches can be taken: the verdict
is a running supervisee when no slot is still starting or failed for good, and the whole group
as an irrecoverable error otherwise (`takeStartNow_verdict`).
-/

set_option autoImplicit false

namespace Zestors.OneForOne

open Supervision

variable {Sp Fut Sv Er L : Type}

namespace OneForOneItem

/-- The slot is still starting (`StartFut`) or failed for good (`Irrecoverable`): the slots
that clear `ok` in `take_start_now`. -/
def blocksStart : OneForOneItem Sp Fut Sv Er → Bool
  | .startFut _ | .irrecoverable _ => true
  | _ => false

/-- The slot holds a running child (`OneForOneItem::Supervisee`). -/
def isSupervisee : OneForOneItem Sp Fut Sv Er → Bool
  | .supervisee _ _ => true
  | _ => false

end OneForOneItem

/-- `OneForOneError(&'static str, OneForOneSpec)`: a message and the whole group. -/
structure OneForOneError (Sp Fut Sv Er L : Type) where
  msg : String
  spec : OneForOneSpec Sp Fut Sv Er L
  deriving Repr, DecidableEq

/-- `OneForOneSupervisee`: the group while it runs. `inner` is `Some` from `new` on. -/
structure OneForOneSupervisee (Sp Fut Sv Er L : Type) where
  inner : Option (OneForOneSpec Sp Fut Sv Er L)
  halted : Bool
  aborted : Bool
  deriving Repr, DecidableEq

/-- The two signals a supervisee passes on to its children. -/
inductive Signal where
  | halt
  | abort
  deriving Repr, DecidableEq

namespace OneForOneSupervisee

/-- `OneForOneSupervisee::new`. -/
def new (inner : OneForOneSpec Sp Fut Sv Er L) : OneForOneSupervisee Sp Fut Sv Er L :=
  ⟨some inner, false, false⟩

/-- The loop shared by `halt` and `abort`: the signal goes to every `Supervisee` slot, in slot
order (`i` is the index of the first slot of the list). The list gives the calls of
`Supervisee::halt` or `Supervisee::abort` on the children, by slot. -/
def signalAll (sig : Signal) (i : Nat) : List (OneForOneItem Sp Fut Sv Er) → List (Signal × Nat)
  | [] => []
  | .supervisee _ _ :: rest => (sig, i) :: signalAll sig (i + 1) rest
  | _ :: rest => signalAll sig (i + 1) rest

/-- `Supervisee::halt`: set `halted`, then halt every running slot. `none` is the panic of
`inner.as_mut().unwrap()`. -/
def halt (s : OneForOneSupervisee Sp Fut Sv Er L) :
    Option (OneForOneSupervisee Sp Fut Sv Er L × List (Signal × Nat)) :=
  s.inner.map fun inner => ({ s with halted := true }, signalAll .halt 0 inner.items)

/-- `Supervisee::abort`: set `aborted`, then abort every running slot. -/
def abort (s : OneForOneSupervisee Sp Fut Sv Er L) :
    Option (OneForOneSupervisee Sp Fut Sv Er L × List (Signal × Nat)) :=
  s.inner.map fun inner => ({ s with aborted := true }, signalAll .abort 0 inner.items)

end OneForOneSupervisee

/-- The indices of the running slots, in increasing order. -/
def superviseeSlots (items : List (OneForOneItem Sp Fut Sv Er)) : List Nat :=
  (List.range items.length).filter fun i => (items[i]?.map (·.isSupervisee)).getD false

theorem superviseeSlots_cons (item : OneForOneItem Sp Fut Sv Er) (items : List (OneForOneItem Sp Fut Sv Er)) :
    superviseeSlots (item :: items) =
      (if item.isSupervisee then [0] else []) ++ (superviseeSlots items).map (· + 1) := by
  simp only [superviseeSlots, List.length_cons, List.range_succ_eq_map, List.filter_cons,
    List.filter_map, Function.comp_def, List.getElem?_cons_succ, List.getElem?_cons_zero,
    Option.map_some', Option.getD_some]
  split <;> simp

theorem signalAll_eq (sig : Signal) :
    ∀ (i : Nat) (items : List (OneForOneItem Sp Fut Sv Er)),
      OneForOneSupervisee.signalAll sig i items = (superviseeSlots items).map fun j => (sig, i + j)
  | _, [] => rfl
  | i, item :: rest => by
    have ih := signalAll_eq sig (i + 1) rest
    cases item <;>
      simp [OneForOneSupervisee.signalAll, superviseeSlots_cons, ih, OneForOneItem.isSupervisee,
        Function.comp_def, Nat.add_assoc, Nat.add_comm 1]

/-- **`halt` and `abort` reach each running child once, in slot order, and nothing else.** On
a supervisee whose `inner` is set, as `new` sets it, neither panics; each sets its own flag,
leaves the slots as they are, and signals exactly the `Supervisee` slots, in increasing
order. -/
theorem halt_abort_signal_running (spec : OneForOneSpec Sp Fut Sv Er L) (halted aborted : Bool) :
    (OneForOneSupervisee.mk (some spec) halted aborted).halt =
        some (⟨some spec, true, aborted⟩, (superviseeSlots spec.items).map (.halt, ·)) ∧
      (OneForOneSupervisee.mk (some spec) halted aborted).abort =
        some (⟨some spec, halted, true⟩, (superviseeSlots spec.items).map (.abort, ·)) := by
  simp [OneForOneSupervisee.halt, OneForOneSupervisee.abort, signalAll_eq]

/-! ## `take_start_now` -/

/-- One turn of the loop of `take_start_now` on the flags `(ok, irrecoverable, completed)`. -/
def verdictStep : Bool × Bool × Bool → OneForOneItem Sp Fut Sv Er → Bool × Bool × Bool
  | (_, _, c), .startFut _ => (false, true, c)
  | (o, _, c), .supervisee _ _ => (o, true, c)
  | (_, _, c), .irrecoverable _ => (false, true, c)
  | (o, i, _), .spec _ => (o, i, false)
  | f, .completed => f

/-- `OneForOneStartFut::take_start_now`, on the group it takes out of the future. -/
def takeStartNow (inner : OneForOneSpec Sp Fut Sv Er L) :
    StartResult (OneForOneSpec Sp Fut Sv Er L) (OneForOneSupervisee Sp Fut Sv Er L) Unit
      (OneForOneError Sp Fut Sv Er L) :=
  let (ok, irrecoverable, completed) := inner.items.foldl verdictStep (true, false, true)
  if ok then .ok (OneForOneSupervisee.new inner, ())
  else if irrecoverable then .err (.irrecoverable ⟨"Error: ", inner⟩)
  else if completed then .err .completed
  else .err (.failed ⟨inner.items.filter (·.isSpec), inner.limiter⟩)

/-- The fold of `take_start_now` keeps `ok` set exactly while no slot blocks the start. -/
theorem foldl_verdictStep_ok :
    ∀ (items : List (OneForOneItem Sp Fut Sv Er)) (f : Bool × Bool × Bool),
      (items.foldl verdictStep f).1 = (f.1 && !items.any (·.blocksStart))
  | [], f => by simp
  | item :: rest, (o, i, c) => by
    rw [List.foldl_cons, foldl_verdictStep_ok rest]
    cases item <;> simp [verdictStep, OneForOneItem.blocksStart]

/-- The fold of `take_start_now` sets `irrecoverable` whenever it clears `ok`. -/
theorem foldl_verdictStep_inv :
    ∀ (items : List (OneForOneItem Sp Fut Sv Er)) (f : Bool × Bool × Bool), (f.1 || f.2.1) = true →
      ((items.foldl verdictStep f).1 || (items.foldl verdictStep f).2.1) = true
  | [], _, h => h
  | item :: rest, (o, i, c), h =>
    foldl_verdictStep_inv rest _ (by cases item <;> simp_all [verdictStep])

/-- `take_start_now` in closed form: the irrecoverable error when a slot blocks the start,
the running supervisee otherwise. -/
theorem takeStartNow_eq (inner : OneForOneSpec Sp Fut Sv Er L) :
    takeStartNow inner =
      if inner.items.any (·.blocksStart) then .err (.irrecoverable ⟨"Error: ", inner⟩)
      else .ok (OneForOneSupervisee.new inner, ()) := by
  have hok := foldl_verdictStep_ok inner.items (true, false, true)
  have hinv := foldl_verdictStep_inv inner.items (true, false, true) rfl
  unfold takeStartNow
  generalize inner.items.foldl verdictStep (true, false, true) = f at hok hinv ⊢
  obtain ⟨o, i, c⟩ := f
  cases hb : inner.items.any (·.blocksStart) <;> simp only [hb] at hok <;> subst hok
  · rfl
  · simp only [Bool.not_true, Bool.and_false, Bool.false_or] at hinv
    simp [hinv]

theorem takeStartNow_ne_completed (inner : OneForOneSpec Sp Fut Sv Er L) :
    takeStartNow inner ≠ .err .completed := by
  rw [takeStartNow_eq]; split <;> simp

theorem takeStartNow_ne_failed (inner : OneForOneSpec Sp Fut Sv Er L)
    (s : OneForOneSpec Sp Fut Sv Er L) : takeStartNow inner ≠ .err (.failed s) := by
  rw [takeStartNow_eq]; split <;> simp

/-- **The draining verdict depends only on starting and failed slots.** `take_start_now`
gives the running supervisee over exactly the group it holds when no slot is `StartFut` or
`Irrecoverable`, and otherwise the irrecoverable error carrying the whole group unchanged; its
`Completed` and `Failed` branches cannot be taken, whatever the slots. -/
theorem takeStartNow_verdict (inner : OneForOneSpec Sp Fut Sv Er L) :
    takeStartNow inner =
        (if inner.items.any (·.blocksStart) then .err (.irrecoverable ⟨"Error: ", inner⟩)
        else .ok (OneForOneSupervisee.new inner, ())) ∧
      takeStartNow inner ≠ .err .completed ∧
      ∀ s, takeStartNow inner ≠ .err (.failed s) :=
  ⟨takeStartNow_eq inner, takeStartNow_ne_completed inner, takeStartNow_ne_failed inner⟩

end Zestors.OneForOne
