import Zestors.Supervision.OneForOne.Limiter

/-! # Draining, and success in the fan-out phase

The draining pass clears `all_ready` for every slot that is not settled after it: a start
future still pending, a child that started during the drain, and a running child that has not
exited (`drainPass_allReady`). Every call that runs the draining pass, whether it began draining
or its fan-out pass escalated, therefore resolves to the verdict of `take_start_now` when no
slot is left starting or running, or else when it began draining and the shutdown timer has
fired, and stays pending otherwise (`drain_resolves`). A running child that does not exit holds
the start future until the timer fires.

In the fan-out phase `all_ready` is cleared only by a start future that is still pending, so
the start can succeed with slots whose child failed while the limiter allowed a restart; what
it never leaves is a slot still starting (`ok_no_startFut`).
-/

set_option autoImplicit false

namespace Zestors.OneForOne

open Supervision

variable {Sp Fut Sv Er L : Type}

/-- The draining pass leaves `all_ready` set exactly when every slot is settled after it. -/
theorem drainPass_allReady (env : PollEnv Sp Sv Er L) :
    ∀ (i : Nat) (items : List (OneForOneItem Sp Fut Sv Er)),
      (drainPass env i items).2 = (drainPass env i items).1.all (·.isSettled)
  | _, [] => rfl
  | i, item :: rest => by
    simp [drainPass, drainSlot_ready, drainPass_allReady env (i + 1) rest]

/-- **Every draining pass resolves once no child is starting or running, or once the timer
fires.** A call runs the draining pass when it begins draining or when its fan-out pass sets
`start_failure` (the limiter refused a restart, or the start timer fired); it leaves the pass
over the slots it then has. It returns the verdict of `take_start_now` on them if every slot is
settled (neither `StartFut` nor `Supervisee`), or else if it began draining and the shutdown
timer has fired, and `Pending` otherwise: the timer a call re-arms has not fired in that call. -/
theorem drain_resolves (env : PollEnv Sp Sv Er L) (s : OneForOneStartFut Sp Fut Sv Er L)
    (h : (poll env s).fut.startFailure = true) :
    let drained := if s.startFailure then s.inner.items
      else (fanOutPass env 0 s.inner.limiter s.inner.items).items
    (poll env s).fut.inner.items = (drainPass env 0 drained).1 ∧
      (poll env s).result =
        if (drainPass env 0 drained).1.all (·.isSettled) ||
            (s.startFailure && (timeLimitReached (env.timerFired .draining) s.timer).1)
        then .ready (takeStartNow (poll env s).fut.inner) else .pending := by
  intro drained
  cases hs : s.startFailure
  · -- the call escalates in its fan-out pass, or does not drain at all
    rcases poll_of_fanOut env hs with ⟨hp, -⟩ | ⟨-, -, hp⟩ | ⟨-, -, -, hp⟩ <;> rw [hp] at h ⊢
    · simp only [drained, hs, drainNow, drainBranch_fut, drainBranch_result, drainPass_freshTimer,
        drainPass_allReady, PollEnv.freshTimer_timerFired, timeLimitReached, Bool.false_eq_true,
        ite_false, Bool.false_and, Bool.or_false, and_self]
    all_goals simp [hs] at h
  · -- the call begins draining
    rw [poll_of_draining env hs]
    simp only [drained, hs, if_true, Bool.true_and, drainBranch_fut, drainBranch_result,
      drainPass_allReady, and_self]

/-- Nothing answers: every child stays pending, the limiter allows restarts, and no timer fires. -/
def quietEnv : PollEnv Nat Nat Nat Unit where
  startPoll := fun _ _ => .pending
  exitPoll := fun _ => .pending
  withinLimit := fun _ l => (true, l)
  timerFired := fun _ => false

/-- The first child fails and the limiter refuses its restart, so the second child is polled
only by the drain, where it starts and then keeps running; no timer fires. -/
def drainEnv : PollEnv Nat Nat Nat Unit where
  startPoll := fun _ i => if i = 0 then .ready (.err (.failed 9)) else .ready (.ok (i, ()))
  exitPoll := fun _ => .pending
  withinLimit := fun _ l => (false, l)
  timerFired := fun _ => false

theorem drain_resolves_escalating_call :
    let s : OneForOneStartFut Nat Nat Nat Nat Unit := ⟨⟨[.startFut 0, .startFut 1], ()⟩, some 5, 5, false⟩
    (poll drainEnv s).fut.startFailure = true ∧
      let drained := if s.startFailure then s.inner.items
        else (fanOutPass drainEnv 0 s.inner.limiter s.inner.items).items
      (poll drainEnv s).fut.inner.items = (drainPass drainEnv 0 drained).1 ∧
        (poll drainEnv s).result =
          if (drainPass drainEnv 0 drained).1.all (·.isSettled) ||
              (s.startFailure && (timeLimitReached (drainEnv.timerFired .draining) s.timer).1)
          then .ready (takeStartNow (poll drainEnv s).fut.inner) else .pending :=
  ⟨by decide, drain_resolves drainEnv _ (by decide)⟩

/-- Two calls from the start of two specifications. The first escalates, and its drain starts
the second child; the second call begins draining. Both leave the future draining with no slot
starting, and both return `Pending`, held by the running child. -/
theorem drain_pending_with_running_child :
    ((OneForOneSpec.mk [.spec 0, .spec 1] () : OneForOneSpec Nat Nat Nat Nat Unit).start
        ⟨fun _ => 0, id⟩).map
      (fun fut => ((run [drainEnv] fut).fut.startFailure, (run [drainEnv] fut).fut.inner.items,
        (run [drainEnv] fut).result)) =
      some (true, [.spec 9, .supervisee 1 none], .pending) ∧
    ((OneForOneSpec.mk [.spec 0, .spec 1] () : OneForOneSpec Nat Nat Nat Nat Unit).start
        ⟨fun _ => 0, id⟩).map
      (fun fut => ((run [drainEnv, drainEnv] fut).fut.inner.items, (run [drainEnv, drainEnv] fut).result)) =
      some ([.spec 9, .supervisee 1 none], .pending) :=
  ⟨by decide, by decide⟩

/-! ## Success in the fan-out phase -/

theorem fanOutPass_allReady (env : PollEnv Sp Sv Er L) :
    ∀ (i : Nat) (limiter : L) (items : List (OneForOneItem Sp Fut Sv Er)),
      (fanOutPass env i limiter items).startFailure = false →
        (fanOutPass env i limiter items).allReady = (fanOutPass env i limiter items).items.all (!·.isStartFut)
  | _, _, [], _ => rfl
  | i, limiter, item :: rest, h => by
    simp only [fanOutPass] at h ⊢
    by_cases hf : (fanOutSlot env i item).2.2
    · by_cases ha : (env.withinLimit i limiter).1
      · simp only [hf, ha, if_true] at h ⊢
        simp [fanOutSlot_ready, fanOutPass_allReady env (i + 1) _ rest h]
      · simp [hf, ha] at h
    · simp only [hf, Bool.false_eq_true, if_false] at h ⊢
      simp [fanOutSlot_ready, fanOutPass_allReady env (i + 1) limiter rest h]

/-- A successful verdict of `take_start_now` runs the whole group, with no slot starting. -/
theorem takeStartNow_ok {inner : OneForOneSpec Sp Fut Sv Er L} {sup : OneForOneSupervisee Sp Fut Sv Er L}
    (h : takeStartNow inner = .ok (sup, ())) :
    sup = OneForOneSupervisee.new inner ∧ ∀ item ∈ inner.items, item.isStartFut = false := by
  rw [takeStartNow_eq] at h
  split at h
  · cases h
  · cases h
    refine ⟨rfl, fun item hi => ?_⟩
    have : item.blocksStart = false := by simp_all
    cases item <;> simp_all [OneForOneItem.blocksStart, OneForOneItem.isStartFut]

/-- **A successful start leaves no slot starting.** When `poll` returns `Ready(Ok(supervisee))`,
from the fan-out branch or after a drain, the supervisee holds a group in which every slot is
`Supervisee`, `Completed`, `Spec` or `Irrecoverable`. -/
theorem ok_no_startFut (env : PollEnv Sp Sv Er L) (s : OneForOneStartFut Sp Fut Sv Er L)
    {sup : OneForOneSupervisee Sp Fut Sv Er L} (h : (poll env s).result = .ready (.ok (sup, ()))) :
    ∃ spec, sup = OneForOneSupervisee.new spec ∧ ∀ item ∈ spec.items, item.isStartFut = false := by
  cases hs : s.startFailure
  · rcases poll_of_fanOut env hs with ⟨hp, -⟩ | ⟨hf, ha, hp⟩ | ⟨-, -, -, hp⟩ <;> rw [hp] at h
    · exact ⟨_, takeStartNow_ok ((drainNow_drained env _ _).2 _ h).symm⟩
    · cases h
      refine ⟨_, rfl, fun item hi => ?_⟩
      rw [fanOutPass_allReady env 0 _ _ hf, List.all_eq_true] at ha
      simpa using ha item hi
    · cases h
  · exact ⟨_, takeStartNow_ok ((poll_drained_of_draining env hs).2 _ h).symm⟩

/-- The first child fails while the limiter allows its restart, the second starts. -/
def retryEnv : PollEnv Nat Nat Nat Unit where
  startPoll := fun _ i => if i = 0 then .ready (.err (.failed 7)) else .ready (.ok (i, ()))
  exitPoll := fun _ => .pending
  withinLimit := fun _ l => (true, l)
  timerFired := fun _ => false

theorem ok_no_startFut_failed_child :
    let fut : OneForOneStartFut Nat Nat Nat Nat Unit := ⟨⟨[.startFut 0, .startFut 1], ()⟩, some 5, 5, false⟩
    let sup := OneForOneSupervisee.new (⟨[.spec 7, .supervisee 1 none], ()⟩ : OneForOneSpec Nat Nat Nat Nat Unit)
    (poll retryEnv fut).result = .ready (.ok (sup, ())) ∧
      ∃ spec, sup = OneForOneSupervisee.new spec ∧ ∀ item ∈ spec.items, item.isStartFut = false :=
  have h : (poll retryEnv (⟨⟨[.startFut 0, .startFut 1], ()⟩, some 5, 5, false⟩ :
      OneForOneStartFut Nat Nat Nat Nat Unit)).result =
      .ready (.ok (OneForOneSupervisee.new ⟨[.spec 7, .supervisee 1 none], ()⟩, ())) := by decide
  ⟨h, ok_no_startFut _ _ h⟩

/-- From the start of two specifications, the first call succeeds from the fan-out branch,
still in the fan-out phase, with the failed child's slot left as a specification. -/
theorem fanOut_ok_with_failed_child :
    ((OneForOneSpec.mk [.spec 0, .spec 1] () : OneForOneSpec Nat Nat Nat Nat Unit).start
        ⟨fun _ => 0, id⟩).map
      (fun fut => ((poll retryEnv fut).fut.startFailure, (poll retryEnv fut).result)) =
      some (false, .ready (.ok (OneForOneSupervisee.new ⟨[.spec 7, .supervisee 1 none], ()⟩, ()))) := by
  decide

end Zestors.OneForOne
