import Zestors.Supervision.OneForOne.Start

/-! # Polling the start future

`OneForOneStartFut::poll`. All that the future learns from outside in one call comes from the
environment of the call (`PollEnv`): what a child's start future or supervisee answers when it
is polled, what `RestartLimiter::within_limit` answers, and whether the timer has fired. A query
is named by the phase it is made in and the slot it is about; no call makes the same query
twice, so a `PollEnv` is any behaviour of the children, the limiter and the clock during one
call, and a list of them (`run`) any behaviour over a whole run.

A call makes the fan-out pass over the slots (`fanOutPass`) unless the future is already
draining. When the limiter refuses a restart or the timer fires, the future moves to the
draining phase and, within the same call, makes the draining pass (`drainPass`): the
`'outer` loop of the sources runs at most twice.
-/

set_option autoImplicit false

namespace Zestors.OneForOne

open Supervision

variable {Sp Fut Sv Er L : Type}

/-- The two phases of `OneForOneStartFut::poll`: `start_failure` unset and set. -/
inductive Phase where
  | fanOut
  | draining
  deriving Repr, DecidableEq

/-- The environment of one call of `OneForOneStartFut::poll`. -/
structure PollEnv (Sp Sv Er L : Type) where
  /-- What the start future of a slot answers when polled in a phase. The reference a child
  returns is dropped by the sources (`Ok((supervisee, _))`) and left out. -/
  startPoll : Phase → Nat → Poll (StartResult Sp Sv Unit Er)
  /-- What the supervisee of a slot answers when polled while draining. -/
  exitPoll : Nat → Poll (ExitResult Sp Er)
  /-- `within_limit` called for a slot: its answer, and the limiter after the call. -/
  withinLimit : Nat → L → Bool × L
  /-- Whether the timer has fired when it is polled after the pass of a phase. This is the
  timer as the call found it; one the call re-arms itself is a fresh `sleep`, which is not ready
  at its first poll (`PollEnv.freshTimer`). -/
  timerFired : Phase → Bool

/-- The environment of the draining pass of a call that has just re-armed the timer with
`sleep(shutdown_time)`: the children and the limiter answer as before, and the fresh timer has
not fired. -/
def PollEnv.freshTimer {Sp Sv Er L : Type} (env : PollEnv Sp Sv Er L) : PollEnv Sp Sv Er L :=
  { env with timerFired := fun _ => false }

/-! ## The fan-out pass -/

/-- The fan-out loop on one slot: the new slot, whether it is no longer pending, and whether it
failed (the cases that call `within_limit`). Only `StartFut` slots are polled. -/
def fanOutSlot (env : PollEnv Sp Sv Er L) (i : Nat) :
    OneForOneItem Sp Fut Sv Er → OneForOneItem Sp Fut Sv Er × Bool × Bool
  | .startFut f =>
    match env.startPoll .fanOut i with
    | .pending => (.startFut f, false, false)
    | .ready (.ok (sv, _)) => (.supervisee sv none, true, false)
    | .ready (.err .completed) => (.completed, true, false)
    | .ready (.err (.failed sp)) => (.spec sp, true, true)
    | .ready (.err (.irrecoverable e)) => (.irrecoverable e, true, true)
  | item => (item, true, false)

/-- The state of the fan-out loop once it is left: the slots, `all_ready`, the limiter,
`start_failure`, and the calls of `within_limit`, in order, each with the slot it was made for
and its answer. -/
structure FanOut (Sp Fut Sv Er L : Type) where
  items : List (OneForOneItem Sp Fut Sv Er)
  allReady : Bool
  limiter : L
  startFailure : Bool
  calls : List (Nat × Bool)

/-- The `'inner` loop of the fan-out branch, from slot `i` on. A failed slot calls
`within_limit`; a `false` answer sets `start_failure` and breaks out, leaving the later slots
unpolled. -/
def fanOutPass (env : PollEnv Sp Sv Er L) (i : Nat) (limiter : L) :
    List (OneForOneItem Sp Fut Sv Er) → FanOut Sp Fut Sv Er L
  | [] => ⟨[], true, limiter, false, []⟩
  | item :: rest =>
    let slot := fanOutSlot env i item
    if slot.2.2 then
      let answer := env.withinLimit i limiter
      if answer.1 then
        let r := fanOutPass env (i + 1) answer.2 rest
        { r with items := slot.1 :: r.items, allReady := slot.2.1 && r.allReady,
                 calls := (i, true) :: r.calls }
      else ⟨slot.1 :: rest, slot.2.1, answer.2, true, [(i, false)]⟩
    else
      let r := fanOutPass env (i + 1) limiter rest
      { r with items := slot.1 :: r.items, allReady := slot.2.1 && r.allReady }

/-! ## The draining pass -/

/-- The draining loop on one slot: the new slot, and whether it leaves `all_ready` set. A child
that starts now is running, which clears `all_ready` as a pending one does. -/
def drainSlot (env : PollEnv Sp Sv Er L) (i : Nat) :
    OneForOneItem Sp Fut Sv Er → OneForOneItem Sp Fut Sv Er × Bool
  | .startFut f =>
    match env.startPoll .draining i with
    | .pending => (.startFut f, false)
    | .ready (.ok (sv, _)) => (.supervisee sv none, false)
    | .ready (.err .completed) => (.completed, true)
    | .ready (.err (.failed sp)) => (.spec sp, true)
    | .ready (.err (.irrecoverable e)) => (.irrecoverable e, true)
  | .supervisee sv d =>
    match env.exitPoll i with
    | .pending => (.supervisee sv d, false)
    | .ready (.ok (some sp)) => (.spec sp, true)
    | .ready (.ok none) => (.completed, true)
    | .ready (.err e) => (.irrecoverable e, true)
  | item => (item, true)

/-- The `'inner` loop of the draining branch, from slot `i` on: the slots and `all_ready`. -/
def drainPass (env : PollEnv Sp Sv Er L) (i : Nat) :
    List (OneForOneItem Sp Fut Sv Er) → List (OneForOneItem Sp Fut Sv Er) × Bool
  | [] => ([], true)
  | item :: rest =>
    let r := drainPass env (i + 1) rest
    ((drainSlot env i item).1 :: r.1, (drainSlot env i item).2 && r.2)

@[simp] theorem PollEnv.freshTimer_timerFired (env : PollEnv Sp Sv Er L) (ph : Phase) :
    env.freshTimer.timerFired ph = false :=
  rfl

/-- The draining pass does not poll the timer. -/
@[simp] theorem drainPass_freshTimer (env : PollEnv Sp Sv Er L) :
    ∀ (i : Nat) (items : List (OneForOneItem Sp Fut Sv Er)),
      drainPass env.freshTimer i items = drainPass env i items
  | _, [] => rfl
  | i, item :: rest => by
    have hslot : drainSlot env.freshTimer i item = drainSlot env i item := by cases item <;> rfl
    simp only [drainPass, hslot, drainPass_freshTimer env (i + 1) rest]

/-! ## One call -/

/-- `OneForOneStartFut::time_limit_reached`, given whether the timer has fired: a fired timer
is dropped, and a dropped one counts as fired. -/
def timeLimitReached (fired : Bool) : Option Duration → Bool × Option Duration
  | some d => if fired then (true, none) else (false, some d)
  | none => (true, none)

/-- What `OneForOneStartFut::poll` resolves to. -/
abbrev Output (Sp Fut Sv Er L : Type) :=
  StartResult (OneForOneSpec Sp Fut Sv Er L) (OneForOneSupervisee Sp Fut Sv Er L) Unit
    (OneForOneError Sp Fut Sv Er L)

instance [DecidableEq Sp] [DecidableEq Fut] [DecidableEq Sv] [DecidableEq Er] [DecidableEq L] :
    DecidableEq (Output Sp Fut Sv Er L) :=
  inferInstanceAs (DecidableEq (Result _ _))

/-- The draining branch of `OneForOneStartFut::poll`: the pass, then the verdict of
`take_start_now` if every slot settled (`all_ready`) or else if the timer has fired. -/
def drainBranch (env : PollEnv Sp Sv Er L) (s : OneForOneStartFut Sp Fut Sv Er L) :
    Poll (Output Sp Fut Sv Er L) × OneForOneStartFut Sp Fut Sv Er L :=
  let d := drainPass env 0 s.inner.items
  let inner := { s.inner with items := d.1 }
  if d.2 then (.ready (takeStartNow inner), { s with inner })
  else
    let t := timeLimitReached (env.timerFired .draining) s.timer
    (if t.1 then .ready (takeStartNow inner) else .pending, { s with inner, timer := t.2 })

/-- One call of `OneForOneStartFut::poll`: what it returns, the future after the call, and the
calls of `within_limit` it made, each with its slot and its answer. -/
structure Polled (Sp Fut Sv Er L : Type) where
  result : Poll (Output Sp Fut Sv Er L)
  fut : OneForOneStartFut Sp Fut Sv Er L
  calls : List (Nat × Bool)

/-- Enter the draining phase with the timer re-armed for the shutdown, and drain in the same
call, in which the fresh timer has not fired. -/
def drainNow (env : PollEnv Sp Sv Er L) (s : OneForOneStartFut Sp Fut Sv Er L) (calls : List (Nat × Bool)) :
    Polled Sp Fut Sv Er L :=
  let r := drainBranch env.freshTimer { s with timer := some s.shutdownTime, startFailure := true }
  ⟨r.1, r.2, calls⟩

/-- `OneForOneStartFut::poll`. -/
def poll (env : PollEnv Sp Sv Er L) (s : OneForOneStartFut Sp Fut Sv Er L) : Polled Sp Fut Sv Er L :=
  if s.startFailure then
    let r := drainBranch env s
    ⟨r.1, r.2, []⟩
  else
    let f := fanOutPass env 0 s.inner.limiter s.inner.items
    let s := { s with inner := ⟨f.items, f.limiter⟩ }
    if f.startFailure then drainNow env s f.calls
    else if f.allReady then ⟨.ready (.ok (OneForOneSupervisee.new s.inner, ())), s, f.calls⟩
    else
      let t := timeLimitReached (env.timerFired .fanOut) s.timer
      if t.1 then drainNow env s f.calls else ⟨.pending, { s with timer := t.2 }, f.calls⟩

/-- A run: `poll` once per environment, until the future resolves. The result is the last
call's, and the limiter calls of all the calls are joined in order. -/
def run : List (PollEnv Sp Sv Er L) → OneForOneStartFut Sp Fut Sv Er L → Polled Sp Fut Sv Er L
  | [], s => ⟨.pending, s, []⟩
  | env :: envs, s =>
    let p := poll env s
    match p.result with
    | .ready _ => p
    | .pending =>
      let q := run envs p.fut
      { q with calls := p.calls ++ q.calls }

/-! ## What one slot does -/

namespace OneForOneItem

/-- The slot holds a failed child: a specification to restart, or an irrecoverable error. -/
def isFailure : OneForOneItem Sp Fut Sv Er → Bool
  | .spec _ | .irrecoverable _ => true
  | _ => false

/-- The slot does not hold up a drain: it is neither starting nor running. -/
def isSettled : OneForOneItem Sp Fut Sv Er → Bool
  | .startFut _ | .supervisee _ _ => false
  | _ => true

end OneForOneItem

/-- A slot leaves `all_ready` set in the fan-out pass exactly when it is no longer a start
future. -/
theorem fanOutSlot_ready (env : PollEnv Sp Sv Er L) (i : Nat) (item : OneForOneItem Sp Fut Sv Er) :
    (fanOutSlot env i item).2.1 = !(fanOutSlot env i item).1.isStartFut := by
  cases item <;> simp only [fanOutSlot] <;> try split
  all_goals rfl

/-- The fan-out pass calls `within_limit` for a slot exactly when it moves from a start future
to a failure. -/
theorem fanOutSlot_failed (env : PollEnv Sp Sv Er L) (i : Nat) (item : OneForOneItem Sp Fut Sv Er) :
    (fanOutSlot env i item).2.2 = (item.isStartFut && (fanOutSlot env i item).1.isFailure) := by
  cases item <;> simp only [fanOutSlot] <;> try split
  all_goals rfl

/-- A slot leaves `all_ready` set in the draining pass exactly when it is settled after it. -/
theorem drainSlot_ready (env : PollEnv Sp Sv Er L) (i : Nat) (item : OneForOneItem Sp Fut Sv Er) :
    (drainSlot env i item).2 = (drainSlot env i item).1.isSettled := by
  cases item <;> simp only [drainSlot] <;> try split
  all_goals rfl

/-! ## What one call does

`poll` is cited through the two lemmas below and never unfolded again: a draining future
makes the draining branch alone (`poll_of_draining`); a future in the fan-out phase makes the
fan-out pass and then drains in the same call, resolves, or stays pending
(`poll_of_fanOut`). -/

theorem drainBranch_fut (env : PollEnv Sp Sv Er L) (s : OneForOneStartFut Sp Fut Sv Er L) :
    (drainBranch env s).2 =
      { s with inner.items := (drainPass env 0 s.inner.items).1,
               timer := if (drainPass env 0 s.inner.items).2 then s.timer
                 else (timeLimitReached (env.timerFired .draining) s.timer).2 } := by
  simp only [drainBranch]
  cases (drainPass env 0 s.inner.items).2 <;> rfl

theorem drainBranch_result (env : PollEnv Sp Sv Er L) (s : OneForOneStartFut Sp Fut Sv Er L) :
    (drainBranch env s).1 =
      if (drainPass env 0 s.inner.items).2 || (timeLimitReached (env.timerFired .draining) s.timer).1
      then .ready (takeStartNow { s.inner with items := (drainPass env 0 s.inner.items).1 })
      else .pending := by
  simp only [drainBranch]
  cases (drainPass env 0 s.inner.items).2 <;> rfl

theorem poll_of_draining (env : PollEnv Sp Sv Er L) {s : OneForOneStartFut Sp Fut Sv Er L}
    (h : s.startFailure = true) : poll env s = ⟨(drainBranch env s).1, (drainBranch env s).2, []⟩ := by
  simp [poll, h]

theorem poll_of_fanOut (env : PollEnv Sp Sv Er L) {s : OneForOneStartFut Sp Fut Sv Er L}
    (h : s.startFailure = false) :
    let f := fanOutPass env 0 s.inner.limiter s.inner.items
    let s' := { s with inner := ⟨f.items, f.limiter⟩ }
    let t := timeLimitReached (env.timerFired .fanOut) s.timer
    (poll env s = drainNow env s' f.calls ∧
        (f.startFailure = true ∨ (f.allReady = false ∧ t.1 = true))) ∨
      (f.startFailure = false ∧ f.allReady = true ∧
        poll env s = ⟨.ready (.ok (OneForOneSupervisee.new s'.inner, ())), s', f.calls⟩) ∨
      (f.startFailure = false ∧ f.allReady = false ∧ t.1 = false ∧
        poll env s = ⟨.pending, { s' with timer := t.2 }, f.calls⟩) := by
  simp only [poll, h, Bool.false_eq_true, if_false]
  cases (fanOutPass env 0 s.inner.limiter s.inner.items).startFailure
  · cases (fanOutPass env 0 s.inner.limiter s.inner.items).allReady
    · cases (timeLimitReached (env.timerFired .fanOut) s.timer).1
      · exact .inr (.inr ⟨rfl, rfl, rfl, rfl⟩)
      · exact .inl ⟨rfl, .inr ⟨rfl, rfl⟩⟩
    · exact .inr (.inl ⟨rfl, rfl, rfl⟩)
  · exact .inl ⟨rfl, .inl rfl⟩

end Zestors.OneForOne
