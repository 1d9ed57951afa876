import Zestors.Supervision.Contract

/-! # Forwarding references

`RefSenderSpec` (`channel_spec.rs`) wraps a specification so that the reference of each
successful start is sent on an unbounded channel, while the wrapper itself reports `()`. The
file is written against another version of the supervision contract than `one_for_one.rs`: a
start fails with `Failure`, `Finished` or `Unhandled`, and a supervisee has an
`abort_timeout`. This module models that version.

A supervisor drives a specification through a restart chain (`Stage`, `Action`): start it,
poll the start future, restart the specification a failure hands back, poll the supervisee
until it exits, restart the specification it hands back. The inner specification's start
future and supervisee answer polls from the environment (the answer is part of the action).
The main result, `refSender_simulates`, is that the wrapper follows the inner specification
step for step along every chain: same outcomes with the reference replaced by `()`, exactly
the inner references sent, in order, and the sender still held by every wrapper, so that the
`unwrap()`s of `RefSenderSpecFut::poll` never panic.
-/

set_option autoImplicit false

namespace Zestors.ChannelSpec

/-- `StartError<S>` of the contract `channel_spec.rs` is written against. -/
inductive StartError (S E : Type) where
  | failure (spec : S)
  | finished
  | unhandled (error : E)
  deriving Repr, DecidableEq

/-- `StartResult<S>`: the supervisee and its reference, or the `StartError`. -/
abbrev StartResult (S Sup R E : Type) := Result (Sup × R) (StartError S E)

/-- `ExitResult<S>`: the specification to restart with, `None` once finished, or the error. -/
abbrev ExitResult (S E : Type) := Result (Option S) E

/-- The methods of the inner `Specification` and of its `Supervisee` that the wrapper calls. -/
structure Specification (Sp Fut Sv : Type) where
  startTimeout : Sp → Duration
  start : Sp → Fut
  abortTimeout : Sv → Duration
  halt : Sv → Sv
  abort : Sv → Sv

variable {Sp Fut Sv Rf Er Tx Rx : Type}

/-- `RefSenderSpec`: the inner specification and the sender of the reference channel. -/
structure RefSenderSpec (Sp Tx : Type) where
  spec : Sp
  sender : Option Tx
  deriving Repr, DecidableEq

/-- `RefSenderSpecFut`. -/
structure RefSenderSpecFut (Fut Tx : Type) where
  fut : Fut
  sender : Option Tx
  deriving Repr, DecidableEq

/-- `RefSenderSupervisee`. -/
structure RefSenderSupervisee (Sv Tx : Type) where
  supervisee : Sv
  sender : Option Tx
  deriving Repr, DecidableEq

/-- `RefSenderSpec::new_with_channel`. -/
def RefSenderSpec.newWithChannel (spec : Sp) (sender : Tx) : RefSenderSpec Sp Tx := ⟨spec, some sender⟩

/-- `RefSenderSpec::new`, given the two ends of the fresh `unbounded_channel()`. -/
def RefSenderSpec.new (spec : Sp) (channel : Tx × Rx) : RefSenderSpec Sp Tx × Rx :=
  (RefSenderSpec.newWithChannel spec channel.1, channel.2)

/-- `Specification::start_timeout` of the wrapper. -/
def RefSenderSpec.startTimeout (S : Specification Sp Fut Sv) (w : RefSenderSpec Sp Tx) : Duration :=
  S.startTimeout w.spec

/-- `Specification::start` of the wrapper. -/
def RefSenderSpec.start (S : Specification Sp Fut Sv) (w : RefSenderSpec Sp Tx) : RefSenderSpecFut Fut Tx :=
  ⟨S.start w.spec, w.sender⟩

/-- `RefSenderSpecFut::poll`, given what the inner start future answers: the answer passed on,
the future after the call, and the values sent on the channel, each with its sender. `none` is
the panic of `sender.take().unwrap()`. -/
def RefSenderSpecFut.poll (answer : Poll (StartResult Sp Sv Rf Er)) (f : RefSenderSpecFut Fut Tx) :
    Option (Poll (StartResult (RefSenderSpec Sp Tx) (RefSenderSupervisee Sv Tx) Unit Er) ×
      RefSenderSpecFut Fut Tx × List (Tx × Rf)) :=
  match answer with
  | .pending => some (.pending, f, [])
  | .ready (.ok (supervisee, reference)) =>
    f.sender.map fun sender =>
      (.ready (.ok (⟨supervisee, some sender⟩, ())), { f with sender := none }, [(sender, reference)])
  | .ready (.err (.failure spec)) =>
    f.sender.map fun sender => (.ready (.err (.failure ⟨spec, some sender⟩)), { f with sender := none }, [])
  | .ready (.err .finished) => some (.ready (.err .finished), f, [])
  | .ready (.err (.unhandled e)) => some (.ready (.err (.unhandled e)), f, [])

/-- `Supervisee::abort_timeout` of the wrapper. -/
def RefSenderSupervisee.abortTimeout (S : Specification Sp Fut Sv) (w : RefSenderSupervisee Sv Tx) :
    Duration :=
  S.abortTimeout w.supervisee

/-- `Supervisee::halt` of the wrapper. -/
def RefSenderSupervisee.halt (S : Specification Sp Fut Sv) (w : RefSenderSupervisee Sv Tx) :
    RefSenderSupervisee Sv Tx :=
  { w with supervisee := S.halt w.supervisee }

/-- `Supervisee::abort` of the wrapper. -/
def RefSenderSupervisee.abort (S : Specification Sp Fut Sv) (w : RefSenderSupervisee Sv Tx) :
    RefSenderSupervisee Sv Tx :=
  { w with supervisee := S.abort w.supervisee }

/-- `RefSenderSupervisee::poll`, given what the inner supervisee answers. The specification it
exits with takes the sender (`sender.take()`). -/
def RefSenderSupervisee.poll (answer : Poll (ExitResult Sp Er)) (w : RefSenderSupervisee Sv Tx) :
    Poll (ExitResult (RefSenderSpec Sp Tx) Er) × RefSenderSupervisee Sv Tx :=
  match answer with
  | .pending => (.pending, w)
  | .ready (.ok (some spec)) => (.ready (.ok (some ⟨spec, w.sender⟩)), { w with sender := none })
  | .ready (.ok none) => (.ready (.ok none), w)
  | .ready (.err e) => (.ready (.err e), w)

/-! ## Restart chains -/

/-- Where a restart chain stands: a specification to start, a start future to poll, a running
supervisee, or stopped (finished, or failed for good). -/
inductive Stage (S Fut Sup : Type) where
  | spec (spec : S)
  | starting (fut : Fut)
  | running (supervisee : Sup)
  | stopped
  deriving Repr, DecidableEq

/-- What the supervisor does next, with what the inner object answers when it is polled. -/
inductive Action (Sp Sv Rf Er : Type) where
  | startTimeout
  | start
  | pollStart (answer : Poll (StartResult Sp Sv Rf Er))
  | abortTimeout
  | halt
  | abort
  | pollExit (answer : Poll (ExitResult Sp Er))

/-- What the supervisor sees of one step. -/
inductive Observation (S Sup R E : Type) where
  | startTimeout (timeout : Duration)
  | started
  | startPolled (result : Poll (StartResult S Sup R E))
  | abortTimeout (timeout : Duration)
  | signalled
  | exitPolled (result : Poll (ExitResult S E))
  deriving Repr, DecidableEq

/-- The stage after the start future `fut` answered: pending, running, back to a
specification after a `Failure`, or stopped. -/
def afterStart {S Fut Sup R E : Type} (fut : Fut) : Poll (StartResult S Sup R E) → Stage S Fut Sup
  | .pending => .starting fut
  | .ready (.ok (supervisee, _)) => .running supervisee
  | .ready (.err (.failure spec)) => .spec spec
  | .ready (.err _) => .stopped

/-- The stage after the supervisee `sv` answered: running, back to a specification, or
stopped. -/
def afterExit {S Fut Sup E : Type} (sv : Sup) : Poll (ExitResult S E) → Stage S Fut Sup
  | .pending => .running sv
  | .ready (.ok (some spec)) => .spec spec
  | .ready _ => .stopped

/-- One step of a chain driven on the inner specification, whose start futures and
supervisees answer as the action says. `none`: the action does not apply at this stage. -/
def innerStep (S : Specification Sp Fut Sv) :
    Stage Sp Fut Sv → Action Sp Sv Rf Er → Option (Stage Sp Fut Sv × Observation Sp Sv Rf Er)
  | .spec sp, .startTimeout => some (.spec sp, .startTimeout (S.startTimeout sp))
  | .spec sp, .start => some (.starting (S.start sp), .started)
  | .starting f, .pollStart a => some (afterStart f a, .startPolled a)
  | .running sv, .abortTimeout => some (.running sv, .abortTimeout (S.abortTimeout sv))
  | .running sv, .halt => some (.running (S.halt sv), .signalled)
  | .running sv, .abort => some (.running (S.abort sv), .signalled)
  | .running sv, .pollExit a => some (afterExit sv a, .exitPolled a)
  | _, _ => none

/-- One step of the same chain driven on the wrapper, whose objects poll the inner ones: the
stage after it, what the supervisor sees, and what was sent on the channel. `none`: the action
does not apply at this stage, or the wrapper panicked. -/
def wrapperStep (S : Specification Sp Fut Sv) :
    Stage (RefSenderSpec Sp Tx) (RefSenderSpecFut Fut Tx) (RefSenderSupervisee Sv Tx) →
      Action Sp Sv Rf Er →
      Option (Stage (RefSenderSpec Sp Tx) (RefSenderSpecFut Fut Tx) (RefSenderSupervisee Sv Tx) ×
        Observation (RefSenderSpec Sp Tx) (RefSenderSupervisee Sv Tx) Unit Er × List (Tx × Rf))
  | .spec w, .startTimeout => some (.spec w, .startTimeout (w.startTimeout S), [])
  | .spec w, .start => some (.starting (w.start S), .started, [])
  | .starting f, .pollStart a =>
    (RefSenderSpecFut.poll a f).map fun p => (afterStart p.2.1 p.1, .startPolled p.1, p.2.2)
  | .running w, .abortTimeout => some (.running w, .abortTimeout (w.abortTimeout S), [])
  | .running w, .halt => some (.running (w.halt S), .signalled, [])
  | .running w, .abort => some (.running (w.abort S), .signalled, [])
  | .running w, .pollExit a =>
    some (afterExit (RefSenderSupervisee.poll a w).2 (RefSenderSupervisee.poll a w).1,
      .exitPolled (RefSenderSupervisee.poll a w).1, [])
  | _, _ => none

/-- A chain of actions on the inner specification: the last stage and what was seen. -/
def innerRun (S : Specification Sp Fut Sv) :
    Stage Sp Fut Sv → List (Action Sp Sv Rf Er) → Option (Stage Sp Fut Sv × List (Observation Sp Sv Rf Er))
  | st, [] => some (st, [])
  | st, a :: as => (innerStep S st a).bind fun p => (innerRun S p.1 as).map fun q => (q.1, p.2 :: q.2)

/-- A chain of actions on the wrapper: the last stage, what was seen, and what was sent. -/
def wrapperRun (S : Specification Sp Fut Sv) :
    Stage (RefSenderSpec Sp Tx) (RefSenderSpecFut Fut Tx) (RefSenderSupervisee Sv Tx) →
      List (Action Sp Sv Rf Er) →
      Option (Stage (RefSenderSpec Sp Tx) (RefSenderSpecFut Fut Tx) (RefSenderSupervisee Sv Tx) ×
        List (Observation (RefSenderSpec Sp Tx) (RefSenderSupervisee Sv Tx) Unit Er) × List (Tx × Rf))
  | st, [] => some (st, [], [])
  | st, a :: as =>
    (wrapperStep S st a).bind fun p =>
      (wrapperRun S p.1 as).map fun q => (q.1, p.2.1 :: q.2.1, p.2.2 ++ q.2.2)

/-! ## The simulation -/

/-- The wrapper of an inner stage: every object holds the sender `tx`. -/
def wrapStage (tx : Tx) :
    Stage Sp Fut Sv → Stage (RefSenderSpec Sp Tx) (RefSenderSpecFut Fut Tx) (RefSenderSupervisee Sv Tx)
  | .spec sp => .spec ⟨sp, some tx⟩
  | .starting f => .starting ⟨f, some tx⟩
  | .running sv => .running ⟨sv, some tx⟩
  | .stopped => .stopped

/-- An inner start result as the wrapper reports it: the reference replaced by `()`, and each
specification or supervisee wrapped with the sender `tx`. -/
def liftStart (tx : Tx) :
    Poll (StartResult Sp Sv Rf Er) → Poll (StartResult (RefSenderSpec Sp Tx) (RefSenderSupervisee Sv Tx) Unit Er)
  | .pending => .pending
  | .ready (.ok (sv, _)) => .ready (.ok (⟨sv, some tx⟩, ()))
  | .ready (.err (.failure sp)) => .ready (.err (.failure ⟨sp, some tx⟩))
  | .ready (.err .finished) => .ready (.err .finished)
  | .ready (.err (.unhandled e)) => .ready (.err (.unhandled e))

/-- An inner exit result as the wrapper reports it. -/
def liftExit (tx : Tx) : Poll (ExitResult Sp Er) → Poll (ExitResult (RefSenderSpec Sp Tx) Er)
  | .pending => .pending
  | .ready (.ok (some sp)) => .ready (.ok (some ⟨sp, some tx⟩))
  | .ready (.ok none) => .ready (.ok none)
  | .ready (.err e) => .ready (.err e)

/-- An inner observation as the wrapper's supervisor sees it. -/
def liftObservation (tx : Tx) :
    Observation Sp Sv Rf Er → Observation (RefSenderSpec Sp Tx) (RefSenderSupervisee Sv Tx) Unit Er
  | .startTimeout d => .startTimeout d
  | .started => .started
  | .startPolled r => .startPolled (liftStart tx r)
  | .abortTimeout d => .abortTimeout d
  | .signalled => .signalled
  | .exitPolled r => .exitPolled (liftExit tx r)

/-- The reference an observation shows a successful start to have produced. -/
def startedRefs : Observation Sp Sv Rf Er → List Rf
  | .startPolled (.ready (.ok (_, r))) => [r]
  | _ => []

/-- One step of the wrapper is the inner step, lifted; it sends the reference of a successful
start and nothing else, and it never panics. -/
theorem wrapperStep_wrapStage (S : Specification Sp Fut Sv) (tx : Tx) (st : Stage Sp Fut Sv)
    (a : Action Sp Sv Rf Er) :
    wrapperStep S (wrapStage tx st) a =
      (innerStep S st a).map fun p => (wrapStage tx p.1, liftObservation tx p.2, (startedRefs p.2).map (tx, ·)) := by
  cases st <;> cases a <;> try rfl
  case starting.pollStart answer =>
    rcases answer with (⟨_, _⟩ | (_ | _ | _)) | _ <;> rfl
  case running.pollExit answer =>
    rcases answer with ((_ | _) | _) | _ <;> rfl

/-- Driving a wrapped stage is driving the inner stage, with the sender kept, every outcome
lifted and the references of the successful starts sent. -/
theorem wrapperRun_wrapStage (S : Specification Sp Fut Sv) (tx : Tx) :
    ∀ (actions : List (Action Sp Sv Rf Er)) (st : Stage Sp Fut Sv),
      wrapperRun S (wrapStage tx st) actions =
        (innerRun S st actions).map fun q =>
          (wrapStage tx q.1, q.2.map (liftObservation tx), (q.2.flatMap startedRefs).map (tx, ·))
  | [], _ => rfl
  | a :: as, st => by
    simp only [wrapperRun, innerRun, wrapperStep_wrapStage]
    cases innerStep S st a with
    | none => rfl
    | some p =>
      simp only [Option.map_some', Option.some_bind, wrapperRun_wrapStage S tx as]
      cases innerRun S p.1 as <;> simp

/-- **`RefSenderSpec` simulates its inner specification over every restart chain.** Driven
from a fresh wrapper by any sequence of actions, the wrapper runs exactly when the inner
specification does, so it never panics: it ends in the inner stage wrapped with the original
sender, every outcome is the inner one with the reference replaced by `()` and every returned
specification or supervisee wrapped with the sender, and the values sent on the channel are
the references of the inner successful starts, in order. -/
theorem refSender_simulates (S : Specification Sp Fut Sv) (sp : Sp) (channel : Tx × Rx) :
    ∀ (actions : List (Action Sp Sv Rf Er)),
      wrapperRun S (.spec (RefSenderSpec.new sp channel).1) actions =
        (innerRun S (.spec sp) actions).map fun q =>
          (wrapStage channel.1 q.1, q.2.map (liftObservation channel.1),
            (q.2.flatMap startedRefs).map (channel.1, ·)) :=
  fun actions => wrapperRun_wrapStage S channel.1 actions (.spec sp)

end Zestors.ChannelSpec
