import Zestors.Supervision.OneForOne.Slots
import Mathlib.Data.List.Perm.Subperm
import Mathlib.Data.List.Nodup

/-! # The restart limiter in the start future

`RestartLimiter::within_limit` is called from one place: the fan-out pass, in the turn of the
loop in which a slot moved from a start future to a failure, and for no other slot
(`fanOutPass_calls`). Within a call its answers are `true` but for the last, which is `false`
exactly when the pass broke off and the future went to the draining phase
(`fanOutPass_answers`); a draining future never calls it. No slot ever becomes a start future
again, so over a whole run each slot is the subject of at most one call, and a run over `N`
children calls the limiter at most `N` times. The limiter a call leaves is the one those calls
made, in that order, and nothing else changes it (`withinLimit_discipline`).

Once the limiter has said `false` the future drains, and every verdict it then resolves to is
that of `take_start_now`, which looks at the slots alone (`exhaustion_verdict`). Nothing halts
the running children, and a `Spec` slot never clears the `ok` flag of `take_start_now`, so its
`Failed` branch, which keeps the specifications for a restart, is never taken: a group whose
exhausting child went back to a specification while the other children still run when the
shutdown timer fires resolves as a running supervisee (`exhaustion_resolves_ok`), although the
sources re-arm the timer because they are "going to shut everything down".
-/

set_option autoImplicit false

namespace Zestors.OneForOne

open Supervision

variable {Sp Fut Sv Er L : Type}

/-! ## Slot-by-slot facts -/

/-- Slot `i` of two slot-by-slot related vectors: both absent, or both present and related. -/
theorem forall₂_getElem? {α β : Type} {R : α → β → Prop} {as : List α} {bs : List β}
    (h : List.Forall₂ R as bs) (i : Nat) :
    (as[i]? = none ∧ bs[i]? = none) ∨ ∃ a b, as[i]? = some a ∧ bs[i]? = some b ∧ R a b := by
  induction h generalizing i with
  | nil => exact .inl ⟨rfl, rfl⟩
  | cons hab _ ih =>
    cases i with
    | zero => exact .inr ⟨_, _, List.getElem?_cons_zero, List.getElem?_cons_zero, hab⟩
    | succ i => simpa using ih i

/-- Only a start future becomes a start future: the same one. -/
theorem SlotStep.eq_of_startFut {d : Bool} {a : OneForOneItem Sp Fut Sv Er} {f : Fut}
    (h : SlotStep d a (.startFut f)) : a = .startFut f := by
  cases h; rfl

/-- A failed slot is never changed. -/
theorem SlotStep.eq_of_isFailure {d : Bool} {a b : OneForOneItem Sp Fut Sv Er}
    (ha : a.isFailure = true) (h : SlotStep d a b) : b = a := by
  cases h <;> first | rfl | cases ha

/-- The slots, numbered from `i`, that moved from a start future to a failure between two slot
vectors, in slot order. -/
def failureSlots (i : Nat) :
    List (OneForOneItem Sp Fut Sv Er) → List (OneForOneItem Sp Fut Sv Er) → List Nat
  | a :: as, b :: bs => (if a.isStartFut && b.isFailure then [i] else []) ++ failureSlots (i + 1) as bs
  | _, _ => []

theorem failureSlots_self : ∀ (i : Nat) (items : List (OneForOneItem Sp Fut Sv Er)),
    failureSlots i items items = []
  | _, [] => rfl
  | i, item :: rest => by
    cases item <;>
      simp [failureSlots, failureSlots_self (i + 1) rest, OneForOneItem.isStartFut,
        OneForOneItem.isFailure]

theorem mem_failureSlots : ∀ {i k : Nat} {as bs : List (OneForOneItem Sp Fut Sv Er)},
    i ∈ failureSlots k as bs → k ≤ i ∧ ∃ a b, as[i - k]? = some a ∧ bs[i - k]? = some b ∧
      a.isStartFut = true ∧ b.isFailure = true
  | _, _, [], _, h | _, _, _ :: _, [], h => nomatch h
  | i, k, a :: as, b :: bs, h => by
    simp only [failureSlots, List.mem_append] at h
    rcases h with h | h
    · split at h
      · obtain rfl := List.mem_singleton.mp h
        simp_all
      · cases h
    · obtain ⟨hk, a', b', ha, hb, h'⟩ := mem_failureSlots h
      refine ⟨by omega, a', b', ?_⟩
      rw [show i - k = (i - (k + 1)) + 1 by omega, List.getElem?_cons_succ, List.getElem?_cons_succ]
      exact ⟨ha, hb, h'⟩

theorem failureSlots_pairwise : ∀ (k : Nat) (as bs : List (OneForOneItem Sp Fut Sv Er)),
    (failureSlots k as bs).Pairwise (· < ·)
  | _, [], _ | _, _ :: _, [] => .nil
  | k, a :: as, b :: bs => by
    simp only [failureSlots]
    refine List.pairwise_append.mpr ⟨?_, failureSlots_pairwise (k + 1) as bs, ?_⟩
    · split <;> simp
    · intro x hx y hy
      split at hx
      · obtain rfl := List.mem_singleton.mp hx
        exact (mem_failureSlots hy).1
      · cases hx

/-! ## One pass and one call -/

/-- **`within_limit` is called for exactly the slots the fan-out pass moves from a start future
to a failure, in slot order.** -/
theorem fanOutPass_calls (env : PollEnv Sp Sv Er L) :
    ∀ (i : Nat) (limiter : L) (items : List (OneForOneItem Sp Fut Sv Er)),
      (fanOutPass env i limiter items).calls.map Prod.fst =
        failureSlots i items (fanOutPass env i limiter items).items
  | _, _, [] => rfl
  | i, limiter, item :: rest => by
    have hf := fanOutSlot_failed env i item
    simp only [fanOutPass]
    split <;> rename_i hfail
    · split
      · simp only [List.map_cons, failureSlots, ← hf, hfail, if_true,
          fanOutPass_calls env (i + 1) _ rest]
        rfl
      · simp only [List.map_cons, List.map_nil, failureSlots, ← hf, hfail, if_true, failureSlots_self]
        rfl
    · simp only [failureSlots, ← hf, hfail, fanOutPass_calls env (i + 1) limiter rest]
      rfl

/-- The answers of `within_limit` in one pass are `true`, but for a last `false` when the pass
broke off and set `start_failure`. -/
theorem fanOutPass_answers (env : PollEnv Sp Sv Er L) :
    ∀ (i : Nat) (limiter : L) (items : List (OneForOneItem Sp Fut Sv Er)), ∃ pre : List Nat,
      ((fanOutPass env i limiter items).startFailure = false ∧
          (fanOutPass env i limiter items).calls = pre.map (·, true)) ∨
        ((fanOutPass env i limiter items).startFailure = true ∧
          ∃ j, (fanOutPass env i limiter items).calls = pre.map (·, true) ++ [(j, false)])
  | _, _, [] => ⟨[], .inl ⟨rfl, rfl⟩⟩
  | i, limiter, item :: rest => by
    simp only [fanOutPass]
    split
    · split
      · obtain ⟨pre, h⟩ := fanOutPass_answers env (i + 1) (env.withinLimit i limiter).2 rest
        refine ⟨i :: pre, ?_⟩
        rcases h with ⟨h₁, h₂⟩ | ⟨h₁, j, h₂⟩
        · exact .inl ⟨h₁, by simp [h₂]⟩
        · exact .inr ⟨h₁, j, by simp [h₂]⟩
      · exact ⟨[], .inr ⟨rfl, i, rfl⟩⟩
    · exact fanOutPass_answers env (i + 1) limiter rest

/-- A pass that logged a `false` answer broke off and set `start_failure`. -/
theorem fanOutPass_startFailure_of_false (env : PollEnv Sp Sv Er L) (i : Nat) (limiter : L)
    (items : List (OneForOneItem Sp Fut Sv Er)) {j : Nat}
    (h : (j, false) ∈ (fanOutPass env i limiter items).calls) :
    (fanOutPass env i limiter items).startFailure = true := by
  obtain ⟨pre, ⟨-, hc⟩ | ⟨hs, -⟩⟩ := fanOutPass_answers env i limiter items
  · rw [hc] at h; simp at h
  · exact hs

@[simp] theorem drainNow_calls (env : PollEnv Sp Sv Er L) (s : OneForOneStartFut Sp Fut Sv Er L)
    (calls : List (Nat × Bool)) : (drainNow env s calls).calls = calls := rfl

@[simp] theorem drainNow_startFailure (env : PollEnv Sp Sv Er L) (s : OneForOneStartFut Sp Fut Sv Er L)
    (calls : List (Nat × Bool)) : (drainNow env s calls).fut.startFailure = true := by
  simp [drainNow]

/-- The calls of one poll are those of its fan-out pass; a draining future makes none. -/
theorem poll_calls (env : PollEnv Sp Sv Er L) (s : OneForOneStartFut Sp Fut Sv Er L) :
    (poll env s).calls =
      if s.startFailure then [] else (fanOutPass env 0 s.inner.limiter s.inner.items).calls := by
  cases h : s.startFailure
  · rcases poll_of_fanOut env h with ⟨hp, -⟩ | ⟨-, -, hp⟩ | ⟨-, -, -, hp⟩ <;> rw [hp] <;> rfl
  · rw [poll_of_draining env h]; rfl

theorem poll_answers (env : PollEnv Sp Sv Er L) (s : OneForOneStartFut Sp Fut Sv Er L) :
    ∃ pre : List Nat, (poll env s).calls = pre.map (·, true) ∨
      ∃ j, (poll env s).calls = pre.map (·, true) ++ [(j, false)] ∧ (poll env s).fut.startFailure = true := by
  cases h : s.startFailure
  · obtain ⟨pre, hf⟩ := fanOutPass_answers env 0 s.inner.limiter s.inner.items
    refine ⟨pre, ?_⟩
    rw [poll_calls, h, if_neg Bool.false_ne_true]
    rcases hf with ⟨-, h₂⟩ | ⟨h₁, j, h₂⟩
    · exact .inl h₂
    · rcases poll_of_fanOut env h with ⟨hp, -⟩ | ⟨h₁', -⟩ | ⟨h₁', -⟩
      · exact .inr ⟨j, h₂, by rw [hp, drainNow_startFailure]⟩
      all_goals simp_all
  · exact ⟨[], .inl (by rw [poll_calls, h]; rfl)⟩

/-- After a call, the slots it called the limiter for hold failures. -/
theorem poll_calls_failed (env : PollEnv Sp Sv Er L) (s : OneForOneStartFut Sp Fut Sv Er L)
    {i : Nat} (hi : i ∈ (poll env s).calls.map Prod.fst) :
    (∃ f, s.inner.items[i]? = some (.startFut f)) ∧
      ∃ b, (poll env s).fut.inner.items[i]? = some b ∧ b.isFailure = true := by
  cases h : s.startFailure
  · rw [poll_calls, h, if_neg Bool.false_ne_true, fanOutPass_calls] at hi
    obtain ⟨-, a, b, ha, hb, hsf, hfail⟩ := mem_failureSlots hi
    simp only [Nat.sub_zero] at ha hb
    refine ⟨?_, b, ?_, hfail⟩
    · cases a <;> simp_all [OneForOneItem.isStartFut]
    · have hrest : List.Forall₂ (SlotStep true) (fanOutPass env 0 s.inner.limiter s.inner.items).items
          (poll env s).fut.inner.items := by
        rcases poll_of_fanOut env h with ⟨hp, -⟩ | ⟨-, -, hp⟩ | ⟨-, -, -, hp⟩ <;> rw [hp]
        · exact drainBranch_step _ ⟨⟨_, _⟩, _, _, _⟩
        all_goals exact forall₂_refl_slotStep true _
      rcases forall₂_getElem? hrest i with ⟨hn, -⟩ | ⟨b', c, hb', hc, hbc⟩
      · simp_all
      · rw [hb, Option.some.injEq] at hb'
        subst hb'
        rw [hc, SlotStep.eq_of_isFailure hfail hbc]
  · rw [poll_calls, h] at hi
    cases hi

/-! ## Whole runs -/

theorem poll_calls_nodup (env : PollEnv Sp Sv Er L) (s : OneForOneStartFut Sp Fut Sv Er L) :
    ((poll env s).calls.map Prod.fst).Nodup := by
  rw [poll_calls]
  split
  · exact List.nodup_nil
  · rw [fanOutPass_calls]
    exact (failureSlots_pairwise _ _ _).nodup

/-- A slot holds a start future after a call only if it held the same one before. -/
theorem poll_startFut_of_startFut (env : PollEnv Sp Sv Er L) (s : OneForOneStartFut Sp Fut Sv Er L)
    {i : Nat} {f : Fut} (h : (poll env s).fut.inner.items[i]? = some (.startFut f)) :
    s.inner.items[i]? = some (.startFut f) := by
  rcases forall₂_getElem? (poll_step env s) i with ⟨-, hn⟩ | ⟨a, b, ha, hb, hab⟩
  · simp_all
  · rw [h, Option.some.injEq] at hb
    subst hb
    rw [ha, SlotStep.eq_of_startFut hab]

/-- Over a run, the limiter is called at most once for each slot, and only for slots that
held a start future when the run began. -/
theorem run_calls : ∀ (envs : List (PollEnv Sp Sv Er L)) (s : OneForOneStartFut Sp Fut Sv Er L),
    ((run envs s).calls.map Prod.fst).Nodup ∧
      ∀ i ∈ (run envs s).calls.map Prod.fst, ∃ f, s.inner.items[i]? = some (.startFut f)
  | [], _ => ⟨List.nodup_nil, fun _ h => nomatch h⟩
  | env :: envs, s => by
    simp only [run]
    split
    · exact ⟨poll_calls_nodup env s, fun i hi => (poll_calls_failed env s hi).1⟩
    · obtain ⟨hq, hqs⟩ := run_calls envs (poll env s).fut
      rw [List.map_append]
      refine ⟨List.nodup_append.mpr ⟨poll_calls_nodup env s, hq, fun i hi hj => ?_⟩, fun i hi => ?_⟩
      · -- a slot the call logged holds a failure afterwards, never a start future
        obtain ⟨-, b, hb, hfail⟩ := poll_calls_failed env s hi
        obtain ⟨f, hf⟩ := hqs i hj
        rw [hb, Option.some.injEq] at hf
        subst hf
        cases hfail
      · rcases List.mem_append.mp hi with hi | hi
        · exact (poll_calls_failed env s hi).1
        · obtain ⟨f, hf⟩ := hqs i hi
          exact ⟨f, poll_startFut_of_startFut env s hf⟩

/-! ## The state of the limiter -/

/-- The answers of the limiter, and the state it is left in, when it is asked once for each
slot of a list, in order. -/
def replayLimiter (env : PollEnv Sp Sv Er L) : L → List Nat → List (Nat × Bool) × L
  | limiter, [] => ([], limiter)
  | limiter, i :: slots =>
    let answer := env.withinLimit i limiter
    let r := replayLimiter env answer.2 slots
    ((i, answer.1) :: r.1, r.2)

/-- The calls a fan-out pass logs, and the limiter it leaves, replay the limiter. -/
theorem fanOutPass_replay (env : PollEnv Sp Sv Er L) :
    ∀ (i : Nat) (limiter : L) (items : List (OneForOneItem Sp Fut Sv Er)),
      replayLimiter env limiter ((fanOutPass env i limiter items).calls.map Prod.fst) =
        ((fanOutPass env i limiter items).calls, (fanOutPass env i limiter items).limiter)
  | _, _, [] => rfl
  | i, limiter, item :: rest => by
    simp only [fanOutPass]
    split
    · split <;> rename_i ha
      · simp only [List.map_cons, replayLimiter, ha, fanOutPass_replay env (i + 1) _ rest]
      · simp only [Bool.not_eq_true] at ha
        simp only [List.map_cons, List.map_nil, replayLimiter, ha]
    · exact fanOutPass_replay env (i + 1) limiter rest

/-- The answers a call of `poll` logs, and the limiter it leaves, are those of the limiter asked
once for each logged slot in order, from the state the call began with. -/
theorem limiter_replays (env : PollEnv Sp Sv Er L) (s : OneForOneStartFut Sp Fut Sv Er L) :
    replayLimiter env s.inner.limiter ((poll env s).calls.map Prod.fst) =
      ((poll env s).calls, (poll env s).fut.inner.limiter) := by
  cases h : s.startFailure
  · have hr := fanOutPass_replay env 0 s.inner.limiter s.inner.items
    rcases poll_of_fanOut env h with ⟨hp, -⟩ | ⟨-, -, hp⟩ | ⟨-, -, -, hp⟩ <;>
      simpa [hp, drainNow, drainBranch_fut] using hr
  · rw [poll_of_draining env h, drainBranch_fut]; rfl

/-- **`within_limit` is called once for each fan-out failure, at it, in slot order, and never
otherwise.** In one call the slots it is called for are exactly those the fan-out pass moved
from a start future to `Spec` or `Irrecoverable`, in slot order, and none while draining; the
answers logged and the limiter the call leaves are those of the limiter asked once for each of
these slots in order, so no call goes unlogged and a draining call leaves the limiter as it was.
Its answers are `true` but for a last `false`, after which the future is draining. Over a whole
run no slot is the subject of two calls, so `N` children get at most `N` calls. -/
theorem withinLimit_discipline :
    (∀ (env : PollEnv Sp Sv Er L) (s : OneForOneStartFut Sp Fut Sv Er L),
        (poll env s).calls.map Prod.fst =
          if s.startFailure then []
          else failureSlots 0 s.inner.items (fanOutPass env 0 s.inner.limiter s.inner.items).items) ∧
      (∀ (env : PollEnv Sp Sv Er L) (s : OneForOneStartFut Sp Fut Sv Er L),
        replayLimiter env s.inner.limiter ((poll env s).calls.map Prod.fst) =
          ((poll env s).calls, (poll env s).fut.inner.limiter)) ∧
      (∀ (env : PollEnv Sp Sv Er L) (s : OneForOneStartFut Sp Fut Sv Er L), ∃ pre : List Nat,
        (poll env s).calls = pre.map (·, true) ∨
          ∃ j, (poll env s).calls = pre.map (·, true) ++ [(j, false)] ∧
            (poll env s).fut.startFailure = true) ∧
      ∀ (envs : List (PollEnv Sp Sv Er L)) (s : OneForOneStartFut Sp Fut Sv Er L),
        ((run envs s).calls.map Prod.fst).Nodup ∧ (run envs s).calls.length ≤ s.inner.items.length := by
  refine ⟨fun env s => ?_, limiter_replays, poll_answers, fun envs s => ⟨(run_calls envs s).1, ?_⟩⟩
  · rw [poll_calls]; split <;> simp [fanOutPass_calls]
  · obtain ⟨hnd, hin⟩ := run_calls envs s
    have hsub : (run envs s).calls.map Prod.fst ⊆ List.range s.inner.items.length := fun i hi => by
      obtain ⟨f, hf⟩ := hin i hi
      exact List.mem_range.mpr (List.getElem?_eq_some_iff.mp hf).1
    simpa using (hnd.subperm hsub).length_le

/-! ## After the limiter said `false` -/

/-- The call left the future draining, and what it resolved to, if anything, is the verdict of
`take_start_now` on the slots it left. -/
def Drained (p : Polled Sp Fut Sv Er L) : Prop :=
  p.fut.startFailure = true ∧ ∀ out, p.result = .ready out → out = takeStartNow p.fut.inner

/-- The draining branch resolves only to `take_start_now` on the slots it leaves. -/
theorem drainBranch_verdict (env : PollEnv Sp Sv Er L) (s : OneForOneStartFut Sp Fut Sv Er L)
    {out : Output Sp Fut Sv Er L} (h : (drainBranch env s).1 = .ready out) :
    out = takeStartNow (drainBranch env s).2.inner := by
  rw [drainBranch_result] at h
  split at h
  · cases h; rw [drainBranch_fut]
  · cases h

theorem drainNow_drained (env : PollEnv Sp Sv Er L) (s : OneForOneStartFut Sp Fut Sv Er L)
    (calls : List (Nat × Bool)) : Drained (drainNow env s calls) :=
  ⟨drainNow_startFailure env s calls, fun _ h => drainBranch_verdict _ _ h⟩

theorem poll_drained_of_draining (env : PollEnv Sp Sv Er L) {s : OneForOneStartFut Sp Fut Sv Er L}
    (h : s.startFailure = true) : Drained (poll env s) := by
  rw [poll_of_draining env h]
  exact ⟨by simpa using h, fun _ h => drainBranch_verdict env s h⟩

/-- A call in which the limiter said `false` ends drained. -/
theorem poll_drained_of_false (env : PollEnv Sp Sv Er L) (s : OneForOneStartFut Sp Fut Sv Er L)
    {i : Nat} (hi : (i, false) ∈ (poll env s).calls) : Drained (poll env s) := by
  cases h : s.startFailure
  · rw [poll_calls, h, if_neg Bool.false_ne_true] at hi
    have hs := fanOutPass_startFailure_of_false env 0 s.inner.limiter s.inner.items hi
    rcases poll_of_fanOut env h with ⟨hp, -⟩ | ⟨hs', -⟩ | ⟨hs', -⟩
    · rw [hp]; exact drainNow_drained env _ _
    all_goals rw [hs'] at hs; cases hs
  · exact poll_drained_of_draining env h

/-- A run from a draining future ends drained. -/
theorem run_drained_of_draining :
    ∀ (envs : List (PollEnv Sp Sv Er L)) {s : OneForOneStartFut Sp Fut Sv Er L},
      s.startFailure = true → Drained (run envs s)
  | [], _, h => ⟨h, fun _ h => nomatch h⟩
  | env :: envs, s, h => by
    have hp := poll_drained_of_draining env h
    simp only [run]
    split
    · exact hp
    · exact run_drained_of_draining envs hp.1

/-- A run in which the limiter said `false` ends drained. -/
theorem run_drained_of_false :
    ∀ (envs : List (PollEnv Sp Sv Er L)) (s : OneForOneStartFut Sp Fut Sv Er L) {i : Nat},
      (i, false) ∈ (run envs s).calls → Drained (run envs s)
  | [], _, _, h => nomatch h
  | env :: envs, s, i, h => by
    simp only [run] at h ⊢
    cases hp : (poll env s).result with
    | ready out =>
      simp only [hp] at h ⊢
      exact poll_drained_of_false env s h
    | pending =>
      simp only [hp] at h ⊢
      rcases List.mem_append.mp h with h | h
      · exact run_drained_of_draining envs (poll_drained_of_false env s h).1
      · exact run_drained_of_false envs _ h

/-- **Once `within_limit` has said `false`, the verdict looks at the slots alone.** The future is
draining from that call on, and whatever it resolves to is `take_start_now` on the slots it
leaves: the irrecoverable error carrying the group when a slot is still starting or failed for
good, and a running supervisee otherwise. -/
theorem exhaustion_verdict (envs : List (PollEnv Sp Sv Er L)) (s : OneForOneStartFut Sp Fut Sv Er L)
    (h : ∃ i, (i, false) ∈ (run envs s).calls) :
    (run envs s).fut.startFailure = true ∧
      ∀ out, (run envs s).result = .ready out →
        out = if (run envs s).fut.inner.items.any (·.blocksStart)
          then .err (.irrecoverable ⟨"Error: ", (run envs s).fut.inner⟩)
          else .ok (OneForOneSupervisee.new (run envs s).fut.inner, ()) := by
  obtain ⟨i, hi⟩ := h
  obtain ⟨hs, hout⟩ := run_drained_of_false envs s hi
  exact ⟨hs, fun out h => (hout out h).trans (takeStartNow_eq _)⟩

/-- Three children: the first two start, the third fails recoverably and the limiter refuses
its restart; the running children never exit, and the timer fires only in the second call. -/
def exhaustionEnv (fired : Bool) : PollEnv Nat Nat Nat Unit where
  startPoll := fun _ i => if i = 2 then .ready (.err (.failed 9)) else .ready (.ok (i, ()))
  exitPoll := fun _ => .pending
  withinLimit := fun _ l => (false, l)
  timerFired := fun _ => fired

theorem exhaustion_verdict_three_children :
    let fut : OneForOneStartFut Nat Nat Nat Nat Unit :=
      ⟨⟨[.startFut 0, .startFut 1, .startFut 2], ()⟩, some 5, 5, false⟩
    let envs := [exhaustionEnv false, exhaustionEnv true]
    (∃ i, (i, false) ∈ (run envs fut).calls) ∧
      (run envs fut).fut.startFailure = true ∧
      ∀ out, (run envs fut).result = .ready out →
        out = if (run envs fut).fut.inner.items.any (·.blocksStart)
          then .err (.irrecoverable ⟨"Error: ", (run envs fut).fut.inner⟩)
          else .ok (OneForOneSupervisee.new (run envs fut).fut.inner, ()) :=
  have h : ∃ i, (i, false) ∈ (run [exhaustionEnv false, exhaustionEnv true]
      (⟨⟨[.startFut 0, .startFut 1, .startFut 2], ()⟩, some 5, 5, false⟩ :
        OneForOneStartFut Nat Nat Nat Nat Unit)).calls := ⟨2, by decide⟩
  ⟨h, exhaustion_verdict _ _ h⟩

/-- Started from three specifications, the run of `exhaustionEnv` has the limiter refuse the
third child's restart in the first call, and the shutdown timer fire in the second while the two
started children still run: the start resolves to a running supervisee over
`[Supervisee, Supervisee, Spec]`. -/
theorem exhaustion_resolves_ok :
    ((OneForOneSpec.mk [.spec 0, .spec 1, .spec 2] () : OneForOneSpec Nat Nat Nat Nat Unit).start
        ⟨fun _ => 0, id⟩).map
      (fun fut => ((run [exhaustionEnv false, exhaustionEnv true] fut).calls,
        (run [exhaustionEnv false, exhaustionEnv true] fut).result)) =
      some ([(2, false)],
        .ready (.ok (OneForOneSupervisee.new ⟨[.supervisee 0 none, .supervisee 1 none, .spec 9], ()⟩, ()))) := by
  decide

end Zestors.OneForOne
