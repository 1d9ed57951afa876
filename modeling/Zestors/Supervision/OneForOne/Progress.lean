import Zestors.Supervision.OneForOne.Drain

/-! # When a start resolves

While the limiter allows every restart and the start timer has not fired, a call in the
fan-out phase succeeds exactly when no child is left starting, and is pending otherwise
(`fanOut_resolves_iff_started`); a group without children thus resolves in its first call.

While a start is pending its timer is armed, and always for the same duration: `start` passes
its start time as the shutdown time too, so the timer re-armed for the drain runs as long as
the whole start was given (`pending_timer_armed`).

Without any timer, children that answer at once end the start in two calls
(`prompt_children_end_start`): the first leaves no child starting and, if it does not resolve,
the future draining; the second drains what is left. One such call is not enough, since a child
that starts while the future drains keeps the drain pending for one more call.
-/

set_option autoImplicit false

namespace Zestors.OneForOne

open Supervision

variable {Sp Fut Sv Er L : Type}

/-- **In the fan-out phase a start succeeds exactly when every child has resolved.** In a call
that begins in the fan-out phase, in which the limiter allows every restart and the start timer
has not fired, the start resolves to the running supervisee over the slots the pass leaves when
none of them is a start future, and is pending otherwise. -/
theorem fanOut_resolves_iff_started (env : PollEnv Sp Sv Er L) (s : OneForOneStartFut Sp Fut Sv Er L)
    (h : s.startFailure = false) (hl : ∀ p ∈ (poll env s).calls, p.2 = true)
    (ht : (timeLimitReached (env.timerFired .fanOut) s.timer).1 = false) :
    (poll env s).result =
      if (fanOutPass env 0 s.inner.limiter s.inner.items).items.all (!·.isStartFut)
      then .ready (.ok (OneForOneSupervisee.new ⟨(fanOutPass env 0 s.inner.limiter s.inner.items).items,
        (fanOutPass env 0 s.inner.limiter s.inner.items).limiter⟩, ()))
      else .pending := by
  have hf : (fanOutPass env 0 s.inner.limiter s.inner.items).startFailure = false := by
    obtain ⟨pre, ⟨hs, -⟩ | ⟨-, j, hc⟩⟩ := fanOutPass_answers env 0 s.inner.limiter s.inner.items
    · exact hs
    · rw [poll_calls, h, if_neg Bool.false_ne_true, hc] at hl
      simpa using hl (j, false) (by simp)
  rw [← fanOutPass_allReady env 0 _ _ hf]
  rcases poll_of_fanOut env h with ⟨-, hc | ⟨-, hc⟩⟩ | ⟨-, ha, hp⟩ | ⟨-, ha, -, hp⟩
  · simp_all
  · simp_all
  · rw [hp, ha]; rfl
  · rw [hp, ha]; rfl

theorem fanOut_resolves_iff_started_all_start :
    let s : OneForOneStartFut Nat Nat Nat Nat Unit := ⟨⟨[.startFut 0, .startFut 1, .startFut 2], ()⟩, some 5, 5, false⟩
    let env : PollEnv Nat Nat Nat Unit := { quietEnv with startPoll := fun _ i => .ready (.ok (i, ())) }
    s.startFailure = false ∧ (∀ p ∈ (poll env s).calls, p.2 = true) ∧
      (timeLimitReached (env.timerFired .fanOut) s.timer).1 = false ∧
      (poll env s).result =
        if (fanOutPass env 0 s.inner.limiter s.inner.items).items.all (!·.isStartFut)
        then .ready (.ok (OneForOneSupervisee.new ⟨(fanOutPass env 0 s.inner.limiter s.inner.items).items,
          (fanOutPass env 0 s.inner.limiter s.inner.items).limiter⟩, ()))
        else .pending :=
  have hl : ∀ p ∈ (poll { quietEnv with startPoll := fun _ i => .ready (.ok (i, ())) }
      (⟨⟨[.startFut 0, .startFut 1, .startFut 2], ()⟩, some 5, 5, false⟩ :
        OneForOneStartFut Nat Nat Nat Nat Unit)).calls, p.2 = true := by decide
  ⟨rfl, hl, rfl, fanOut_resolves_iff_started _ _ rfl hl rfl⟩

/-- Three children that all start in the first call: the group runs all three. -/
example : (poll { quietEnv with startPoll := fun _ i => .ready (.ok (i, ())) }
    (⟨⟨[.startFut 0, .startFut 1, .startFut 2], ()⟩, some 5, 5, false⟩ : OneForOneStartFut Nat Nat Nat Nat Unit)).result =
    .ready (.ok (OneForOneSupervisee.new ⟨[.supervisee 0 none, .supervisee 1 none, .supervisee 2 none], ()⟩, ())) := by
  decide

/-- A group without children resolves in its first call, to the running supervisee of the empty
group. -/
example (S : Specification Nat Nat) (env : PollEnv Nat Nat Nat Unit) :
    ((OneForOneSpec.new () : OneForOneSpec Nat Nat Nat Nat Unit).start S).map (fun fut => (poll env fut).result) =
      some (.ready (.ok (OneForOneSupervisee.new (OneForOneSpec.new ()), ()))) :=
  rfl

/-! ## The timer of a pending start -/

theorem timeLimitReached_not_reached {fired : Bool} {timer : Option Duration}
    (h : (timeLimitReached fired timer).1 = false) : (timeLimitReached fired timer).2 = timer := by
  cases timer <;> cases fired <;> simp_all [timeLimitReached]

theorem drainBranch_pending_timer (env : PollEnv Sp Sv Er L) (s : OneForOneStartFut Sp Fut Sv Er L)
    (h : (drainBranch env s).1 = .pending) : (drainBranch env s).2.timer = s.timer := by
  rw [drainBranch_result] at h
  rw [drainBranch_fut]
  cases hd : (drainPass env 0 s.inner.items).2
  · cases ht : (timeLimitReached (env.timerFired .draining) s.timer).1
    · exact timeLimitReached_not_reached ht
    · simp only [hd, ht, Bool.or_true, if_true] at h; cases h
  · rfl

/-- A call that stays pending leaves the timer armed with the shutdown time, if it was armed
so before. -/
theorem poll_pending_timer (env : PollEnv Sp Sv Er L) {s : OneForOneStartFut Sp Fut Sv Er L}
    (ht : s.timer = some s.shutdownTime) (h : (poll env s).result = .pending) :
    (poll env s).fut.timer = some (poll env s).fut.shutdownTime := by
  cases hs : s.startFailure
  · rcases poll_of_fanOut env hs with ⟨hp, -⟩ | ⟨-, -, hp⟩ | ⟨-, -, hn, hp⟩ <;> rw [hp] at h ⊢
    · simp only [drainNow] at h ⊢
      rw [drainBranch_pending_timer _ _ h, drainBranch_fut]
    · cases h
    · exact (timeLimitReached_not_reached hn).trans ht
  · rw [poll_of_draining env hs] at h ⊢
    rw [drainBranch_pending_timer env s h, drainBranch_fut]
    exact ht

theorem poll_shutdownTime (env : PollEnv Sp Sv Er L) (s : OneForOneStartFut Sp Fut Sv Er L) :
    (poll env s).fut.shutdownTime = s.shutdownTime := by
  cases hs : s.startFailure
  · rcases poll_of_fanOut env hs with ⟨hp, -⟩ | ⟨-, -, hp⟩ | ⟨-, -, -, hp⟩ <;>
      simp [hp, drainNow, drainBranch_fut]
  · rw [poll_of_draining env hs, drainBranch_fut]

theorem run_pending_timer :
    ∀ (envs : List (PollEnv Sp Sv Er L)) (s : OneForOneStartFut Sp Fut Sv Er L),
      s.timer = some s.shutdownTime → (run envs s).result = .pending →
        (run envs s).fut.timer = some s.shutdownTime ∧ (run envs s).fut.shutdownTime = s.shutdownTime
  | [], _, ht, _ => ⟨ht, rfl⟩
  | env :: envs, s, ht, h => by
    simp only [run] at h ⊢
    cases hp : (poll env s).result with
    | ready out => simp only [hp] at h; cases h
    | pending =>
      simp only [hp] at h ⊢
      rw [← poll_shutdownTime env s]
      exact run_pending_timer envs _ (poll_pending_timer env ht hp) h

/-- **A pending start keeps its timer armed, for the start time.** Started from `N` child
specifications, at every point of every run at which the start has not resolved, the timer is
armed with the largest `start_time` of the children plus 10 ms, and so is the shutdown time:
the timer of the drain runs as long as the start timer. -/
theorem pending_timer_armed (S : Specification Sp Fut) (sps : List Sp) (limiter : L)
    (envs : List (PollEnv Sp Sv Er L)) :
    ∃ fut, (OneForOneSpec.mk (sps.map .spec) limiter : OneForOneSpec Sp Fut Sv Er L).start S = some fut ∧
      ((run envs fut).result = .pending →
        (run envs fut).fut.timer =
            some (Duration.saturatingAdd (sps.foldl (fun d sp => max (S.startTime sp) d) 0)
              (Duration.fromMillis 10)) ∧
          (run envs fut).fut.shutdownTime =
            Duration.saturatingAdd (sps.foldl (fun d sp => max (S.startTime sp) d) 0)
              (Duration.fromMillis 10)) :=
  ⟨_, start_map_spec S sps limiter, run_pending_timer envs _ rfl⟩

/-! ## Children that answer at once -/

/-- In a call, every child answers when it is polled: no start future and no supervisee is
pending. -/
def Prompt (env : PollEnv Sp Sv Er L) : Prop :=
  (∀ ph i, env.startPoll ph i ≠ .pending) ∧ ∀ i, env.exitPoll i ≠ .pending

section Prompt

variable {env : PollEnv Sp Sv Er L}

theorem fanOutSlot_ready_of_prompt (h : Prompt env) (i : Nat) (item : OneForOneItem Sp Fut Sv Er) :
    (fanOutSlot env i item).2.1 = true := by
  cases item <;> simp only [fanOutSlot]
  case startFut f =>
    cases ha : env.startPoll .fanOut i with
    | pending => exact absurd ha (h.1 _ _)
    | ready r => rcases r with ⟨_, _⟩ | (_ | _ | _) <;> rfl

/-- A prompt draining pass leaves no slot starting, and settles every slot that was not. -/
theorem drainSlot_of_prompt (h : Prompt env) (i : Nat) (item : OneForOneItem Sp Fut Sv Er) :
    (drainSlot env i item).1.isStartFut = false ∧
      (item.isStartFut = false → (drainSlot env i item).2 = true) := by
  cases item <;> simp only [drainSlot]
  case startFut f =>
    cases ha : env.startPoll .draining i with
    | pending => exact absurd ha (h.1 _ _)
    | ready r => rcases r with ⟨_, _⟩ | (_ | _ | _) <;> exact ⟨rfl, nofun⟩
  case supervisee sv d =>
    cases ha : env.exitPoll i with
    | pending => exact absurd ha (h.2 _)
    | ready r => rcases r with (_ | _) | _ <;> exact ⟨rfl, fun _ => rfl⟩
  all_goals exact ⟨rfl, fun _ => trivial⟩

theorem drainPass_not_startFut (h : Prompt env) :
    ∀ (i : Nat) (items : List (OneForOneItem Sp Fut Sv Er)),
      ∀ x ∈ (drainPass env i items).1, x.isStartFut = false
  | _, [] => fun _ hx => nomatch hx
  | i, item :: rest => by
    simp only [drainPass, List.mem_cons, forall_eq_or_imp]
    exact ⟨(drainSlot_of_prompt h i item).1, drainPass_not_startFut h (i + 1) rest⟩

theorem drainPass_allReady_of_prompt (h : Prompt env) :
    ∀ (i : Nat) (items : List (OneForOneItem Sp Fut Sv Er)),
      (∀ x ∈ items, x.isStartFut = false) → (drainPass env i items).2 = true
  | _, [], _ => rfl
  | i, item :: rest, hs => by
    simp only [List.mem_cons, forall_eq_or_imp] at hs
    simp only [drainPass, (drainSlot_of_prompt h i item).2 hs.1,
      drainPass_allReady_of_prompt h (i + 1) rest hs.2, Bool.and_self]

/-- A prompt fan-out pass that does not break off leaves every slot ready. -/
theorem fanOutPass_allReady_of_prompt (h : Prompt env) :
    ∀ (i : Nat) (limiter : L) (items : List (OneForOneItem Sp Fut Sv Er)),
      (fanOutPass env i limiter items).startFailure = false →
        (fanOutPass env i limiter items).allReady = true
  | _, _, [], _ => rfl
  | i, limiter, item :: rest, hf => by
    simp only [fanOutPass] at hf ⊢
    by_cases hs : (fanOutSlot env i item).2.2
    · by_cases ha : (env.withinLimit i limiter).1
      · simp only [hs, ha, if_true, fanOutSlot_ready_of_prompt h, Bool.true_and] at hf ⊢
        exact fanOutPass_allReady_of_prompt h (i + 1) _ rest hf
      · simp [hs, ha] at hf
    · simp only [hs, Bool.false_eq_true, if_false, fanOutSlot_ready_of_prompt h, Bool.true_and] at hf ⊢
      exact fanOutPass_allReady_of_prompt h (i + 1) limiter rest hf

/-- A prompt call that does not resolve leaves the future draining, with no child starting. -/
theorem poll_pending_of_prompt (h : Prompt env) (s : OneForOneStartFut Sp Fut Sv Er L)
    (hp : (poll env s).result = .pending) :
    (poll env s).fut.startFailure = true ∧ ∀ x ∈ (poll env s).fut.inner.items, x.isStartFut = false := by
  cases hs : s.startFailure
  · rcases poll_of_fanOut env hs with ⟨hq, -⟩ | ⟨-, -, hq⟩ | ⟨hf, ha, -, -⟩
    · rw [hq]
      simp only [drainNow, drainBranch_startFailure, drainBranch_fut, drainPass_freshTimer, true_and]
      exact drainPass_not_startFut h 0 _
    · rw [hq] at hp; cases hp
    · rw [fanOutPass_allReady_of_prompt h 0 _ _ hf] at ha; cases ha
  · rw [poll_of_draining env hs, drainBranch_fut]
    exact ⟨hs, drainPass_not_startFut h 0 _⟩

/-- A prompt call on a draining future with no child starting resolves. -/
theorem poll_ready_of_prompt (h : Prompt env) {s : OneForOneStartFut Sp Fut Sv Er L}
    (hs : s.startFailure = true) (hn : ∀ x ∈ s.inner.items, x.isStartFut = false) :
    ∃ out, (poll env s).result = .ready out := by
  rw [poll_of_draining env hs, drainBranch_result, drainPass_allReady_of_prompt h 0 _ hn,
    Bool.true_or, if_pos rfl]
  exact ⟨_, rfl⟩

end Prompt

/-- A run resolves whenever a suffix of it resolves from every state. -/
theorem run_ready_of_suffix {rest : List (PollEnv Sp Sv Er L)}
    (h : ∀ s : OneForOneStartFut Sp Fut Sv Er L, ∃ out, (run rest s).result = .ready out) :
    ∀ (pre : List (PollEnv Sp Sv Er L)) (s : OneForOneStartFut Sp Fut Sv Er L),
      ∃ out, (run (pre ++ rest) s).result = .ready out
  | [], s => h s
  | env :: pre, s => by
    simp only [List.cons_append, run]
    cases hp : (poll env s).result with
    | ready out => exact ⟨out, hp⟩
    | pending => exact run_ready_of_suffix h pre _

/-- **Children that answer at once end the start in two calls.** In any run, from any state of
the start future, two calls in a row in which no child's start future or supervisee is pending
end the start, at the latest in the second, whatever the limiter and the timers answer. -/
theorem prompt_children_end_start (pre post : List (PollEnv Sp Sv Er L)) {env₁ env₂ : PollEnv Sp Sv Er L}
    (h₁ : Prompt env₁) (h₂ : Prompt env₂) (s : OneForOneStartFut Sp Fut Sv Er L) :
    ∃ out, (run (pre ++ env₁ :: env₂ :: post) s).result = .ready out := by
  refine run_ready_of_suffix (fun s => ?_) pre s
  simp only [run]
  cases hp : (poll env₁ s).result with
  | ready out => exact ⟨out, hp⟩
  | pending =>
    obtain ⟨hs, hn⟩ := poll_pending_of_prompt h₁ s hp
    obtain ⟨out, hq⟩ := poll_ready_of_prompt h₂ hs hn
    exact ⟨out, by simp only [hq]⟩

/-- One call in which every child answers is not always enough: a child that starts while the
future drains keeps the drain pending. -/
example : (poll { quietEnv with startPoll := fun _ i => .ready (.ok (i, ())), exitPoll := fun _ => .ready (.ok none) }
    (⟨⟨[.startFut 0], ()⟩, some 5, 5, true⟩ : OneForOneStartFut Nat Nat Nat Nat Unit)).result = .pending := by
  decide

/-- Every child answers at once: starts complete and supervisees finish. -/
def promptEnv : PollEnv Nat Nat Nat Unit :=
  { quietEnv with startPoll := fun _ _ => .ready (.err .completed), exitPoll := fun _ => .ready (.ok none) }

theorem promptEnv_prompt : Prompt promptEnv := ⟨fun _ _ => nofun, fun _ => nofun⟩

theorem prompt_children_end_start_draining :
    Prompt promptEnv ∧ Prompt promptEnv ∧
      ∃ out, (run ([] ++ [promptEnv, promptEnv]) (⟨⟨[.startFut 0, .supervisee 1 none], ()⟩, some 5, 5, true⟩ :
        OneForOneStartFut Nat Nat Nat Nat Unit)).result = .ready out :=
  ⟨promptEnv_prompt, promptEnv_prompt, prompt_children_end_start [] [] promptEnv_prompt promptEnv_prompt _⟩

end Zestors.OneForOne
