import Zestors.Supervision.OneForOne.Poll

/-! # Slot conservation

Every call of `OneForOneStartFut::poll` rewrites slots in place and nothing else: the slot
vector keeps its length and its order, and each slot moves along `SlotStep`. A start future may
resolve to a running supervisee, a completion, a specification or an irrecoverable error; a
running supervisee may exit, but only while the future drains; no other slot ever changes.
Over a run each slot therefore descends from the child that was started in its place, and the
value a run resolves to (a running supervisee, or the group inside the irrecoverable error)
carries all the slots.
-/

set_option autoImplicit false

namespace Zestors.OneForOne

open Supervision

variable {Sp Fut Sv Er L : Type}

/-- How one call may change one slot; `draining` says whether the call made the draining pass. -/
inductive SlotStep : Bool → OneForOneItem Sp Fut Sv Er → OneForOneItem Sp Fut Sv Er → Prop
  | refl (draining : Bool) (item : OneForOneItem Sp Fut Sv Er) : SlotStep draining item item
  | started (draining : Bool) (f : Fut) (sv : Sv) : SlotStep draining (.startFut f) (.supervisee sv none)
  | completed (draining : Bool) (f : Fut) : SlotStep draining (.startFut f) .completed
  | failed (draining : Bool) (f : Fut) (sp : Sp) : SlotStep draining (.startFut f) (.spec sp)
  | irrecoverable (draining : Bool) (f : Fut) (e : Er) : SlotStep draining (.startFut f) (.irrecoverable e)
  | restarts (sv : Sv) (d : Option Instant) (sp : Sp) : SlotStep true (.supervisee sv d) (.spec sp)
  | finishes (sv : Sv) (d : Option Instant) : SlotStep true (.supervisee sv d) .completed
  | exits (sv : Sv) (d : Option Instant) (e : Er) : SlotStep true (.supervisee sv d) (.irrecoverable e)

namespace SlotStep

theorem draining {a b : OneForOneItem Sp Fut Sv Er} : SlotStep false a b → SlotStep true a b
  | refl _ _ => refl _ _
  | started _ f sv => started _ f sv
  | completed _ f => completed _ f
  | failed _ f sp => failed _ f sp
  | irrecoverable _ f e => irrecoverable _ f e

/-- A fan-out step followed by a draining step, as within one call, is a draining step. -/
theorem trans {a b c : OneForOneItem Sp Fut Sv Er} (h₁ : SlotStep false a b) (h₂ : SlotStep true b c) :
    SlotStep true a c := by
  cases h₁ with
  | refl => exact h₂
  | started _ f =>
    cases h₂ with
    | refl => exact started _ _ _
    | restarts => exact failed _ _ _
    | finishes => exact completed _ _
    | exits => exact irrecoverable _ _ _
  | completed | failed | irrecoverable => cases h₂; constructor

end SlotStep

theorem fanOutSlot_step (env : PollEnv Sp Sv Er L) (i : Nat) (item : OneForOneItem Sp Fut Sv Er) :
    SlotStep false item (fanOutSlot env i item).1 := by
  cases item <;> simp only [fanOutSlot] <;> try split
  all_goals constructor

theorem drainSlot_step (env : PollEnv Sp Sv Er L) (i : Nat) (item : OneForOneItem Sp Fut Sv Er) :
    SlotStep true item (drainSlot env i item).1 := by
  cases item <;> simp only [drainSlot] <;> try split
  all_goals constructor

/-- Two slot-by-slot relations in a row give a third, slot by slot. -/
theorem forall₂_comp {α : Type} {R S T : α → α → Prop} {as bs cs : List α}
    (h₁ : List.Forall₂ R as bs) (h₂ : List.Forall₂ S bs cs) (hRST : ∀ a b c, R a b → S b c → T a c) :
    List.Forall₂ T as cs := by
  induction h₁ generalizing cs with
  | nil => cases h₂; exact .nil
  | cons hab _ ih => cases h₂ with
    | cons hbc hrest => exact .cons (hRST _ _ _ hab hbc) (ih hrest)

theorem forall₂_refl_slotStep (d : Bool) (items : List (OneForOneItem Sp Fut Sv Er)) :
    List.Forall₂ (SlotStep d) items items :=
  List.forall₂_same.mpr fun x _ => SlotStep.refl d x

theorem fanOutPass_step (env : PollEnv Sp Sv Er L) :
    ∀ (i : Nat) (limiter : L) (items : List (OneForOneItem Sp Fut Sv Er)),
      List.Forall₂ (SlotStep false) items (fanOutPass env i limiter items).items
  | _, _, [] => .nil
  | i, limiter, item :: rest => by
    simp only [fanOutPass]
    split
    · split
      · exact .cons (fanOutSlot_step env i item) (fanOutPass_step env _ _ rest)
      · exact .cons (fanOutSlot_step env i item) (forall₂_refl_slotStep false rest)
    · exact .cons (fanOutSlot_step env i item) (fanOutPass_step env _ _ rest)

theorem drainPass_step (env : PollEnv Sp Sv Er L) :
    ∀ (i : Nat) (items : List (OneForOneItem Sp Fut Sv Er)),
      List.Forall₂ (SlotStep true) items (drainPass env i items).1
  | _, [] => .nil
  | i, item :: rest => .cons (drainSlot_step env i item) (drainPass_step env (i + 1) rest)

theorem drainBranch_step (env : PollEnv Sp Sv Er L) (s : OneForOneStartFut Sp Fut Sv Er L) :
    List.Forall₂ (SlotStep true) s.inner.items (drainBranch env s).2.inner.items := by
  rw [drainBranch_fut]
  exact drainPass_step env 0 _

@[simp] theorem drainBranch_startFailure (env : PollEnv Sp Sv Er L) (s : OneForOneStartFut Sp Fut Sv Er L) :
    (drainBranch env s).2.startFailure = s.startFailure := by
  rw [drainBranch_fut]

/-- **One call moves each slot along `SlotStep` at most once**: a running supervisee can exit
only in a call that reached the draining phase. -/
theorem poll_step (env : PollEnv Sp Sv Er L) (s : OneForOneStartFut Sp Fut Sv Er L) :
    List.Forall₂ (SlotStep (poll env s).fut.startFailure) s.inner.items (poll env s).fut.inner.items := by
  cases h : s.startFailure
  · have hf := fanOutPass_step env 0 s.inner.limiter s.inner.items
    rcases poll_of_fanOut env h with ⟨hp, -⟩ | ⟨-, -, hp⟩ | ⟨-, -, -, hp⟩ <;> rw [hp]
    · simp only [drainNow, drainBranch_startFailure]
      exact forall₂_comp hf (drainBranch_step _ ⟨⟨_, _⟩, _, _, _⟩) fun _ _ _ => SlotStep.trans
    · simpa [h] using hf
    · simpa [h] using hf
  · rw [poll_of_draining env h]
    simpa [h] using drainBranch_step env s

/-! ## Each slot follows its own child

`SlotStep` says which kinds of slot one call can turn into which. Which value a slot takes is
fixed by the answers about that slot alone: slot `i` after a call is slot `i` before it, left as
it was or passed through the fan-out loop, the draining loop or both, at index `i`
(`poll_slot_local`). So no child's answer reaches another slot, and no slot is dropped,
duplicated or moved. -/

/-- What one call can make of slot `i` from the answers about slot `i` alone. -/
def slotMoves (env : PollEnv Sp Sv Er L) (i : Nat) :
    List (OneForOneItem Sp Fut Sv Er → OneForOneItem Sp Fut Sv Er) :=
  [id, fun x => (fanOutSlot env i x).1, fun x => (drainSlot env i x).1,
    fun x => (drainSlot env i (fanOutSlot env i x).1).1]

theorem drainPass_getElem? (env : PollEnv Sp Sv Er L) :
    ∀ (i : Nat) (items : List (OneForOneItem Sp Fut Sv Er)) (k : Nat),
      (drainPass env i items).1[k]? = items[k]?.map fun x => (drainSlot env (i + k) x).1
  | _, [], _ => rfl
  | _, _ :: _, 0 => by simp [drainPass]
  | i, _ :: rest, k + 1 => by
    simp only [drainPass, List.getElem?_cons_succ, drainPass_getElem? env (i + 1) rest k]
    rw [show i + 1 + k = i + (k + 1) by omega]

/-- A slot after the fan-out pass is the slot before it, passed through the fan-out loop unless
the pass broke off before reaching it. -/
theorem fanOutPass_getElem? (env : PollEnv Sp Sv Er L) :
    ∀ (i : Nat) (limiter : L) (items : List (OneForOneItem Sp Fut Sv Er)) (k : Nat),
      (fanOutPass env i limiter items).items[k]? = items[k]? ∨
        (fanOutPass env i limiter items).items[k]? = items[k]?.map fun x => (fanOutSlot env (i + k) x).1
  | _, _, [], _ => .inl rfl
  | i, limiter, item :: rest, k => by
    simp only [fanOutPass]
    cases k with
    | zero => split <;> (try split) <;> exact .inr (by simp)
    | succ k =>
      rw [show i + (k + 1) = i + 1 + k by omega]
      split
      · split
        · simpa using fanOutPass_getElem? env (i + 1) _ rest k
        · exact .inl (by simp)
      · simpa using fanOutPass_getElem? env (i + 1) limiter rest k

/-- **Each slot follows its own child.** After a call, slot `i` is slot `i` before it moved by one
of `slotMoves env i`: left as it was, or passed through the fan-out loop, the draining loop or
both, with the answers about slot `i`. -/
theorem poll_slot_local (env : PollEnv Sp Sv Er L) (s : OneForOneStartFut Sp Fut Sv Er L) (i : Nat) :
    ∃ g ∈ slotMoves env i, (poll env s).fut.inner.items[i]? = s.inner.items[i]?.map g := by
  have hf := fanOutPass_getElem? env 0 s.inner.limiter s.inner.items i
  rw [Nat.zero_add] at hf
  cases hs : s.startFailure
  · rcases poll_of_fanOut env hs with ⟨hp, -⟩ | ⟨-, -, hp⟩ | ⟨-, -, -, hp⟩ <;> rw [hp]
    · simp only [drainNow, drainBranch_fut, drainPass_freshTimer, drainPass_getElem?, Nat.zero_add]
      rcases hf with h | h <;> rw [h]
      · exact ⟨fun x => (drainSlot env i x).1, .tail _ (.tail _ (.head _)), rfl⟩
      · exact ⟨fun x => (drainSlot env i (fanOutSlot env i x).1).1, .tail _ (.tail _ (.tail _ (.head _))),
          by rw [Option.map_map]; rfl⟩
    all_goals
      rcases hf with h | h
      · exact ⟨id, .head _, by simpa using h⟩
      · exact ⟨fun x => (fanOutSlot env i x).1, .tail _ (.head _), h⟩
  · rw [poll_of_draining env hs, drainBranch_fut]
    exact ⟨fun x => (drainSlot env i x).1, .tail _ (.tail _ (.head _)),
      by rw [drainPass_getElem?, Nat.zero_add]⟩

/-! ## Runs -/

/-- The slots a resolved start carries: those of the running supervisee, or of the group inside
the irrecoverable error. The other verdicts carry none. -/
def resolvedSlots : Output Sp Fut Sv Er L → Option (List (OneForOneItem Sp Fut Sv Er))
  | .ok (sup, _) => sup.inner.map (·.items)
  | .err (.irrecoverable e) => some e.spec.items
  | .err _ => none

theorem resolvedSlots_takeStartNow (inner : OneForOneSpec Sp Fut Sv Er L) :
    resolvedSlots (takeStartNow inner) = some inner.items := by
  rw [takeStartNow_eq]; split <;> rfl

theorem drainBranch_resolved (env : PollEnv Sp Sv Er L) (s : OneForOneStartFut Sp Fut Sv Er L)
    {out : Output Sp Fut Sv Er L} (h : (drainBranch env s).1 = .ready out) :
    resolvedSlots out = some (drainBranch env s).2.inner.items := by
  rw [drainBranch_result] at h
  split at h
  · cases h; rw [drainBranch_fut]; exact resolvedSlots_takeStartNow _
  · cases h

/-- What a call resolves to carries the slots the call leaves. -/
theorem poll_resolved (env : PollEnv Sp Sv Er L) (s : OneForOneStartFut Sp Fut Sv Er L)
    {out : Output Sp Fut Sv Er L} (h : (poll env s).result = .ready out) :
    resolvedSlots out = some (poll env s).fut.inner.items := by
  cases hs : s.startFailure
  · rcases poll_of_fanOut env hs with ⟨hp, -⟩ | ⟨-, -, hp⟩ | ⟨-, -, -, hp⟩ <;> rw [hp] at h ⊢
    · exact drainBranch_resolved _ _ h
    · cases h; rfl
    · cases h
  · rw [poll_of_draining env hs] at h ⊢
    exact drainBranch_resolved env s h

theorem poll_step_draining (env : PollEnv Sp Sv Er L) (s : OneForOneStartFut Sp Fut Sv Er L) :
    List.Forall₂ (SlotStep true) s.inner.items (poll env s).fut.inner.items :=
  (poll_step env s).imp fun _ _ h => by
    cases hd : (poll env s).fut.startFailure <;> rw [hd] at h
    exacts [h.draining, h]

/-- Over a run, each slot descends from the slot in its place at the start, and the value the
run resolves to carries the slots it leaves. -/
theorem run_slots :
    ∀ (envs : List (PollEnv Sp Sv Er L)) (s : OneForOneStartFut Sp Fut Sv Er L),
      List.Forall₂ (Relation.ReflTransGen (SlotStep true)) s.inner.items (run envs s).fut.inner.items ∧
        ∀ out, (run envs s).result = .ready out → resolvedSlots out = some (run envs s).fut.inner.items
  | [], s => ⟨List.forall₂_same.mpr fun _ _ => .refl, fun _ h => nomatch h⟩
  | env :: envs, s => by
    have hstep := (poll_step_draining env s).imp fun _ _ h => Relation.ReflTransGen.single h
    simp only [run]
    split
    · exact ⟨hstep, fun _ h => poll_resolved env s h⟩
    · obtain ⟨ih, hres⟩ := run_slots envs (poll env s).fut
      exact ⟨forall₂_comp hstep ih fun _ _ _ => Relation.ReflTransGen.trans, hres⟩

/-- **Slot conservation.** Started from `N` child specifications, the future holds their start
futures in insertion order. Every call changes each slot at most along `SlotStep`, where a
running supervisee exits only in a call that drained. Over any run the slot vector keeps its
`N` slots, slot `i` descending from child `i`, and what the run resolves to, the running
supervisee or the group inside the irrecoverable error, carries all of them. -/
theorem slot_conservation (S : Specification Sp Fut) (sps : List Sp) (limiter : L)
    (envs : List (PollEnv Sp Sv Er L)) :
    (∀ (env : PollEnv Sp Sv Er L) (s : OneForOneStartFut Sp Fut Sv Er L),
        List.Forall₂ (SlotStep (poll env s).fut.startFailure) s.inner.items (poll env s).fut.inner.items) ∧
      ∃ fut, (OneForOneSpec.mk (sps.map .spec) limiter).start S = some fut ∧
        fut.inner.items = sps.map (fun sp => .startFut (S.start sp)) ∧
        (run envs fut).fut.inner.items.length = sps.length ∧
        List.Forall₂ (Relation.ReflTransGen (SlotStep true)) fut.inner.items (run envs fut).fut.inner.items ∧
        ∀ out, (run envs fut).result = .ready out → resolvedSlots out = some (run envs fut).fut.inner.items := by
  refine ⟨poll_step, _, start_map_spec S sps limiter, rfl, ?_, run_slots envs _⟩
  rw [← (run_slots envs _).1.length_eq]
  simp

end Zestors.OneForOne
