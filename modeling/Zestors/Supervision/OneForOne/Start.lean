import Zestors.Supervision.OneForOne.Verdict

/-! # Starting a group

`Specification::start` for `OneForOneSpec`. The group's timer is the largest `start_time` of
its children plus 10 ms, and every slot becomes the start future of its specification; both
steps panic on a slot that is not a specification. The builder and the `Failed` verdict of
`take_start_now` hand out only specifications (`obtainable_onlySpecs`), so no group a caller
can obtain makes `start` panic.
-/

set_option autoImplicit false

namespace Zestors.OneForOne

open Supervision

variable {Sp Fut Sv Er L : Type}

/-- `OneForOneStartFut`. The sources keep `inner` in an `Option` so that the group can be
moved out when the future resolves; the model keeps it in place, and a run
(`Zestors/Supervision/OneForOne/Poll.lean`) stops at the first `Ready`. -/
structure OneForOneStartFut (Sp Fut Sv Er L : Type) where
  inner : OneForOneSpec Sp Fut Sv Er L
  /-- The duration the running timer was armed with; `None` once it has fired. -/
  timer : Option Duration
  shutdownTime : Duration
  startFailure : Bool
  deriving Repr, DecidableEq

/-- `OneForOneStartFut::new`: the timer armed with `start_time`, in the fan-out phase. -/
def OneForOneStartFut.new (inner : OneForOneSpec Sp Fut Sv Er L) (startTime shutdownTime : Duration) :
    OneForOneStartFut Sp Fut Sv Er L :=
  ⟨inner, some startTime, shutdownTime, false⟩

/-- The `start_time` fold of `Specification::start`: the largest `start_time` of the slots.
`none` is its `panic!()` on a slot that is not a specification. -/
def startTimeFold (S : Specification Sp Fut) (items : List (OneForOneItem Sp Fut Sv Er)) :
    Option Duration :=
  items.foldlM (fun d item => match item with
    | .spec sp => some (max (S.startTime sp) d)
    | _ => none) 0

/-- `Specification::start` for `OneForOneSpec`; `none` is a panic. The shutdown time is the
start time too. -/
def OneForOneSpec.start (S : Specification Sp Fut) (s : OneForOneSpec Sp Fut Sv Er L) :
    Option (OneForOneStartFut Sp Fut Sv Er L) := do
  let startTime := Duration.saturatingAdd (← startTimeFold S s.items) (Duration.fromMillis 10)
  let items ← s.items.mapM (OneForOneItem.start S)
  pure (OneForOneStartFut.new { s with items } startTime startTime)

theorem forall_isSpec_iff_eq_map :
    ∀ items : List (OneForOneItem Sp Fut Sv Er),
      (∀ item ∈ items, item.isSpec = true) ↔ ∃ sps : List Sp, items = sps.map .spec
  | [] => ⟨fun _ => ⟨[], rfl⟩, fun _ _ h => nomatch h⟩
  | item :: rest => by
    rw [List.forall_mem_cons, forall_isSpec_iff_eq_map rest, OneForOneItem.isSpec_iff]
    constructor
    · rintro ⟨⟨sp, rfl⟩, sps, rfl⟩
      exact ⟨sp :: sps, rfl⟩
    · rintro ⟨_ | ⟨sp, sps⟩, h⟩ <;> simp only [List.map, List.cons.injEq, reduceCtorEq] at h
      exact ⟨⟨sp, h.1⟩, sps, h.2⟩

theorem onlySpecs_iff_eq_map {s : OneForOneSpec Sp Fut Sv Er L} :
    s.onlySpecs = true ↔ ∃ sps : List Sp, s.items = sps.map .spec :=
  (OneForOneSpec.onlySpecs_iff s).trans (forall_isSpec_iff_eq_map s.items)

theorem foldlM_startTime_map_spec (S : Specification Sp Fut) :
    ∀ (sps : List Sp) (d : Duration),
      (sps.map .spec : List (OneForOneItem Sp Fut Sv Er)).foldlM
          (fun d item => match item with
            | .spec sp => some (max (S.startTime sp) d)
            | _ => none) d =
        some (sps.foldl (fun d sp => max (S.startTime sp) d) d)
  | [], _ => rfl
  | _ :: sps, _ => foldlM_startTime_map_spec S sps _

theorem startTimeFold_map_spec (S : Specification Sp Fut) (sps : List Sp) :
    startTimeFold S (sps.map .spec : List (OneForOneItem Sp Fut Sv Er)) =
      some (sps.foldl (fun d sp => max (S.startTime sp) d) 0) :=
  foldlM_startTime_map_spec S sps 0

theorem mapM_start_map_spec (S : Specification Sp Fut) (sps : List Sp) :
    (sps.map .spec : List (OneForOneItem Sp Fut Sv Er)).mapM (OneForOneItem.start S) =
      some (sps.map fun sp => .startFut (S.start sp)) := by
  induction sps with
  | nil => rfl
  | cons sp sps ih => rw [List.map_cons, List.mapM_cons, ih]; rfl

/-- On a group of specifications, `start` does not panic: every slot becomes the start future
of its specification, in order, and the timer is armed with the largest `start_time` plus
10 ms, which is also the shutdown time. -/
theorem start_map_spec (S : Specification Sp Fut) (sps : List Sp) (limiter : L) :
    (OneForOneSpec.mk (sps.map .spec) limiter : OneForOneSpec Sp Fut Sv Er L).start S =
      let t := Duration.saturatingAdd (sps.foldl (fun d sp => max (S.startTime sp) d) 0)
        (Duration.fromMillis 10)
      some ⟨⟨sps.map fun sp => .startFut (S.start sp), limiter⟩, some t, t, false⟩ := by
  simp only [OneForOneSpec.start, startTimeFold_map_spec, mapM_start_map_spec]
  rfl

/-! ## The groups a caller can obtain -/

/-- The groups a caller can obtain: built from `new` by `add_spec`, `with_spec` and
`pop_spec`, or handed back by a `StartError::Failed` verdict of `take_start_now`. -/
inductive Obtainable : OneForOneSpec Sp Fut Sv Er L → Prop
  | new (limiter : L) : Obtainable (.new limiter)
  | addSpec {s : OneForOneSpec Sp Fut Sv Er L} (spec : Sp) : Obtainable s → Obtainable (s.addSpec spec)
  | withSpec {s : OneForOneSpec Sp Fut Sv Er L} (spec : Sp) : Obtainable s → Obtainable (s.withSpec spec)
  | popSpec {s : OneForOneSpec Sp Fut Sv Er L} : Obtainable s → Obtainable s.popSpec.1
  | failed (inner : OneForOneSpec Sp Fut Sv Er L) {s : OneForOneSpec Sp Fut Sv Er L} :
      takeStartNow inner = .err (.failed s) → Obtainable s

theorem Obtainable.onlySpecs {s : OneForOneSpec Sp Fut Sv Er L} (h : Obtainable s) :
    s.onlySpecs = true := by
  induction h with
  | new => rfl
  | addSpec _ _ ih | withSpec _ _ ih => simpa [OneForOneSpec.withSpec] using ih
  | popSpec _ ih => exact OneForOneSpec.onlySpecs_popSpec ih
  | failed inner h => exact absurd h (takeStartNow_ne_failed inner _)

/-- **Every group a caller can obtain holds only specifications**, so `start` reaches neither
the `panic!()` of its fold nor the `expect("Is a spec")`, and `pop_spec` removes exactly the
last slot and returns it. -/
theorem obtainable_onlySpecs (S : Specification Sp Fut) {s : OneForOneSpec Sp Fut Sv Er L}
    (h : Obtainable s) :
    s.onlySpecs = true ∧ (startTimeFold S s.items).isSome ∧ (s.items.mapM (OneForOneItem.start S)).isSome ∧
      s.popSpec.1 = { s with items := s.items.dropLast } ∧ s.popSpec.2.map .spec = s.items.getLast? := by
  have hs := h.onlySpecs
  obtain ⟨sps, hsps⟩ := onlySpecs_iff_eq_map.mp hs
  refine ⟨hs, ?_, ?_, OneForOneSpec.popSpec_of_onlySpecs hs⟩
  · rw [hsps, startTimeFold_map_spec]; rfl
  · rw [hsps, mapM_start_map_spec]; rfl

theorem obtainable_onlySpecs_two_children :
    let s : OneForOneSpec Nat Nat Unit Unit Unit := ((OneForOneSpec.new ()).addSpec 1).withSpec 2
    let S : Specification Nat Nat := ⟨fun _ => 0, id⟩
    Obtainable s ∧ s.onlySpecs = true ∧ (startTimeFold S s.items).isSome ∧
      (s.items.mapM (OneForOneItem.start S)).isSome ∧
      s.popSpec.1 = { s with items := s.items.dropLast } ∧ s.popSpec.2.map .spec = s.items.getLast? :=
  have h : Obtainable (((OneForOneSpec.new () : OneForOneSpec Nat Nat Unit Unit Unit).addSpec 1).withSpec 2) :=
    .withSpec 2 (.addSpec 1 (.new ()))
  ⟨h, obtainable_onlySpecs ⟨fun _ => 0, id⟩ h⟩

/-! ## Groups of specifications -/

/-- A group whose every slot is a specification, as every group a caller can obtain is. -/
abbrev Group (Sp Fut Sv Er L : Type) := { s : OneForOneSpec Sp Fut Sv Er L // s.onlySpecs = true }

theorem start_isSome_of_onlySpecs (S : Specification Sp Fut) {s : OneForOneSpec Sp Fut Sv Er L}
    (h : s.onlySpecs = true) : (s.start S).isSome := by
  obtain ⟨sps, hs⟩ := onlySpecs_iff_eq_map.mp h
  obtain ⟨items, limiter⟩ := s
  cases hs
  rw [start_map_spec]
  rfl

/-- `Specification::start` on a group of specifications, which never reaches a panic. -/
def Group.start (S : Specification Sp Fut) (g : Group Sp Fut Sv Er L) : OneForOneStartFut Sp Fut Sv Er L :=
  (g.1.start S).get (start_isSome_of_onlySpecs S g.2)

theorem Group.start_eq (S : Specification Sp Fut) (g : Group Sp Fut Sv Er L) :
    g.1.start S = some (g.start S) :=
  (Option.some_get _).symm

end Zestors.OneForOne
