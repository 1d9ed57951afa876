import Zestors.Supervision.OneForOne.Progress

/-! # The deadline of a start

`OneForOneSpec::start` arms the timer of the start future with the largest `start_time` of the
children plus 10 ms (`saturating_add`), and passes the same duration as the shutdown time that
the drain re-arms the timer with. The slack is there so that the timer of the slowest child
fires before the group's: the group's deadline outlasts every child's by 10 ms, unless it
saturates at `Duration::MAX` (`start_deadline_outlasts_children`).

A one-for-one group is itself a `Specification` (`impl Specification for OneForOneSpec`), so a
group can hold groups among its children; the `DynSpec` of a child dispatches to the child's
own kind. One level of nesting is modelled here: a parent whose children are leaf
specifications or groups of leaf specifications (`NestedChild`), with the dispatch
`nestedSpecification`. A nested group is a `Group`, all of whose slots are specifications, as
every group a caller can build is, so its own `start` never panics. `OneForOneSpec::start_time`
is `Duration::MAX`, so one nested group among the children saturates the parent's deadline: the
parent arms its start timer, and its shutdown time, with `Duration::MAX`, and the timer stays so
while the start is pending (`nested_group_no_deadline`).
-/

set_option autoImplicit false

namespace Zestors.OneForOne

open Supervision

variable {Sp Fut Sv Er L Sv₂ Er₂ L₂ : Type}

/-! ## The slack -/

/-- The `max` fold of `start` is at least its initial value and every child's start time. -/
theorem le_foldl_max {α : Type} (f : α → Duration) :
    ∀ (l : List α) (d : Duration), d ≤ l.foldl (fun d a => max (f a) d) d ∧
      ∀ x ∈ l, f x ≤ l.foldl (fun d a => max (f a) d) d
  | [], _ => ⟨le_rfl, fun _ h => nomatch h⟩
  | a :: l, d => by
    obtain ⟨h₁, h₂⟩ := le_foldl_max f l (max (f a) d)
    simp only [List.foldl_cons, List.mem_cons, forall_eq_or_imp]
    exact ⟨(le_max_right _ _).trans h₁, (le_max_left _ _).trans h₁, h₂⟩

/-- `saturating_add` onto a duration already at `Duration::MAX` stays there. -/
theorem saturatingAdd_of_le {a : Duration} (h : durationMax ≤ a) (b : Duration) :
    Duration.saturatingAdd a b = durationMax :=
  Nat.min_eq_right (Nat.le_add_right_of_le h)

theorem le_saturatingAdd {a c : Duration} (h : c ≤ a) (b : Duration) :
    c + b ≤ Duration.saturatingAdd a b ∨ Duration.saturatingAdd a b = durationMax := by
  unfold Duration.saturatingAdd Duration at *
  omega

/-- **A group's deadline outlasts each child's by the slack.** `start` on a group of child
specifications arms the timer with the shutdown time, a duration that is at most
`Duration::MAX` and that exceeds the `start_time` of every child by 10 ms, unless it saturates
at `Duration::MAX`. -/
theorem start_deadline_outlasts_children (S : Specification Sp Fut) (sps : List Sp) (limiter : L) :
    ∃ fut, (OneForOneSpec.mk (sps.map .spec) limiter : OneForOneSpec Sp Fut Sv Er L).start S = some fut ∧
      fut.timer = some fut.shutdownTime ∧ fut.shutdownTime ≤ durationMax ∧
      ∀ sp ∈ sps, S.startTime sp + Duration.fromMillis 10 ≤ fut.shutdownTime ∨
        fut.shutdownTime = durationMax :=
  ⟨_, start_map_spec S sps limiter, rfl, Nat.min_le_right _ _,
    fun sp hsp => le_saturatingAdd ((le_foldl_max S.startTime sps 0).2 sp hsp) _⟩

/-! ## Nested groups -/

/-- `Specification::start_time` for `OneForOneSpec`. -/
def OneForOneSpec.startTime (_ : OneForOneSpec Sp Fut Sv Er L) : Duration := durationMax

/-- A child of a parent group: a leaf specification, or a group of leaf specifications. -/
abbrev NestedChild (Sp Fut Sv Er L : Type) := Sp ⊕ Group Sp Fut Sv Er L

/-- The start future of such a child: the leaf's, or the nested group's. -/
abbrev NestedStartFut (Sp Fut Sv Er L : Type) := Fut ⊕ OneForOneStartFut Sp Fut Sv Er L

/-- The `DynSpec` methods of a child, dispatched to its kind. -/
def nestedSpecification (S : Specification Sp Fut) :
    Specification (NestedChild Sp Fut Sv Er L) (NestedStartFut Sp Fut Sv Er L) where
  startTime := fun
    | .inl sp => S.startTime sp
    | .inr g => g.1.startTime
  start := fun
    | .inl sp => .inl (S.start sp)
    | .inr g => .inr (g.start S)

/-- **A nested group takes away its parent's deadline.** When one of the children of a group
is itself a group of specifications, `start` arms the parent's timer with `Duration::MAX`, which is
also the shutdown time, and over every run the timer stays armed with `Duration::MAX` while the
start is pending. -/
theorem nested_group_no_deadline (S : Specification Sp Fut)
    (children : List (NestedChild Sp Fut Sv Er L)) (limiter : L₂)
    (envs : List (PollEnv (NestedChild Sp Fut Sv Er L) Sv₂ Er₂ L₂))
    (h : ∃ g, .inr g ∈ children) :
    ∃ fut, (OneForOneSpec.mk (children.map .spec) limiter :
        OneForOneSpec (NestedChild Sp Fut Sv Er L) (NestedStartFut Sp Fut Sv Er L) Sv₂ Er₂ L₂).start
        (nestedSpecification S) = some fut ∧
      fut.timer = some durationMax ∧ fut.shutdownTime = durationMax ∧
      ((run envs fut).result = .pending → (run envs fut).fut.timer = some durationMax) := by
  obtain ⟨g, hg⟩ := h
  have ht : Duration.saturatingAdd
      (children.foldl (fun d c => max ((nestedSpecification S).startTime c) d) 0)
      (Duration.fromMillis 10) = durationMax :=
    saturatingAdd_of_le ((le_foldl_max (nestedSpecification S).startTime children 0).2 (.inr g) hg) _
  refine ⟨_, start_map_spec _ children limiter, congrArg some ht, ht, fun hp => ?_⟩
  rw [(run_pending_timer envs _ rfl hp).1]
  exact congrArg some ht

theorem nested_group_no_deadline_leaf_and_group :
    let S : Specification Nat Nat := ⟨fun _ => 0, id⟩
    let children : List (NestedChild Nat Nat Unit Unit Unit) := [.inl 3, .inr ⟨OneForOneSpec.new (), rfl⟩]
    (∃ g, .inr g ∈ children) ∧
      ∃ fut, (OneForOneSpec.mk (children.map .spec) () :
          OneForOneSpec (NestedChild Nat Nat Unit Unit Unit) (NestedStartFut Nat Nat Unit Unit Unit)
            Unit Unit Unit).start (nestedSpecification S) = some fut ∧
        fut.timer = some durationMax ∧ fut.shutdownTime = durationMax ∧
        ((run ([] : List (PollEnv (NestedChild Nat Nat Unit Unit Unit) Unit Unit Unit)) fut).result =
            .pending → (run [] fut).fut.timer = some durationMax) :=
  have hg : ∃ g, (.inr g : NestedChild Nat Nat Unit Unit Unit) ∈
      [.inl 3, .inr ⟨OneForOneSpec.new (), rfl⟩] := ⟨_, List.mem_cons_of_mem _ (List.mem_singleton_self _)⟩
  ⟨hg, nested_group_no_deadline _ _ () [] hg⟩

end Zestors.OneForOne
