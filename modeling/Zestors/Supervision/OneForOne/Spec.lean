import Zestors.Supervision.Contract

/-! # One-for-one specifications

`OneForOneSpec` (`one_for_one.rs`) owns an ordered vector of child slots and a restart
limiter. A slot (`OneForOneItem`) holds a child's specification, its start future, its
running supervisee, the error it failed with for good, or the mark that it completed. The
builder (`new`, `add_spec`, `with_spec`, `pop_spec`) pushes and pops specifications at the
end of the vector.

`RestartLimiter`, whose code is not among the sources, is the type parameter `L`: the model
never looks inside it, and `OneForOneSpec.new` receives it built (the sources build it with
`RestartLimiter::new(limit, within)`).
-/

set_option autoImplicit false

namespace Zestors.OneForOne

open Supervision

variable {Sp Fut Sv Er L : Type}

/-- `OneForOneItem`: the state of one child slot. -/
inductive OneForOneItem (Sp Fut Sv Er : Type) where
  | spec (spec : Sp)
  | startFut (fut : Fut)
  | supervisee (supervisee : Sv) (deadline : Option Instant)
  | irrecoverable (error : Er)
  | completed
  deriving Repr, DecidableEq

namespace OneForOneItem

/-- The slot holds a specification (`OneForOneItem::Spec`). -/
def isSpec : OneForOneItem Sp Fut Sv Er → Bool
  | .spec _ => true
  | _ => false

/-- The slot holds a start future (`OneForOneItem::StartFut`). -/
def isStartFut : OneForOneItem Sp Fut Sv Er → Bool
  | .startFut _ => true
  | _ => false

/-- `OneForOneItem::start`: a `Spec` slot becomes the start future of its specification. Any
other slot is an error; the sources leave such a slot `Completed`, which no caller sees, since
every caller `expect`s success. -/
def start (S : Specification Sp Fut) :
    OneForOneItem Sp Fut Sv Er → Option (OneForOneItem Sp Fut Sv Er)
  | .spec sp => some (.startFut (S.start sp))
  | _ => none

theorem isSpec_iff {item : OneForOneItem Sp Fut Sv Er} : item.isSpec = true ↔ ∃ sp, item = .spec sp := by
  cases item <;> simp [isSpec]

end OneForOneItem

/-- `OneForOneSpec`: the child slots, in the order they were added, and the restart limiter. -/
structure OneForOneSpec (Sp Fut Sv Er L : Type) where
  items : List (OneForOneItem Sp Fut Sv Er)
  limiter : L
  deriving Repr, DecidableEq

namespace OneForOneSpec

/-- `OneForOneSpec::new`: no slots, and the limiter `RestartLimiter::new(limit, within)`. -/
def new (limiter : L) : OneForOneSpec Sp Fut Sv Er L := ⟨[], limiter⟩

/-- `OneForOneSpec::add_spec`: push a specification slot at the end. -/
def addSpec (s : OneForOneSpec Sp Fut Sv Er L) (spec : Sp) : OneForOneSpec Sp Fut Sv Er L :=
  { s with items := s.items ++ [.spec spec] }

/-- `OneForOneSpec::with_spec`: `add_spec`, returning the specification. -/
def withSpec (s : OneForOneSpec Sp Fut Sv Er L) (spec : Sp) : OneForOneSpec Sp Fut Sv Er L :=
  s.addSpec spec

/-- The loop of `pop_spec`, on the vector read from its end (`Vec::pop` takes the head of
`items.reverse`): slots that are not specifications are popped and dropped until a
specification comes off or the vector is empty. -/
def popLoop : List (OneForOneItem Sp Fut Sv Er) → List (OneForOneItem Sp Fut Sv Er) × Option Sp
  | [] => ([], none)
  | .spec sp :: rest => (rest, some sp)
  | _ :: rest => popLoop rest

/-- `OneForOneSpec::pop_spec`: the specification after the call, and the popped specification. -/
def popSpec (s : OneForOneSpec Sp Fut Sv Er L) : OneForOneSpec Sp Fut Sv Er L × Option Sp :=
  let r := popLoop s.items.reverse
  ({ s with items := r.1.reverse }, r.2)

/-- Every slot is a specification. -/
def onlySpecs (s : OneForOneSpec Sp Fut Sv Er L) : Bool := s.items.all (·.isSpec)

theorem onlySpecs_iff (s : OneForOneSpec Sp Fut Sv Er L) :
    s.onlySpecs = true ↔ ∀ item ∈ s.items, item.isSpec = true := List.all_eq_true

@[simp] theorem onlySpecs_new (limiter : L) : (new limiter : OneForOneSpec Sp Fut Sv Er L).onlySpecs := rfl

@[simp] theorem onlySpecs_addSpec (s : OneForOneSpec Sp Fut Sv Er L) (spec : Sp) :
    (s.addSpec spec).onlySpecs = s.onlySpecs := by
  simp [onlySpecs, addSpec, OneForOneItem.isSpec]

theorem popLoop_fst_subset : ∀ (r : List (OneForOneItem Sp Fut Sv Er)), (popLoop r).1 ⊆ r
  | [] => List.Subset.refl _
  | .spec _ :: _ => List.subset_cons_self _ _
  | .startFut _ :: rest | .supervisee _ _ :: rest | .irrecoverable _ :: rest | .completed :: rest =>
      List.Subset.trans (popLoop_fst_subset rest) (List.subset_cons_self _ _)

theorem onlySpecs_popSpec {s : OneForOneSpec Sp Fut Sv Er L} (h : s.onlySpecs = true) :
    s.popSpec.1.onlySpecs = true := by
  rw [onlySpecs_iff] at h ⊢
  intro item hi
  exact h item (List.mem_reverse.mp (popLoop_fst_subset _ (List.mem_reverse.mp hi)))

/-- On a vector of specifications, `pop_spec` removes exactly the last slot and returns its
specification. -/
theorem popSpec_of_onlySpecs {s : OneForOneSpec Sp Fut Sv Er L} (h : s.onlySpecs = true) :
    s.popSpec.1 = { s with items := s.items.dropLast } ∧
      s.popSpec.2.map .spec = s.items.getLast? := by
  rw [onlySpecs_iff] at h
  cases hr : s.items.reverse with
  | nil => simp_all [popSpec, popLoop]
  | cons x rest =>
    have hx : x ∈ s.items := List.mem_reverse.mp (hr ▸ List.mem_cons_self x rest)
    obtain ⟨sp, rfl⟩ := OneForOneItem.isSpec_iff.mp (h x hx)
    have hrest : rest = s.items.dropLast.reverse := by rw [← List.tail_reverse, hr]; rfl
    simp [popSpec, popLoop, hr, hrest, List.getLast?_eq_head?_reverse]

end OneForOneSpec

end Zestors.OneForOne
