/-
Runs of machines, over any states, inputs and outputs.

Two kinds. A REACTIVE machine is a total function `step` from a state
and an input to the next state and an output: `runState` and `outputs`
are its runs. A system of parties that wait for one another is a partial
function `apply`, where `none` says the action is not enabled: `Moves`
relates a state to the states it can reach by the actions of some of the
parties only, and `Mathlib`'s `ReflTransGen` does the rest.

# The rules

- `runState_inv`: what one step preserves, a run preserves;
- `runState_refines`: a run of the machine stays related to the run of
  an abstract machine over the same inputs;
- `outputs_at`: the output at a position is the step's output in the
  state the prefix leaves;
- `lockstep`: two machines whose related states answer alike give the
  same outputs along any inputs, as long as each step meets a side
  condition `G` on the first machine's state (`Along`);
- `Moves.project`: a part of the state that every action leaves alone or
  moves as a machine of its own does, is a run of that machine;
- `exec_length_le`, `exists_rest`: actions that count a measure down come
  to an end, however they are chosen;
- `exec_filter`: actions that leave the state as it is may be left out.
-/
import Mathlib.Logic.Relation
import Mathlib.Data.List.Basic
import Mathlib.Data.List.Forall2
import Mathlib.Tactic.Push

namespace Lib.Machine

universe u v w x

-- ================================================== reactive machines

section Reactive

variable {S : Type u} {I : Type v} {O : Type w} (step : S → I → S × O)

/-- The state a list of inputs leaves. -/
def runState (s : S) (is : List I) : S :=
  is.foldl (fun s i => (step s i).1) s

/-- The outputs a list of inputs produces, in order. -/
def outputs : S → List I → List O
  | _, [] => []
  | s, i :: is => (step s i).2 :: outputs (step s i).1 is

@[simp] theorem runState_nil (s : S) : runState step s [] = s := rfl

@[simp] theorem runState_cons (s : S) (i : I) (is : List I) :
    runState step s (i :: is) = runState step (step s i).1 is := rfl

theorem runState_append (s : S) (is js : List I) :
    runState step s (is ++ js) = runState step (runState step s is) js :=
  List.foldl_append ..

theorem outputs_append (s : S) (is js : List I) :
    outputs step s (is ++ js)
      = outputs step s is ++ outputs step (runState step s is) js := by
  induction is generalizing s with
  | nil => rfl
  | cons i is ih =>
      rw [List.cons_append, outputs, outputs, ih, List.cons_append]
      rfl

theorem length_outputs (s : S) (is : List I) :
    (outputs step s is).length = is.length := by
  induction is generalizing s with
  | nil => rfl
  | cons i is ih => rw [outputs, List.length_cons, List.length_cons, ih]

/-- The output at a position is the step's, in the state its prefix
leaves. -/
theorem outputs_at (s : S) (pre : List I) (i : I) (post : List I) :
    (outputs step s (pre ++ i :: post))[pre.length]?
      = some (step (runState step s pre) i).2 := by
  have hlen := length_outputs step s pre
  rw [outputs_append, List.getElem?_append_right (by omega), hlen,
    Nat.sub_self, outputs]
  rfl

/-- An output of a run is the output of one of its steps. -/
theorem mem_outputs {s : S} {is : List I} {o : O} :
    o ∈ outputs step s is
      ↔ ∃ pre i post, is = pre ++ i :: post
        ∧ (step (runState step s pre) i).2 = o := by
  constructor
  · intro ho
    induction is generalizing s with
    | nil => cases ho
    | cons i is ih =>
        rcases List.mem_cons.mp ho with rfl | ho
        · exact ⟨[], i, is, rfl, rfl⟩
        · obtain ⟨pre, j, post, rfl, hj⟩ := ih ho
          exact ⟨i :: pre, j, post, rfl, hj⟩
  · intro hstep
    obtain ⟨pre, i, post, rfl, ho⟩ := hstep
    rw [outputs_append, outputs, ho]
    exact List.mem_append_right _ (List.mem_cons_self ..)

/-- What every step preserves, a run preserves. -/
theorem runState_inv {P : S → Prop} (hstep : ∀ s i, P s → P (step s i).1)
    {s : S} (hs : P s) (is : List I) : P (runState step s is) := by
  induction is generalizing s with
  | nil => exact hs
  | cons i is ih => exact ih (hstep s i hs)

/-- A run stays related to the run of an abstract machine that every
step respects. -/
theorem runState_refines {A : Type x} {astep : A → I → A}
    {R : S → A → Prop}
    (hstep : ∀ s a i, R s a → R (step s i).1 (astep a i))
    {s : S} {a : A} (h : R s a) (is : List I) :
    R (runState step s is) (is.foldl astep a) := by
  induction is generalizing s a with
  | nil => exact h
  | cons i is ih => exact ih (hstep s a i h)

/-- Every step of the run from `s` meets `G` in the state it starts
from. -/
def Along (G : S → I → Prop) : S → List I → Prop
  | _, [] => True
  | s, i :: is => G s i ∧ Along G (step s i).1 is

/-- Along a run, a condition on the steps may use that the input is one
of the run's. -/
theorem Along.imp_mem {G G' : S → I → Prop} {s : S} {is : List I}
    (himp : ∀ s, ∀ i ∈ is, G s i → G' s i) (h : Along step G s is) :
    Along step G' s is := by
  induction is generalizing s with
  | nil => trivial
  | cons i is ih =>
      refine ⟨himp s i (List.mem_cons_self ..) h.1, ih ?_ h.2⟩
      exact fun s' i' hi' => himp s' i' (List.mem_cons_of_mem _ hi')

theorem Along.of_forall {G : S → I → Prop} (h : ∀ s i, G s i) (s : S)
    (is : List I) : Along step G s is := by
  induction is generalizing s with
  | nil => trivial
  | cons i is ih => exact ⟨h s i, ih _⟩

/-- Two machines that answer alike from related states answer alike
along any inputs whose steps meet `G`. -/
theorem lockstep {S' : Type x} {step' : S' → I → S' × O}
    {R : S → S' → Prop} {E : O → O → Prop} {G : S → I → Prop}
    (hstep : ∀ s s' i, R s s' → G s i →
      R (step s i).1 (step' s' i).1 ∧ E (step s i).2 (step' s' i).2)
    {s : S} {s' : S'} (h : R s s') {is : List I}
    (hG : Along step G s is) :
    List.Forall₂ E (outputs step s is) (outputs step' s' is) := by
  induction is generalizing s s' with
  | nil => exact .nil
  | cons i is ih =>
      obtain ⟨hi, hrest⟩ := hG
      obtain ⟨hR, hE⟩ := hstep s s' i h hi
      exact .cons hE (ih hR hrest)

end Reactive

-- ================================================== waiting parties

section Parties

variable {S : Type u} {A : Type v} (apply : S → A → Option S)

/-- One enabled action among those allowed. -/
def Move (allowed : A → Prop) (s t : S) : Prop :=
  ∃ a, allowed a ∧ apply s a = some t

/-- Any number of enabled actions among those allowed. -/
def Moves (allowed : A → Prop) : S → S → Prop :=
  Relation.ReflTransGen (Move apply allowed)

variable {apply}

/-- What every allowed action preserves, any number of them
preserves. -/
theorem Moves.inv {allowed : A → Prop} {P : S → Prop}
    (hstep : ∀ s a t, allowed a → apply s a = some t → P s → P t)
    {s t : S} (h : Moves apply allowed s t) (hs : P s) : P t := by
  induction h with
  | refl => exact hs
  | tail _ hmove ih =>
      obtain ⟨a, ha, happ⟩ := hmove
      exact hstep _ a _ ha happ ih

/-- One more action in front. -/
theorem Moves.head {allowed : A → Prop} {s t r : S} (a : A)
    (ha : allowed a) (happ : apply s a = some t)
    (h : Moves apply allowed t r) : Moves apply allowed s r :=
  Relation.ReflTransGen.head ⟨a, ha, happ⟩ h

theorem Moves.refl {allowed : A → Prop} (s : S) :
    Moves apply allowed s s :=
  Relation.ReflTransGen.refl

theorem Moves.trans {allowed : A → Prop} {s t r : S}
    (h : Moves apply allowed s t) (h' : Moves apply allowed t r) :
    Moves apply allowed s r :=
  Relation.ReflTransGen.trans h h'

/-- More may be allowed. -/
theorem Moves.mono {allowed allowed' : A → Prop}
    (hle : ∀ a, allowed a → allowed' a) {s t : S}
    (h : Moves apply allowed s t) : Moves apply allowed' s t := by
  refine Relation.ReflTransGen.mono (fun _ _ hmove => ?_) _ _ h
  obtain ⟨a, ha, happ⟩ := hmove
  exact ⟨a, hle a ha, happ⟩

/-- A part of the state that each action leaves alone, or moves as
another machine would, moves as that machine does. -/
theorem Moves.project {S' : Type w} {A' : Type x}
    {apply' : S' → A' → Option S'} {allowed : A → Prop}
    {allowed' : A' → Prop} {f : S → S'}
    (hstep : ∀ s a t, allowed a → apply s a = some t →
      f t = f s ∨ Move apply' allowed' (f s) (f t))
    {s t : S} (h : Moves apply allowed s t) :
    Moves apply' allowed' (f s) (f t) := by
  induction h with
  | refl => exact .refl _
  | tail _ hmove ih =>
      obtain ⟨a, ha, happ⟩ := hmove
      rcases hstep _ a _ ha happ with hsame | hmove
      · rw [hsame]
        exact ih
      · exact ih.tail hmove

/-- The state a list of actions leads to, if all of them are enabled. -/
def exec (apply : S → A → Option S) : S → List A → Option S
  | s, [] => some s
  | s, a :: as => (apply s a).bind fun t => exec apply t as

/-- A list of allowed actions is a way to get somewhere. -/
theorem Moves.of_exec {allowed : A → Prop} {s t : S} {as : List A}
    (hallowed : ∀ a ∈ as, allowed a) (h : exec apply s as = some t) :
    Moves apply allowed s t := by
  induction as generalizing s with
  | nil =>
      obtain rfl : s = t := Option.some.inj h
      exact .refl s
  | cons a as ih =>
      obtain ⟨r, hr, hrest⟩ := Option.bind_eq_some_iff.mp h
      refine Moves.head a (hallowed a (List.mem_cons_self ..)) hr ?_
      exact ih (fun b hb => hallowed b (List.mem_cons_of_mem _ hb)) hrest

/-- Actions that change nothing may be left out. -/
theorem exec_filter {p : A → Bool} {s t : S} {as : List A}
    (hidle : ∀ a ∈ as, p a = false → ∀ s t, apply s a = some t → t = s)
    (h : exec apply s as = some t) :
    exec apply s (as.filter p) = some t := by
  induction as generalizing s with
  | nil => exact h
  | cons a as ih =>
      obtain ⟨r, hr, hrest⟩ := Option.bind_eq_some_iff.mp h
      have hrun := ih (fun b hb => hidle b (List.mem_cons_of_mem _ hb)) hrest
      cases hp : p a with
      | true =>
          rw [List.filter_cons_of_pos hp, exec, hr]
          exact hrun
      | false =>
          obtain rfl := hidle a (List.mem_cons_self ..) hp s r hr
          rw [List.filter_cons_of_neg (by simp [hp])]
          exact hrun

/-- None of the allowed actions is enabled. -/
def AtRest (apply : S → A → Option S) (allowed : A → Prop) (s : S) : Prop :=
  ∀ a, allowed a → apply s a = none

section Rest

variable {allowed : A → Prop} {P : S → Prop} {work : S → Nat}
  (hstep : ∀ s a t, allowed a → apply s a = some t → P s →
    P t ∧ work t < work s)

include hstep

/-- There are at most as many of them as there is work. -/
theorem exec_length_le {s t : S} {as : List A}
    (hallowed : ∀ a ∈ as, allowed a) (h : exec apply s as = some t)
    (hs : P s) : as.length ≤ work s := by
  induction as generalizing s with
  | nil => exact Nat.zero_le _
  | cons a as ih =>
      obtain ⟨r, hr, hrest⟩ := Option.bind_eq_some_iff.mp h
      obtain ⟨hP, hlt⟩ := hstep s a r (hallowed a (List.mem_cons_self ..)) hr
        hs
      have hle := ih (fun b hb => hallowed b (List.mem_cons_of_mem _ hb))
        hrest hP
      rw [List.length_cons]
      omega

/-- They lead to a state where none is left. -/
theorem exists_rest {s : S} (hs : P s) :
    ∃ t, Moves apply allowed s t ∧ AtRest apply allowed t := by
  induction hn : work s using Nat.strongRecOn generalizing s with
  | _ n ih =>
      by_cases hrest : AtRest apply allowed s
      · exact ⟨s, .refl s, hrest⟩
      · unfold AtRest at hrest
        push Not at hrest
        obtain ⟨a, ha, hne⟩ := hrest
        obtain ⟨r, hr⟩ := Option.ne_none_iff_exists'.mp hne
        obtain ⟨hP, hlt⟩ := hstep s a r ha hr hs
        obtain ⟨t, hmoves, ht⟩ := ih (work r) (hn ▸ hlt) hP rfl
        exact ⟨t, .head a ha hr hmoves, ht⟩

end Rest

end Parties

end Lib.Machine
