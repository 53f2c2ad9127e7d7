import Mathlib.Algebra.Group.Nat.Defs
import Mathlib.Data.List.Basic
import Mathlib.Logic.Function.Basic

/-!
# Labelled transition systems with guarded runs

A system is an initial state and a partial step function: `step s a = some t`
says that the label `a` is enabled in `s` and leads to `t`.  Runs are taken
under a condition on each step, so that one induction rule serves both the
unrestricted reachable states and the states of runs in which every step meets
a stated side condition.
-/

universe u v

/-- An initial state together with a partial, labelled step function. -/
structure LabelledSystem (State : Type u) (Label : Type v) where
  init : State
  step : State → Label → Option State

namespace LabelledSystem

variable {State : Type u} {Label : Type v} (sys : LabelledSystem State Label)

/-- `sys.Run cond s t`: a run from `s` to `t` all of whose steps meet `cond`,
which sees the state before the step and the label. -/
inductive Run (cond : State → Label → Prop) : State → State → Prop
  | refl (s : State) : Run cond s s
  | tail {s t t' : State} (a : Label) : Run cond s t → cond t a →
      sys.step t a = some t' → Run cond s t'

/-- A state reached from the initial state by a run whose steps meet `cond`. -/
def ReachableUnder (cond : State → Label → Prop) (s : State) : Prop :=
  sys.Run cond sys.init s

/-- A state reached by any run at all. -/
def Reachable (s : State) : Prop :=
  sys.ReachableUnder (fun _ _ => True) s

variable {sys}

theorem Run.trans {cond : State → Label → Prop} {s t u : State}
    (hfirst : sys.Run cond s t) (hsecond : sys.Run cond t u) : sys.Run cond s u := by
  induction hsecond with
  | refl => exact hfirst
  | tail a _ hcond hstep ih => exact .tail a ih hcond hstep

/-- A predicate preserved by every step that meets the condition is kept by
every run, from wherever it starts. -/
theorem Run.preserves {cond : State → Label → Prop} {P : State → Prop}
    (hstep : ∀ s a t, P s → cond s a → sys.step s a = some t → P t)
    {s t : State} (hrun : sys.Run cond s t) (hs : P s) : P t := by
  induction hrun with
  | refl => exact hs
  | tail a _ hcond hnext ih => exact hstep _ a _ ih hcond hnext

/-- The induction rule for invariants: what holds initially and is preserved by
every step that meets the condition holds in every state reached. -/
theorem invariant {cond : State → Label → Prop} {P : State → Prop}
    (hinit : P sys.init)
    (hstep : ∀ s a t, P s → cond s a → sys.step s a = some t → P t)
    {s : State} (hs : sys.ReachableUnder cond s) : P s :=
  Run.preserves hstep hs hinit

/-- Execute a list of labels from a given state. -/
def execute (sys : LabelledSystem State Label) : State → List Label → Option State
  | s, [] => some s
  | s, a :: rest => (sys.step s a).bind fun t => execute sys t rest

/-- Executing labels that meet a condition in every state is a run under it. -/
theorem run_of_execute {cond : State → Label → Prop} {s t : State} {labels : List Label}
    (hcond : ∀ a ∈ labels, ∀ u, cond u a) (hexec : sys.execute s labels = some t) :
    sys.Run cond s t := by
  induction labels generalizing s with
  | nil =>
      cases hexec
      exact .refl _
  | cons a rest ih =>
      obtain ⟨m, hm, hrest⟩ := Option.bind_eq_some_iff.mp hexec
      have hfirst : sys.Run cond s m := .tail a (.refl _) (hcond a List.mem_cons_self s) hm
      exact hfirst.trans (ih (fun b hb => hcond b (List.mem_cons_of_mem _ hb)) hrest)

/-- Execute a list of labels, each of which passes a check before its step. -/
def executeIf (sys : LabelledSystem State Label) (check : State → Label → Prop)
    [∀ s a, Decidable (check s a)] : State → List Label → Option State
  | s, [] => some s
  | s, a :: rest =>
    if check s a then (sys.step s a).bind fun t => executeIf sys check t rest else none

/-- An invariant that turns a decidable check into the condition of the steps
makes a run under that condition out of a checked execution. -/
theorem run_of_executeIf {cond check : State → Label → Prop} [∀ s a, Decidable (check s a)]
    {P : State → Prop} (hstep : ∀ s a t, P s → check s a → sys.step s a = some t → P t)
    (hcond : ∀ s a, P s → check s a → cond s a) {s t : State} {labels : List Label} (hs : P s)
    (hexec : sys.executeIf check s labels = some t) : sys.Run cond s t := by
  induction labels generalizing s with
  | nil =>
      cases hexec
      exact .refl _
  | cons a rest ih =>
      unfold executeIf at hexec
      split at hexec
      · rename_i hcheck
        obtain ⟨m, hm, hrest⟩ := Option.bind_eq_some_iff.mp hexec
        have hfirst : sys.Run cond s m := .tail a (.refl _) (hcond s a hs hcheck) hm
        exact hfirst.trans (ih (hstep s a m hs hcheck hm) hrest)
      · cases hexec

/-- A checked execution passes through the same states as an unchecked one. -/
theorem execute_of_executeIf {check : State → Label → Prop} [∀ s a, Decidable (check s a)]
    {s t : State} {labels : List Label} (hexec : sys.executeIf check s labels = some t) :
    sys.execute s labels = some t := by
  induction labels generalizing s with
  | nil => exact hexec
  | cons a rest ih =>
      unfold executeIf at hexec
      split at hexec
      · obtain ⟨m, hm, hrest⟩ := Option.bind_eq_some_iff.mp hexec
        exact Option.bind_eq_some_iff.mpr ⟨m, hm, ih hrest⟩
      · cases hexec

/-- The state after a list of labels, or the initial state where one of them is
not enabled. -/
def after (sys : LabelledSystem State Label) (labels : List Label) : State :=
  (sys.execute sys.init labels).getD sys.init

theorem execute_after {labels : List Label} (hexec : (sys.execute sys.init labels).isSome) :
    sys.execute sys.init labels = some (sys.after labels) := by
  obtain ⟨s, hs⟩ := Option.isSome_iff_exists.mp hexec
  simp [after, hs]

theorem execute_append {s : State} {first second : List Label} :
    sys.execute s (first ++ second) =
      (sys.execute s first).bind fun t => sys.execute t second := by
  induction first generalizing s with
  | nil => rfl
  | cons a rest ih =>
      change (sys.step s a).bind _ = ((sys.step s a).bind _).bind _
      rw [Option.bind_assoc]
      exact Option.bind_congr fun _ _ => ih

/-- The state after a longer list of labels is executed from that after the shorter one. -/
theorem execute_after_append {first second : List Label}
    (hexec : (sys.execute sys.init (first ++ second)).isSome) :
    sys.execute (sys.after first) second = some (sys.after (first ++ second)) := by
  have hwhole := execute_after hexec
  rw [execute_append] at hwhole
  obtain ⟨t, ht, hrest⟩ := Option.bind_eq_some_iff.mp hwhole
  have hfirst : sys.after first = t := by simp [after, ht]
  rw [hfirst]
  exact hrest

/-- The last label of an execution is a step from the state before it. -/
theorem step_after {labels : List Label} {a : Label}
    (hexec : (sys.execute sys.init (labels ++ [a])).isSome) :
    sys.step (sys.after labels) a = some (sys.after (labels ++ [a])) := by
  have hlast := execute_after_append hexec
  simpa [execute] using hlast

/-- The state after a longer list of labels is reached from the state after the
shorter one under the condition that the check and an invariant give. -/
theorem run_after {cond check : State → Label → Prop}
    [∀ s a, Decidable (check s a)] (P : State → Prop)
    (hstep : ∀ s a t, P s → check s a → sys.step s a = some t → P t)
    (hcond : ∀ s a, P s → check s a → cond s a) {first second : List Label}
    (hfirst : (sys.execute sys.init first).isSome) (hs : P (sys.after first))
    (hsecond : (sys.executeIf check (sys.after first) second).isSome) :
    sys.Run cond (sys.after first) (sys.after (first ++ second)) := by
  obtain ⟨t, ht⟩ := Option.isSome_iff_exists.mp hsecond
  have hafter : sys.after (first ++ second) = t := by
    have hwhole : sys.execute sys.init (first ++ second) = some t := by
      rw [execute_append, execute_after hfirst]
      exact execute_of_executeIf ht
    simp [after, hwhole]
  rw [hafter]
  exact run_of_executeIf hstep hcond hs ht

/-- The state after a checked list of labels is reached under the condition that
the check and an invariant give. -/
theorem reachableUnder_after {cond check : State → Label → Prop}
    [∀ s a, Decidable (check s a)] (P : State → Prop)
    (hstep : ∀ s a t, P s → check s a → sys.step s a = some t → P t)
    (hcond : ∀ s a, P s → check s a → cond s a) (hinit : P sys.init) {labels : List Label}
    (hexec : (sys.executeIf check sys.init labels).isSome) :
    sys.ReachableUnder cond (sys.after labels) := by
  have hnone : sys.execute sys.init [] = some sys.init := rfl
  exact run_after P hstep hcond (Option.isSome_iff_exists.mpr ⟨_, hnone⟩) hinit hexec

/-- An invariant holds after a checked list of labels. -/
theorem preserves_after {check : State → Label → Prop} [∀ s a, Decidable (check s a)]
    (P : State → Prop) (hstep : ∀ s a t, P s → check s a → sys.step s a = some t → P t)
    (hinit : P sys.init) {labels : List Label}
    (hexec : (sys.executeIf check sys.init labels).isSome) : P (sys.after labels) :=
  Run.preserves hstep (reachableUnder_after P hstep (fun _ _ _ h => h) hinit hexec) hinit

theorem reachable_after {labels : List Label}
    (hexec : (sys.execute sys.init labels).isSome) : sys.Reachable (sys.after labels) :=
  run_of_execute (fun _ _ _ => trivial) (execute_after hexec)

/-- The state after one label more, from the step that the label takes. -/
theorem after_concat {labels : List Label} {a : Label} {s : State}
    (hexec : (sys.execute sys.init labels).isSome) (hstep : sys.step (sys.after labels) a = some s) :
    sys.after (labels ++ [a]) = s := by
  have hwhole : sys.execute sys.init (labels ++ [a]) = some s := by
    rw [execute_append, execute_after hexec]
    simp [execute, hstep]
  simp [after, hwhole]

/-! ### Repeating a label -/

variable (sys) in
/-- Taking the label `a` some number of times leads from `s` to `t`. -/
def Repeats (a : Label) (s t : State) : Prop :=
  ∃ n, sys.execute s (List.replicate n a) = some t

namespace Repeats

variable {a : Label} {s t u : State}

theorem refl (a : Label) (s : State) : sys.Repeats a s s :=
  ⟨0, rfl⟩

theorem trans (hfirst : sys.Repeats a s t) (hsecond : sys.Repeats a t u) :
    sys.Repeats a s u := by
  obtain ⟨m, hm⟩ := hfirst
  obtain ⟨n, hn⟩ := hsecond
  refine ⟨m + n, ?_⟩
  rw [List.replicate_add, execute_append, hm]
  exact hn

theorem step (hstep : sys.step s a = some t) (hrest : sys.Repeats a t u) :
    sys.Repeats a s u := by
  obtain ⟨n, hn⟩ := hrest
  refine ⟨n + 1, ?_⟩
  rw [List.replicate_succ, execute, hstep]
  exact hn

/-- A label can be repeated until it is no longer enabled in one way only. -/
theorem unique (ht : sys.Repeats a s t) (hu : sys.Repeats a s u) (htstuck : sys.step t a = none)
    (hustuck : sys.step u a = none) : t = u := by
  obtain ⟨m, hm⟩ := ht
  obtain ⟨n, hn⟩ := hu
  induction m generalizing s n with
  | zero =>
      cases hm
      cases n with
      | zero => exact Option.some.inj hn
      | succ n =>
          rw [List.replicate_succ, execute, htstuck] at hn
          cases hn
  | succ m ih =>
      rw [List.replicate_succ, execute] at hm
      obtain ⟨next, hnext, hrest⟩ := Option.bind_eq_some_iff.mp hm
      cases n with
      | zero =>
          cases hn
          rw [hustuck] at hnext
          cases hnext
      | succ n =>
          rw [List.replicate_succ, execute, hnext] at hn
          exact ih hrest n hn

end Repeats

/-! ### Records

A record is kept beside the state and never read by a step. -/

section Records

variable {Record : Type*} (sys) in
/-- The system with a record of what has happened; `note` sees the state before
the step, the label and the state after it. -/
def observe (empty : Record) (note : State → Label → State → Record → Record) :
    LabelledSystem (State × Record) Label where
  init := (sys.init, empty)
  step := fun before a =>
    (sys.step before.1 a).map fun t => (t, note before.1 a t before.2)

variable {Record : Type*} {empty : Record} {note : State → Label → State → Record → Record}

theorem observe_step {before after : State × Record} {a : Label}
    (hstep : (sys.observe empty note).step before a = some after) :
    sys.step before.1 a = some after.1 ∧ after.2 = note before.1 a after.1 before.2 := by
  obtain ⟨t, ht, rfl⟩ := Option.map_eq_some_iff.mp hstep
  exact ⟨ht, rfl⟩

end Records

/-! ### Scenarios

An execution on fixed labels is evaluated once, where the scenario is built; what
is proved about it afterwards only reads the fields. -/

/-- Labels that are enabled one after the other, each after passing a check, and a
property of the state they lead to. -/
structure Scenario (sys : LabelledSystem State Label) (check : State → Label → Prop)
    [∀ s a, Decidable (check s a)] (ends : State → Prop) where
  labels : List Label
  enabled : (sys.executeIf check sys.init labels).isSome
  ends : ends (sys.after labels)

namespace Scenario

variable {check : State → Label → Prop} [∀ s a, Decidable (check s a)] {ends : State → Prop}

theorem execute (scenario : sys.Scenario check ends) :
    (sys.execute sys.init scenario.labels).isSome := by
  obtain ⟨s, hs⟩ := Option.isSome_iff_exists.mp scenario.enabled
  exact Option.isSome_iff_exists.mpr ⟨s, execute_of_executeIf hs⟩

theorem reachable (scenario : sys.Scenario check ends) :
    sys.Reachable (sys.after scenario.labels) :=
  reachable_after scenario.execute

/-- The end of a scenario is reached under its check. -/
theorem reachableUnder (scenario : sys.Scenario check ends) :
    sys.ReachableUnder check (sys.after scenario.labels) :=
  reachableUnder_after (fun _ => True) (fun _ _ _ _ _ _ => trivial) (fun _ _ _ hcheck => hcheck)
    trivial scenario.enabled

end Scenario

end LabelledSystem
