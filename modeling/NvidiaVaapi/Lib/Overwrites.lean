import Mathlib.Data.List.Perm.Basic

/-!
# Overwriting contents job by job

Contents are a value for every cell.  A job overwrites some cells; where no two jobs give a cell
different values, and where no job reads what another one writes, the jobs may be done in any
order.
-/

namespace NvidiaVaapi
namespace Overwrites

variable {Cell Value Job : Type}

/-- Replace the values of the cells that are written. -/
def overwrite (writes : Cell → Option Value) (contents : Cell → Value) : Cell → Value :=
  fun c => (writes c).getD (contents c)

theorem overwrite_of_some {writes : Cell → Option Value} {c : Cell} {v : Value}
    (h : writes c = some v) (contents : Cell → Value) : overwrite writes contents c = v := by
  unfold overwrite
  rw [h]
  rfl

theorem overwrite_of_none {writes : Cell → Option Value} {c : Cell} (h : writes c = none)
    (contents : Cell → Value) : overwrite writes contents c = contents c := by
  unfold overwrite
  rw [h]
  rfl

/-- Jobs one after the other. -/
def overwriteAll (writes : Job → Cell → Option Value) (jobs : List Job)
    (contents : Cell → Value) : Cell → Value :=
  jobs.foldl (fun contents job => overwrite (writes job) contents) contents

section All

variable {writes : Job → Cell → Option Value} {jobs : List Job} {c : Cell}

theorem overwriteAll_cons (job : Job) (jobs : List Job) (contents : Cell → Value) :
    overwriteAll writes (job :: jobs) contents =
      overwriteAll writes jobs (overwrite (writes job) contents) :=
  List.foldl_cons ..

theorem overwriteAll_of_none (h : ∀ job ∈ jobs, writes job c = none)
    (contents : Cell → Value) : overwriteAll writes jobs contents c = contents c := by
  induction jobs generalizing contents with
  | nil => rfl
  | cons job jobs ih =>
    rw [overwriteAll_cons, ih fun other hother => h other (List.mem_cons_of_mem job hother)]
    exact overwrite_of_none (h job List.mem_cons_self) contents

/-- A cell has the value that one job gives it, if no other job gives it another one. -/
theorem overwriteAll_of_some {v : Value}
    (hagree : ∀ job ∈ jobs, writes job c = none ∨ writes job c = some v)
    (hsome : ∃ job ∈ jobs, writes job c = some v) (contents : Cell → Value) :
    overwriteAll writes jobs contents c = v := by
  induction jobs generalizing contents with
  | nil =>
    obtain ⟨job, hjob, -⟩ := hsome
    exact absurd hjob List.not_mem_nil
  | cons job jobs ih =>
    have hrest : ∀ other ∈ jobs, writes other c = none ∨ writes other c = some v :=
      fun other hother => hagree other (List.mem_cons_of_mem job hother)
    rw [overwriteAll_cons]
    by_cases hlater : ∃ other ∈ jobs, writes other c = some v
    · exact ih hrest hlater _
    · have hnone : ∀ other ∈ jobs, writes other c = none := fun other hother =>
        (hrest other hother).resolve_right fun hwrites => hlater ⟨other, hother, hwrites⟩
      rw [overwriteAll_of_none hnone]
      obtain ⟨first, hfirst, hwrites⟩ := hsome
      rcases List.mem_cons.mp hfirst with rfl | hmem
      · exact overwrite_of_some hwrites contents
      · exact absurd ⟨first, hmem, hwrites⟩ hlater

/-- Jobs that write `size` cells each: every cell has its value in the end, and no other cell
changes. -/
theorem overwriteAll_cells (writes : Job → Cell → Option Value) (jobs : List Job)
    (size : Job → Nat) (cell : Job → Nat → Cell) (value : Job → Nat → Value)
    (hwrites : ∀ job ∈ jobs, ∀ c v, writes job c = some v ↔
      ∃ i < size job, c = cell job i ∧ v = value job i)
    (hagree : ∀ job ∈ jobs, ∀ i < size job, ∀ job' ∈ jobs, ∀ i' < size job',
      cell job i = cell job' i' → value job i = value job' i')
    (contents : Cell → Value) :
    (∀ job ∈ jobs, ∀ i < size job,
      overwriteAll writes jobs contents (cell job i) = value job i) ∧
      ∀ c, (∀ job ∈ jobs, ∀ i < size job, c ≠ cell job i) →
        overwriteAll writes jobs contents c = contents c := by
  constructor
  · intro job hjob i hi
    apply overwriteAll_of_some
    · intro job' hjob'
      cases hwritten : writes job' (cell job i) with
      | none => exact .inl rfl
      | some v =>
        obtain ⟨i', hi', hcell, rfl⟩ := (hwrites job' hjob' _ _).mp hwritten
        exact .inr (congrArg some (hagree job hjob i hi job' hjob' i' hi' hcell).symm)
    · exact ⟨job, hjob, (hwrites job hjob _ _).mpr ⟨i, hi, rfl, rfl⟩⟩
  · intro c hc
    apply overwriteAll_of_none
    intro job hjob
    cases hwritten : writes job c with
    | none => rfl
    | some v =>
      obtain ⟨i, hi, hcell, -⟩ := (hwrites job hjob _ _).mp hwritten
      exact absurd hcell (hc job hjob i hi)

end All

/-- Jobs that look at cells: each does what `writes` says as long as the cells it looks at hold
what they held at first, and no job writes such a cell. -/
theorem foldlM_overwrite {step : (Cell → Value) → Job → Option (Cell → Value)}
    {writes : Job → Cell → Option Value} {jobs : List Job} (reads : Cell → Prop)
    (original : Cell → Value)
    (hstep : ∀ job ∈ jobs, ∀ contents, (∀ c, reads c → contents c = original c) →
      step contents job = some (overwrite (writes job) contents))
    (hseparate : ∀ job ∈ jobs, ∀ c, reads c → writes job c = none)
    {contents : Cell → Value} (hcontents : ∀ c, reads c → contents c = original c) :
    jobs.foldlM step contents = some (overwriteAll writes jobs contents) := by
  induction jobs generalizing contents with
  | nil => rfl
  | cons job jobs ih =>
    rw [List.foldlM_cons, hstep job List.mem_cons_self contents hcontents]
    refine ih (fun other hother => hstep other (List.mem_cons_of_mem job hother))
      (fun other hother => hseparate other (List.mem_cons_of_mem job hother)) ?_
    intro c hc
    exact (overwrite_of_none (hseparate job List.mem_cons_self c hc) contents).trans
      (hcontents c hc)

end Overwrites
end NvidiaVaapi
