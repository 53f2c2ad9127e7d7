import Mathlib.Data.List.Infix
import Mathlib.Order.BooleanAlgebra.Set
import Mathlib.Logic.Function.Basic

/-!
# Programs that acquire and release resources

A program asks its environment for resources and for answers, releases resources or hands them
over to somebody else.  Whatever the environment answers, a run leaves a log.  The rules of this
module prove of a program that it only ever releases what it holds, and what it holds at its
end; a log of which that is so has every acquired resource ended once or still held.
-/

/-- What happens in a run. -/
inductive ResourceEvent (R Q : Type)
  | acquired (r : R)
  | released (r : R)
  | transferred (r : R)
  | answered (question : Q) (answer : Option Nat)
  deriving DecidableEq

/-- A program over resources `R` and questions `Q`.  The environment answers an acquisition with
a number that names the resource, or refuses it. -/
inductive ResourceProgram (R Q α : Type)
  | done (result : α)
  | acquire (kind : Nat → R) (next : Option Nat → ResourceProgram R Q α)
  | release (r : R) (next : ResourceProgram R Q α)
  | transfer (r : R) (next : ResourceProgram R Q α)
  | ask (question : Q) (next : Option Nat → ResourceProgram R Q α)

namespace ResourceProgram

variable {R Q α β ι S : Type}

/-! ## Programs -/

/-- Run a program and then the one that its result leads to. -/
def andThen : ResourceProgram R Q α → (α → ResourceProgram R Q β) → ResourceProgram R Q β
  | done result, f => f result
  | acquire kind next, f => acquire kind fun answer => (next answer).andThen f
  | release r next, f => release r (next.andThen f)
  | transfer r next, f => transfer r (next.andThen f)
  | ask question next, f => ask question fun answer => (next answer).andThen f

instance : Monad (ResourceProgram R Q) where
  pure := done
  bind := andThen

/-- Ask for a resource of a kind. -/
def acquired (kind : Nat → R) : ResourceProgram R Q (Option Nat) :=
  acquire kind done

def released (r : R) : ResourceProgram R Q Unit :=
  release r (done ())

def transferred (r : R) : ResourceProgram R Q Unit :=
  transfer r (done ())

def asked (question : Q) : ResourceProgram R Q (Option Nat) :=
  ask question done

/-- Release what a field holds, if it holds anything. -/
def releaseField : Option R → ResourceProgram R Q Unit
  | none => done ()
  | some r => released r

/-- Release what the fields of a list hold, in the order of the list. -/
def releaseFields (field : S → Option R) : List S → ResourceProgram R Q Unit
  | [] => done ()
  | s :: rest => (releaseField (field s)).andThen fun _ => releaseFields field rest

/-- The result of a run, its log, and the answers that are left. -/
structure Outcome (R Q α : Type) where
  result : α
  log : List (ResourceEvent R Q)
  answers : Nat → Option Nat

/-- The outcome with an event in front. -/
def Outcome.after (event : ResourceEvent R Q) (outcome : Outcome R Q α) : Outcome R Q α :=
  { outcome with log := event :: outcome.log }

/-- The outcome with a log in front. -/
def Outcome.behind (log : List (ResourceEvent R Q)) (outcome : Outcome R Q α) : Outcome R Q α :=
  { outcome with log := log ++ outcome.log }

/-- Run a program with the answers of an environment. -/
def run : ResourceProgram R Q α → (Nat → Option Nat) → Outcome R Q α
  | done result, answers => ⟨result, [], answers⟩
  | acquire kind next, answers =>
    (answers 0).elim ((next none).run fun i => answers (i + 1)) fun n =>
      ((next (some n)).run fun i => answers (i + 1)).after (.acquired (kind n))
  | release r next, answers => (next.run answers).after (.released r)
  | transfer r next, answers => (next.run answers).after (.transferred r)
  | ask question next, answers =>
    ((next (answers 0)).run fun i => answers (i + 1)).after (.answered question (answers 0))

/-! ## Logs -/

/-- What is held after a log. -/
def heldAfter : Set R → List (ResourceEvent R Q) → Set R
  | held, [] => held
  | held, .acquired r :: log => heldAfter (insert r held) log
  | held, .released r :: log => heldAfter (held \ {r}) log
  | held, .transferred r :: log => heldAfter (held \ {r}) log
  | held, .answered _ _ :: log => heldAfter held log

/-- What is relied on of an environment: it gives nothing that is held already, and answers
questions as allowed. -/
def Plausible (allowed : Q → Option Nat → Prop) : Set R → List (ResourceEvent R Q) → Prop
  | _, [] => True
  | held, .acquired r :: log => r ∉ held ∧ Plausible allowed (insert r held) log
  | held, .released r :: log => Plausible allowed (held \ {r}) log
  | held, .transferred r :: log => Plausible allowed (held \ {r}) log
  | held, .answered question answer :: log =>
    allowed question answer ∧ Plausible allowed held log

/-- Only what is held is released, and of that only what may be handed over is handed over. -/
def Sound (transferable : R → Prop) : Set R → List (ResourceEvent R Q) → Prop
  | _, [] => True
  | held, .acquired r :: log => Sound transferable (insert r held) log
  | held, .released r :: log => r ∈ held ∧ Sound transferable (held \ {r}) log
  | held, .transferred r :: log =>
    (r ∈ held ∧ transferable r) ∧ Sound transferable (held \ {r}) log
  | held, .answered _ _ :: log => Sound transferable held log

section Logs

variable {allowed : Q → Option Nat → Prop} {transferable : R → Prop}

theorem heldAfter_append (held : Set R) (first second : List (ResourceEvent R Q)) :
    heldAfter held (first ++ second) = heldAfter (heldAfter held first) second := by
  induction first generalizing held with
  | nil => rfl
  | cons event rest ih => cases event <;> exact ih _

theorem plausible_append (held : Set R) (first second : List (ResourceEvent R Q)) :
    Plausible allowed held (first ++ second) ↔
      Plausible allowed held first ∧ Plausible allowed (heldAfter held first) second := by
  induction first generalizing held with
  | nil => exact (iff_of_eq (true_and _)).symm
  | cons event rest ih =>
      cases event with
      | acquired r => exact (and_congr_right' (ih _)).trans and_assoc.symm
      | released r => exact ih _
      | transferred r => exact ih _
      | answered question answer => exact (and_congr_right' (ih _)).trans and_assoc.symm

theorem sound_append (held : Set R) (first second : List (ResourceEvent R Q)) :
    Sound transferable held (first ++ second) ↔
      Sound transferable held first ∧ Sound transferable (heldAfter held first) second := by
  induction first generalizing held with
  | nil => exact (iff_of_eq (true_and _)).symm
  | cons event rest ih =>
      cases event with
      | acquired r => exact ih _
      | released r => exact (and_congr_right' (ih _)).trans and_assoc.symm
      | transferred r => exact (and_congr_right' (ih _)).trans and_assoc.symm
      | answered question answer => exact ih _

/-- Only what may be handed over is. -/
theorem transferable_of_sound {held : Set R} {log : List (ResourceEvent R Q)}
    (hsound : Sound transferable held log) {r : R} (hr : .transferred r ∈ log) :
    transferable r := by
  induction log generalizing held with
  | nil => cases hr
  | cons event rest ih =>
      rcases List.mem_cons.mp hr with heq | hrest
      · subst heq
        exact hsound.1.2
      · cases event with
        | acquired other => exact ih hsound hrest
        | released other => exact ih hsound.2 hrest
        | transferred other => exact ih hsound.2 hrest
        | answered question answer => exact ih hsound hrest

end Logs

/-! ## Every resource is ended once -/

section Counting

variable [DecidableEq R] [DecidableEq Q] {allowed : Q → Option Nat → Prop}
  {transferable : R → Prop}

/-- How often a resource is acquired in a log. -/
def acquisitions (r : R) (log : List (ResourceEvent R Q)) : Nat :=
  log.count (.acquired r)

/-- How often a resource is released or handed over. -/
def ends (r : R) (log : List (ResourceEvent R Q)) : Nat :=
  log.count (.released r) + log.count (.transferred r)

open Classical in
/-- One if a resource is held. -/
noncomputable def holds (held : Set R) (r : R) : Nat :=
  if r ∈ held then 1 else 0

theorem holds_insert {held : Set R} {r : R} (hr : r ∉ held) (other : R) :
    holds (insert r held) other = holds held other + if r = other then 1 else 0 := by
  unfold holds
  by_cases hother : r = other
  · subst hother
    rw [if_pos (Set.mem_insert r held), if_neg hr, if_pos rfl]
  · have hiff : other ∈ insert r held ↔ other ∈ held := by
      rw [Set.mem_insert_iff]
      exact or_iff_right (Ne.symm hother)
    rw [if_neg hother, Nat.add_zero]
    by_cases hheld : other ∈ held
    · rw [if_pos hheld, if_pos (hiff.mpr hheld)]
    · rw [if_neg hheld, if_neg fun h => hheld (hiff.mp h)]

theorem holds_diff {held : Set R} {r : R} (hr : r ∈ held) (other : R) :
    holds held other = holds (held \ {r}) other + if r = other then 1 else 0 := by
  have hsplit := holds_insert (fun h : r ∈ held \ {r} => h.2 rfl) other
  rw [Set.insert_sdiff_self_of_mem hr] at hsplit
  exact hsplit

/-- What is held at the start and acquired is ended or held at the end. -/
theorem balance {held : Set R} {log : List (ResourceEvent R Q)}
    (hgiven : Plausible allowed held log) (hsound : Sound transferable held log) (r : R) :
    holds held r + acquisitions r log = ends r log + holds (heldAfter held log) r := by
  induction log generalizing held with
  | nil => exact (Nat.add_zero _).trans (Nat.zero_add _).symm
  | cons event rest ih =>
      cases event with
      | acquired other =>
          have hrest := ih hgiven.2 hsound
          rw [holds_insert hgiven.1] at hrest
          unfold acquisitions ends at hrest ⊢
          simp only [List.count_cons, heldAfter, beq_iff_eq, ResourceEvent.acquired.injEq,
            reduceCtorEq, if_false] at hrest ⊢
          omega
      | released other =>
          have hrest := ih hgiven hsound.2
          rw [holds_diff hsound.1]
          unfold acquisitions ends at hrest ⊢
          simp only [List.count_cons, heldAfter, beq_iff_eq, ResourceEvent.released.injEq,
            reduceCtorEq, if_false] at hrest ⊢
          omega
      | transferred other =>
          have hrest := ih hgiven hsound.2
          rw [holds_diff hsound.1.1]
          unfold acquisitions ends at hrest ⊢
          simp only [List.count_cons, heldAfter, beq_iff_eq, ResourceEvent.transferred.injEq,
            reduceCtorEq, if_false] at hrest ⊢
          omega
      | answered question answer =>
          have hrest := ih hgiven.2 hsound
          unfold acquisitions ends at hrest ⊢
          simp only [List.count_cons, heldAfter, beq_iff_eq, reduceCtorEq, if_false] at hrest ⊢
          omega

/-- At every moment of a run that starts with nothing, a resource has been ended as often as it
was acquired, or is held and has been ended once less. -/
theorem ended_once {log : List (ResourceEvent R Q)} (hgiven : Plausible allowed ∅ log)
    (hsound : Sound transferable ∅ log) {before : List (ResourceEvent R Q)}
    (hbefore : before <+: log) (r : R) :
    acquisitions r before = ends r before + holds (heldAfter ∅ before) r := by
  obtain ⟨after, rfl⟩ := hbefore
  have hstart : holds (∅ : Set R) r = 0 := if_neg (Set.notMem_empty r)
  have hbalance := balance ((plausible_append _ _ _).mp hgiven).1
    ((sound_append _ _ _).mp hsound).1 r
  rw [hstart, Nat.zero_add] at hbalance
  exact hbalance

end Counting

/-! ## Rules -/

section Rules

variable {allowed : Q → Option Nat → Prop} {transferable : R → Prop} {held : Set R}
  {P : α → Set R → Prop} {P' : β → Set R → Prop}

variable (allowed transferable) in
/-- From what is held on, every run in a plausible environment is sound and ends as stated. -/
def Ensures (p : ResourceProgram R Q α) (held : Set R) (P : α → Set R → Prop) : Prop :=
  ∀ answers, Plausible allowed held (p.run answers).log →
    Sound transferable held (p.run answers).log ∧
      P (p.run answers).result (heldAfter held (p.run answers).log)

theorem run_acquire_none {kind : Nat → R} (next : Option Nat → ResourceProgram R Q α)
    {answers : Nat → Option Nat} (hanswer : answers 0 = none) :
    (acquire kind next).run answers = (next none).run fun i => answers (i + 1) := by
  change (answers 0).elim _ _ = _
  rw [hanswer]
  rfl

theorem run_acquire_some {kind : Nat → R} (next : Option Nat → ResourceProgram R Q α)
    {answers : Nat → Option Nat} {n : Nat} (hanswer : answers 0 = some n) :
    (acquire kind next).run answers =
      ((next (some n)).run fun i => answers (i + 1)).after (.acquired (kind n)) := by
  change (answers 0).elim _ _ = _
  rw [hanswer]
  rfl

theorem run_bind (p : ResourceProgram R Q α) (f : α → ResourceProgram R Q β)
    (answers : Nat → Option Nat) :
    (p >>= f).run answers =
      ((f (p.run answers).result).run (p.run answers).answers).behind (p.run answers).log := by
  change (p.andThen f).run answers = _
  induction p generalizing answers with
  | done result => rfl
  | acquire kind next ih =>
      change (acquire kind fun answer => (next answer).andThen f).run answers = _
      cases hanswer : answers 0 with
      | none =>
          rw [run_acquire_none _ hanswer, run_acquire_none _ hanswer]
          exact ih none _
      | some n =>
          rw [run_acquire_some _ hanswer, run_acquire_some _ hanswer, ih]
          rfl
  | release r next ih =>
      change ((next.andThen f).run answers).after _ = _
      rw [ih]
      rfl
  | transfer r next ih =>
      change ((next.andThen f).run answers).after _ = _
      rw [ih]
      rfl
  | ask question next ih =>
      change (((next (answers 0)).andThen f).run fun i => answers (i + 1)).after _ = _
      rw [ih]
      rfl

theorem ensures_pure {result : α} (hP : P result held) :
    Ensures allowed transferable (pure result) held P :=
  fun _ _ => ⟨trivial, hP⟩

theorem ensures_bind {p : ResourceProgram R Q α} {f : α → ResourceProgram R Q β}
    (hp : Ensures allowed transferable p held P)
    (hf : ∀ result held', P result held' → Ensures allowed transferable (f result) held' P') :
    Ensures allowed transferable (p >>= f) held P' := by
  intro answers hgiven
  rw [run_bind] at hgiven ⊢
  obtain ⟨hfirst, hsecond⟩ := (plausible_append _ _ _).mp hgiven
  obtain ⟨hsound, hmid⟩ := hp answers hfirst
  obtain ⟨hsound', hP⟩ := hf _ _ hmid _ hsecond
  refine ⟨(sound_append _ _ _).mpr ⟨hsound, hsound'⟩, ?_⟩
  change P' _ (heldAfter held ((p.run answers).log ++ _))
  rw [heldAfter_append]
  exact hP

theorem Ensures.mono {p : ResourceProgram R Q α} {weaker : α → Set R → Prop}
    (hp : Ensures allowed transferable p held P)
    (hweaker : ∀ result held', P result held' → weaker result held') :
    Ensures allowed transferable p held weaker :=
  fun answers hgiven => (hp answers hgiven).imp_right (hweaker _ _)

theorem ensures_acquired {kind : Nat → R} {f : Option Nat → ResourceProgram R Q α}
    (hnone : Ensures allowed transferable (f none) held P)
    (hsome : ∀ n, kind n ∉ held →
      Ensures allowed transferable (f (some n)) (insert (kind n) held) P) :
    Ensures allowed transferable (acquired kind >>= f) held P := by
  intro answers hgiven
  change Plausible allowed held (run (acquire kind f) answers).log at hgiven
  change Sound transferable held (run (acquire kind f) answers).log ∧
    P (run (acquire kind f) answers).result
      (heldAfter held (run (acquire kind f) answers).log)
  cases hanswer : answers 0 with
  | none =>
      rw [run_acquire_none _ hanswer] at hgiven ⊢
      exact hnone _ hgiven
  | some n =>
      rw [run_acquire_some _ hanswer] at hgiven ⊢
      exact hsome n hgiven.1 _ hgiven.2

theorem ensures_asked {question : Q} {f : Option Nat → ResourceProgram R Q α}
    (hf : ∀ answer, allowed question answer →
      Ensures allowed transferable (f answer) held P) :
    Ensures allowed transferable (asked question >>= f) held P :=
  fun answers hgiven => hf (answers 0) hgiven.1 _ hgiven.2

theorem ensures_released {r : R} {f : Unit → ResourceProgram R Q α} (hr : r ∈ held)
    (hf : Ensures allowed transferable (f ()) (held \ {r}) P) :
    Ensures allowed transferable (released r >>= f) held P :=
  fun answers hgiven => ⟨⟨hr, (hf answers hgiven).1⟩, (hf answers hgiven).2⟩

theorem ensures_transferred {r : R} {f : Unit → ResourceProgram R Q α} (hr : r ∈ held)
    (htransferable : transferable r)
    (hf : Ensures allowed transferable (f ()) (held \ {r}) P) :
    Ensures allowed transferable (transferred r >>= f) held P :=
  fun answers hgiven =>
    ⟨⟨⟨hr, htransferable⟩, (hf answers hgiven).1⟩, (hf answers hgiven).2⟩

end Rules

/-! ## Resources in fields -/

section Fields

variable {allowed : Q → Option Nat → Prop} {transferable : R → Prop} {held : Set R}
  {field : S → Option R}

/-- What is held is what the fields hold, and no two fields hold the same. -/
structure Owns (field : S → Option R) (held : Set R) : Prop where
  mem : ∀ r, r ∈ held ↔ ∃ s, field s = some r
  single : ∀ s s' r, field s = some r → field s' = some r → s = s'

theorem Owns.empty (hnone : ∀ s, field s = none) : Owns field (∅ : Set R) where
  mem r := by
    constructor
    · intro hr
      exact absurd hr (Set.notMem_empty r)
    · rintro ⟨s, hs⟩
      rw [hnone s] at hs
      cases hs
  single s s' r hs := by
    rw [hnone s] at hs
    cases hs

theorem Owns.eq_empty (h : Owns field held) (hnone : ∀ s, field s = none) : held = ∅ := by
  ext r
  rw [h.mem r, (Owns.empty (R := R) hnone).mem r]

/-- A resource is put into an empty field. -/
theorem Owns.insert [DecidableEq S] (h : Owns field held) {s : S} {r : R}
    (hempty : field s = none) (hr : r ∉ held) :
    Owns (Function.update field s (some r)) (insert r held) where
  mem other := by
    rw [Set.mem_insert_iff, h.mem]
    constructor
    · rintro (rfl | ⟨s', hs'⟩)
      · exact ⟨s, Function.update_self ..⟩
      · refine ⟨s', ?_⟩
        have hne : s' ≠ s := by
          rintro rfl
          rw [hempty] at hs'
          cases hs'
        rw [Function.update_of_ne hne]
        exact hs'
    · rintro ⟨s', hs'⟩
      rw [Function.update_apply] at hs'
      split at hs'
      · exact .inl (Option.some.inj hs').symm
      · exact .inr ⟨s', hs'⟩
  single s₁ s₂ other h₁ h₂ := by
    rw [Function.update_apply] at h₁ h₂
    split at h₁
    · cases h₁
      split at h₂
      · rename_i hfirst hsecond
        rw [hfirst, hsecond]
      · exact absurd ((h.mem r).mpr ⟨s₂, h₂⟩) hr
    · split at h₂
      · cases h₂
        exact absurd ((h.mem r).mpr ⟨s₁, h₁⟩) hr
      · exact h.single s₁ s₂ other h₁ h₂

/-- A resource is taken out of its field. -/
theorem Owns.erase [DecidableEq S] (h : Owns field held) {s : S} {r : R}
    (hs : field s = some r) : Owns (Function.update field s none) (held \ {r}) where
  mem other := by
    rw [Set.mem_sdiff, Set.mem_singleton_iff, h.mem]
    constructor
    · rintro ⟨⟨s', hs'⟩, hne⟩
      refine ⟨s', ?_⟩
      have hapart : s' ≠ s := by
        rintro rfl
        rw [hs] at hs'
        exact hne (Option.some.inj hs').symm
      rw [Function.update_of_ne hapart]
      exact hs'
    · rintro ⟨s', hs'⟩
      rw [Function.update_apply] at hs'
      split at hs'
      · cases hs'
      · rename_i hapart
        refine ⟨⟨s', hs'⟩, ?_⟩
        rintro rfl
        exact hapart (h.single s' s other hs' hs)
  single s₁ s₂ other h₁ h₂ := by
    rw [Function.update_apply] at h₁ h₂
    split at h₁
    · cases h₁
    · split at h₂
      · cases h₂
      · exact h.single s₁ s₂ other h₁ h₂

/-- The resources move to other fields. -/
theorem Owns.move {S' : Type} (h : Owns field held) {field' : S' → Option R} (origin : S' → S)
    (hfrom : ∀ s' r, field' s' = some r → field (origin s') = some r)
    (hto : ∀ s r, field s = some r → ∃ s', field' s' = some r)
    (hinjective : ∀ s₁ s₂ r, field' s₁ = some r → field' s₂ = some r → origin s₁ = origin s₂ →
      s₁ = s₂) : Owns field' held where
  mem r := by
    rw [h.mem]
    exact ⟨fun ⟨s, hs⟩ => hto s r hs, fun ⟨s', hs'⟩ => ⟨origin s', hfrom s' r hs'⟩⟩
  single s₁ s₂ r h₁ h₂ :=
    hinjective s₁ s₂ r h₁ h₂ (h.single _ _ r (hfrom s₁ r h₁) (hfrom s₂ r h₂))

/-- A resource moves to an empty field. -/
theorem Owns.moveTo [DecidableEq S] (h : Owns field held) (s t : S) {r : R}
    (hs : field s = some r) (hempty : field t = none) :
    Owns (Function.update (Function.update field s none) t (some r)) held := by
  have hne : t ≠ s := by
    rintro rfl
    rw [hempty] at hs
    cases hs
  have hr : r ∈ held := (h.mem r).mpr ⟨s, hs⟩
  have hmoved := (h.erase hs).insert (s := t) (r := r)
    (by rw [Function.update_of_ne hne, hempty]) fun hleft => hleft.2 rfl
  rw [Set.insert_sdiff_self_of_mem hr] at hmoved
  exact hmoved

/-- Fields that hold nothing are put beside others. -/
theorem Owns.beside {T : Type} (h : Owns field held) {extra : T → Option R}
    (hnone : ∀ t, extra t = none) : Owns (Sum.elim field extra) held where
  mem r := by
    rw [h.mem]
    constructor
    · rintro ⟨s, hs⟩
      exact ⟨.inl s, hs⟩
    · rintro ⟨s | t, hs⟩
      · exact ⟨s, hs⟩
      · cases (hnone t).symm.trans hs
  single s₁ s₂ r h₁ h₂ := by
    rcases s₁ with s₁ | t₁
    · rcases s₂ with s₂ | t₂
      · rw [h.single s₁ s₂ r h₁ h₂]
      · cases (hnone t₂).symm.trans h₂
    · cases (hnone t₁).symm.trans h₁

/-- A resource that is new is put beside the fields. -/
theorem Owns.besideNew (h : Owns field held) {r : R} (hr : r ∉ held) :
    Owns (Sum.elim field fun _ : Unit => some r) (Insert.insert r held) where
  mem other := by
    rw [Set.mem_insert_iff, h.mem]
    constructor
    · rintro (rfl | ⟨s, hs⟩)
      · exact ⟨.inr (), rfl⟩
      · exact ⟨.inl s, hs⟩
    · rintro ⟨s | _, hs⟩
      · exact .inr ⟨s, hs⟩
      · exact .inl (Option.some.inj hs).symm
  single s₁ s₂ other h₁ h₂ := by
    have hapart : ∀ s, field s ≠ some r := fun s hs => hr ((h.mem r).mpr ⟨s, hs⟩)
    rcases s₁ with s₁ | _
    · rcases s₂ with s₂ | _
      · rw [h.single s₁ s₂ other h₁ h₂]
      · exact absurd (h₁.trans h₂.symm) (hapart s₁)
    · rcases s₂ with s₂ | _
      · exact absurd (h₂.trans h₁.symm) (hapart s₂)
      · rfl

/-- The fields beside others hold nothing any more. -/
theorem Owns.left {T : Type} {extra : T → Option R} (h : Owns (Sum.elim field extra) held)
    (hnone : ∀ t, extra t = none) : Owns field held := by
  refine h.move Sum.inl (fun s r hs => hs) ?_ fun s₁ s₂ r _ _ heq => Sum.inl.inj heq
  rintro (s | t) r hs
  · exact ⟨s, hs⟩
  · cases (hnone t).symm.trans hs

open Classical in
/-- The fields of a list are released, each once. -/
theorem ensures_releaseFields {slots : List S} (hnodup : slots.Nodup) (h : Owns field held) :
    Ensures (Q := Q) allowed transferable (releaseFields field slots) held fun _ held' =>
      Owns (fun s => if s ∈ slots then none else field s) held' := by
  -- The fields before the list are those that have been released.
  suffices hgen : ∀ (field' : S → Option R) (held : Set R), Owns field' held →
      (∀ s ∈ slots, field' s = field s) →
      Ensures (Q := Q) allowed transferable (releaseFields field slots) held fun _ held' =>
        Owns (fun s => if s ∈ slots then none else field' s) held' from
    hgen field held h fun _ _ => rfl
  clear h
  induction slots with
  | nil =>
      intro field' held h _
      refine ensures_pure (P := fun _ held' => Owns _ held') ?_
      simpa using h
  | cons s rest ih =>
      intro field' held h hsame
      obtain ⟨hnot, hrest⟩ := List.nodup_cons.mp hnodup
      have hs : field' s = field s := hsame s List.mem_cons_self
      have hnext : ∀ field'' : S → Option R, (∀ s' ∈ rest, field'' s' = field' s') →
          ∀ s' ∈ rest, field'' s' = field s' := fun field'' hkept s' hs' =>
        (hkept s' hs').trans (hsame s' (List.mem_cons_of_mem s hs'))
      have hcongr : ∀ field'' : S → Option R, field'' = Function.update field' s none →
          (fun s' => if s' ∈ rest then none else field'' s') =
            fun s' => if s' ∈ s :: rest then none else field' s' := by
        rintro field'' rfl
        funext s'
        by_cases heq : s' = s
        · subst heq
          rw [if_neg hnot, Function.update_self, if_pos List.mem_cons_self]
        · rw [Function.update_of_ne heq]
          simp only [List.mem_cons, heq, false_or]
      have hkept : ∀ s' ∈ rest, Function.update field' s none s' = field' s' := by
        intro s' hs'
        refine Function.update_of_ne ?_ _ _
        rintro rfl
        exact hnot hs'
      change Ensures allowed transferable
        ((releaseField (field s)).andThen fun _ => releaseFields field rest) held _
      cases hfield : field s with
      | none =>
          have hunchanged : Function.update field' s none = field' := by
            rw [Function.update_eq_self_iff, hs, hfield]
          refine (ih hrest field' held h (hnext field' fun _ _ => rfl)).mono fun _ held' howns => ?_
          rw [hcongr field' hunchanged.symm] at howns
          exact howns
      | some r =>
          have hr : r ∈ held := (h.mem r).mpr ⟨s, hs.trans hfield⟩
          refine ensures_released hr ((ih hrest _ _ (h.erase (hs.trans hfield))
            (hnext _ hkept)).mono fun _ held' howns => ?_)
          rw [hcongr _ rfl] at howns
          exact howns

/-- The fields of a list are released and cleared. -/
theorem ensures_cleared {slots : List S} {field' : S → Option R} (hnodup : slots.Nodup)
    (h : Owns field held) (hcleared : ∀ s ∈ slots, field' s = none)
    (hkept : ∀ s, s ∉ slots → field' s = field s) :
    Ensures (Q := Q) allowed transferable (releaseFields field slots) held fun _ held' =>
      Owns field' held' := by
  refine (ensures_releaseFields hnodup h).mono fun _ held' hleft => ?_
  convert hleft using 1
  funext s
  split
  · rename_i hs
    exact hcleared s hs
  · rename_i hs
    exact hkept s hs

/-- All that the fields hold is released. -/
theorem ensures_releaseAll {slots : List S} (hnodup : slots.Nodup) (h : Owns field held)
    (hall : ∀ s r, field s = some r → s ∈ slots) :
    Ensures (Q := Q) allowed transferable (releaseFields field slots) held fun _ held' =>
      held' = ∅ := by
  have hcleared : Ensures (Q := Q) allowed transferable (releaseFields field slots) held
      fun _ held' => Owns (fun _ : S => none) held' := by
    refine ensures_cleared hnodup h (fun _ _ => rfl) fun s hs => ?_
    refine (Option.eq_none_iff_forall_ne_some.mpr fun r hr => ?_).symm
    exact hs (hall s r hr)
  exact hcleared.mono fun _ _ hleft => hleft.eq_empty fun _ => rfl

/-- A resource is acquired into an empty field. -/
theorem ensures_acquiredInto [DecidableEq S] {P : α → Set R → Prop} {kind : Nat → R}
    {f : Option Nat → ResourceProgram R Q α} (h : Owns field held) (s : S)
    (hempty : field s = none) (hnone : Ensures allowed transferable (f none) held P)
    (hsome : ∀ n held', Owns (Function.update field s (some (kind n))) held' →
      Ensures allowed transferable (f (some n)) held' P) :
    Ensures allowed transferable (acquired kind >>= f) held P :=
  ensures_acquired hnone fun n hnew => hsome n _ (h.insert hempty hnew)

/-- A resource is released out of its field. -/
theorem ensures_releasedFrom [DecidableEq S] {P : α → Set R → Prop} {r : R}
    {f : Unit → ResourceProgram R Q α} (h : Owns field held) (s : S) (hs : field s = some r)
    (hf : ∀ held', Owns (Function.update field s none) held' →
      Ensures allowed transferable (f ()) held' P) :
    Ensures allowed transferable (released r >>= f) held P :=
  ensures_released ((h.mem r).mpr ⟨s, hs⟩) (hf _ (h.erase hs))

theorem releaseFields_map {T : Type} (f : T → S) (slots : List T) :
    (releaseFields field (slots.map f) : ResourceProgram R Q Unit) =
      releaseFields (fun t => field (f t)) slots := by
  induction slots with
  | nil => rfl
  | cons t rest ih =>
      change (releaseField (field (f t))).andThen (fun _ => releaseFields field (rest.map f)) = _
      rw [ih]
      rfl

/-- All the fields beside others are released. -/
theorem ensures_releaseBeside {T : Type} {extra : T → Option R} {slots : List T}
    (hnodup : slots.Nodup) (hall : ∀ t r, extra t = some r → t ∈ slots)
    (h : Owns (Sum.elim field extra) held) :
    Ensures (Q := Q) allowed transferable (releaseFields extra slots) held fun _ held' =>
      Owns field held' := by
  have hrelease : Ensures (Q := Q) allowed transferable
      (releaseFields (Sum.elim field extra) (slots.map Sum.inr)) held _ :=
    ensures_releaseFields
      (List.pairwise_map.mpr (hnodup.imp fun hne heq => hne (Sum.inr.inj heq))) h
  rw [releaseFields_map] at hrelease
  refine hrelease.mono fun _ held' hleft => hleft.move Sum.inl ?_ ?_ ?_
  · intro s r hs
    rw [if_neg]
    · exact hs
    · rw [List.mem_map]
      rintro ⟨t, -, ht⟩
      cases ht
  · rintro (s | t) r hs
    · rw [if_neg] at hs
      · exact ⟨s, hs⟩
      · rw [List.mem_map]
        rintro ⟨t, -, ht⟩
        cases ht
    · split at hs
      · cases hs
      · rename_i hout
        exact absurd (List.mem_map_of_mem (hall t r hs)) hout
  · exact fun s₁ s₂ r _ _ heq => Sum.inl.inj heq

end Fields

end ResourceProgram
