import LayoutAdblock.Interaction.Environment

namespace LayoutAdblock.Interaction

/-! # Guarded changes

Some calls change an object of the environment.  A trace is guarded when each
of them comes after a check of its object, with nothing between the check and
the call but calls that may stand there: those that change no other object, for
instance.
-/

open Environment

variable {Op : Type} {Answer : Op → Type} {σ α ι : Type}

def Touches (target : Op → Option ι) (object : ι) (op : Op) : Prop :=
  ∀ other, target op = some other → other = object

/-- The trace ends with a check of the object, followed only by calls that may
stand between the check and a change of the object. -/
def Checked (Between : ι → Op → Prop) (Check : ι → List (Event Op Answer) → Prop) (object : ι)
    (trace : List (Event Op Answer)) : Prop :=
  ∃ older check between, trace = older ++ check ++ between ∧ Check object check ∧
    ∀ event ∈ between, Between object event.op

/-- Every call about an object comes after a check of that very object, with nothing in
between that could have changed it. -/
def Guarded (target : Op → Option ι) (Between : ι → Op → Prop)
    (Check : ι → List (Event Op Answer) → Prop) (trace : List (Event Op Answer)) : Prop :=
  ∀ earlier event later object, trace = earlier ++ event :: later →
    target event.op = some object → Checked Between Check object earlier

variable {target : Op → Option ι} {Between : ι → Op → Prop}
  {Check : ι → List (Event Op Answer) → Prop}

theorem guarded_nil : Guarded target Between Check [] := by
  intro earlier event later object split
  simp at split

theorem Guarded.snoc {trace : List (Event Op Answer)} {event : Event Op Answer}
    (guarded : Guarded target Between Check trace)
    (checked : ∀ object, target event.op = some object → Checked Between Check object trace) :
    Guarded target Between Check (trace ++ [event]) := by
  intro earlier found later object split changes
  rcases List.eq_nil_or_concat later with rfl | ⟨later, last, rfl⟩
  · obtain ⟨rfl, same⟩ := List.append_inj' split rfl
    obtain rfl : event = found := by simpa using same
    exact checked object changes
  · rw [List.concat_eq_append, ← List.cons_append, ← List.append_assoc] at split
    exact guarded earlier found later object (List.append_inj' split rfl).1 changes

theorem Guarded.quiet {trace : List (Event Op Answer)} {event : Event Op Answer}
    (guarded : Guarded target Between Check trace) (quiet : target event.op = none) :
    Guarded target Between Check (trace ++ [event]) := by
  apply guarded.snoc
  intro object changes
  rw [quiet] at changes
  contradiction

theorem Checked.snoc {trace : List (Event Op Answer)} {event : Event Op Answer} {object : ι}
    (checked : Checked Between Check object trace) (stands : Between object event.op) :
    Checked Between Check object (trace ++ [event]) := by
  obtain ⟨older, check, between, rfl, holds, standing⟩ := checked
  refine ⟨older, check, between ++ [event], by simp, holds, ?_⟩
  intro found member
  rcases List.mem_append.mp member with earlier | last
  · exact standing found earlier
  · rw [List.mem_singleton.mp last]
    exact stands

variable {env : Environment Op Answer σ}

/-- Calls that change nothing need no check. -/
theorem ensures_guarded_of_quiet {program : Program Op Answer α}
    {before : Recorded Op Answer σ} (quiet : program.Only fun op => target op = none)
    (guarded : Guarded target Between Check before.trace) :
    env.recorded.ensures program (fun _ after => Guarded target Between Check after.trace)
      before := by
  apply ensures_of_step
    (fun state : Recorded Op Answer σ => Guarded target Between Check state.trace) quiet _ guarded
  intro op state answer after quietly kept step
  rw [step.2]
  exact kept.quiet quietly

/-- After a check of an object, a program may change that object, and the check
still covers it. -/
theorem ensures_checked {program : Program Op Answer α} {before : Recorded Op Answer σ}
    {object : ι} (stands : program.Only (Between object))
    (own : ∀ op, Between object op → Touches target object op)
    (guarded : Guarded target Between Check before.trace)
    (checked : Checked Between Check object before.trace) :
    env.recorded.ensures program
      (fun _ after => Guarded target Between Check after.trace ∧
        Checked Between Check object after.trace) before := by
  apply ensures_of_step (fun state : Recorded Op Answer σ =>
    Guarded target Between Check state.trace ∧ Checked Between Check object state.trace)
    stands _ ⟨guarded, checked⟩
  intro op state answer after here kept step
  rw [step.2]
  refine ⟨kept.1.snoc ?_, kept.2.snoc here⟩
  intro other changes
  obtain rfl := own op here other changes
  exact kept.2

theorem ensures_guarded_of_checked {program : Program Op Answer α}
    {before : Recorded Op Answer σ} {object : ι}
    (stands : program.Only (Between object))
    (own : ∀ op, Between object op → Touches target object op)
    (guarded : Guarded target Between Check before.trace)
    (checked : Checked Between Check object before.trace) :
    env.recorded.ensures program (fun _ after => Guarded target Between Check after.trace)
      before :=
  ensures_mono (ensures_checked stands own guarded checked) fun _ _ held => held.1

end LayoutAdblock.Interaction
