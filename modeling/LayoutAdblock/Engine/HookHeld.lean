import Mathlib.Data.List.ReduceOption
import LayoutAdblock.Engine.EventHook
import LayoutAdblock.Engine.Worker

namespace LayoutAdblock.Engine

open LayoutAdblock.Core Interaction Environment

/-! # What the runtime holds

The hooks that are registered, the sender and the open handles are those of the
runtime's own value, after whatever its operations were answered.
-/

section Removal

variable {α κ : Type} [DecidableEq κ]

theorem filter_removed_cons (key : α → κ) (first : κ) (rest : List κ) (entries : List α) :
    ((entries.filter fun entry => decide (key entry ≠ first)).filter
        fun entry => decide (key entry ∉ rest)) =
      entries.filter fun entry => decide (key entry ∉ first :: rest) := by
  rw [List.filter_filter]
  apply List.filter_congr
  intro entry _
  simp [Bool.and_comm]

theorem filter_removed_all {key : α → κ} {keys : List κ} {entries : List α}
    (all : entries.map key = keys) :
    (entries.filter fun entry => decide (key entry ∉ keys)) = [] := by
  rw [List.filter_eq_nil_iff]
  intro entry member
  have listed : key entry ∈ keys := all ▸ List.mem_map_of_mem member
  simpa using listed

end Removal

section Native

variable {before after : EventDesk}

theorem ensures_native {call : RuntimeCall} {post : call.Answer → EventDesk → Prop}
    (holds : ∀ answer after, nativeDesk.step call before answer after → post answer after) :
    nativeDesk.ensures (native call) post before :=
  ensures_ask.mpr holds

theorem unhookAll_ensures (hooks : List Handle) :
    nativeDesk.ensures (EventHook.unhookAll hooks)
      (fun _ after => after = { before with
        registered := before.registered.filter fun entry => decide (entry.hook ∉ hooks) })
      before := by
  induction hooks generalizing before with
  | nil => simp [EventHook.unhookAll, Program.forEach]
  | cons hook rest ih =>
      have unhooked : nativeDesk.ensures (native (.unhookWinEvent hook))
          (fun _ after => after = { before with
            registered := before.registered.filter fun entry => decide (entry.hook ≠ hook) })
          before :=
        ensures_native fun _ _ step => step
      apply ensures_seq unhooked
      rintro _ _ rfl
      apply ensures_mono ih
      rintro _ _ rfl
      rw [filter_removed_cons]

/-- Every hook that is registered is unhooked. -/
theorem unhookAll_releases {hooks : List Handle}
    (held : before.registered.map HookEntry.hook = hooks) :
    nativeDesk.ensures (EventHook.unhookAll hooks)
      (fun _ after => after = { before with registered := [] }) before := by
  apply ensures_mono (unhookAll_ensures hooks)
  rintro _ _ rfl
  rw [filter_removed_all held]

/-- What the rounds leave of the desk they started from. -/
def Rounds (before : EventDesk) (rest : List (Pid × EventRange)) (after : EventDesk) :
    Option (List Handle) → Prop
  | none => after = { before with registered := [], eventTx := none }
  | some hooks => ∃ registered, after = { before with registered := registered } ∧
      registered.map HookEntry.hook = hooks ∧
      registered.map HookEntry.target = before.registered.map HookEntry.target ++ rest

theorem installEach_ensures (rest : List (Pid × EventRange)) {hooks : List Handle}
    (held : before.registered.map HookEntry.hook = hooks) :
    nativeDesk.ensures (EventHook.installEach rest hooks)
      (fun result after => Rounds before rest after result) before := by
  induction rest generalizing before hooks with
  | nil => exact ⟨before.registered, rfl, held, (List.append_nil _).symm⟩
  | cons target rest ih =>
      obtain ⟨pid, range⟩ := target
      apply ensures_seq (ensures_native fun _ _ step => step)
      intro answer middle step
      cases answer with
      | none =>
          have same : middle = before := step
          subst same
          apply ensures_seq (unhookAll_releases held)
          rintro _ _ rfl
          apply ensures_seq (ensures_native fun _ _ step => step)
          intro _ _ cleared
          exact cleared
      | some hook =>
          obtain ⟨_, rfl⟩ := step
          apply ensures_mono (ih (by rw [List.map_append, held]; rfl))
          intro result after rounds
          cases result with
          | none => exact rounds
          | some all =>
              obtain ⟨registered, left, handles, targets⟩ := rounds
              refine ⟨registered, left, handles, ?_⟩
              simpa using targets

/-- What an installation leaves where nothing was installed. -/
def Installation (before : EventDesk) (pids : List Pid) (after : EventDesk) :
    Option EventHook → Prop
  | none => after.registered = [] ∧ after.eventTx = none ∧ after.opened = before.opened
  | some hook => after.registered.map HookEntry.hook = hook.hooks ∧
      after.registered.map HookEntry.target = EventHook.targets pids ∧
      after.eventTx = some hook.rx ∧ after.queues hook.rx = [] ∧ after.opened = before.opened

theorem installForPids_ensures {pids : List Pid} (released : before.registered = [])
    (silent : before.eventTx = none) :
    nativeDesk.ensures (EventHook.installForPids pids)
      (fun result after => Installation before pids after result) before := by
  unfold EventHook.installForPids
  split
  · exact ⟨released, silent, rfl⟩
  · apply ensures_seq (ensures_native fun _ _ step => step)
    rintro rx _ ⟨-, rfl⟩
    apply ensures_seq (ensures_native fun _ _ step => step)
    rintro _ _ rfl
    apply ensures_seq (installEach_ensures _ (by rw [released]; rfl))
    intro result last rounds
    cases result with
    | none =>
        have left : last = _ := rounds
        rw [left]
        exact ⟨rfl, rfl, rfl⟩
    | some hooks =>
        obtain ⟨registered, rfl, handles, targets⟩ := rounds
        refine ⟨handles, ?_, rfl, Function.update_self _ _ _, rfl⟩
        simpa [released] using targets

theorem drop_ensures {hook : EventHook}
    (held : before.registered.map HookEntry.hook = hook.hooks) :
    nativeDesk.ensures hook.drop
      (fun _ after => after = { before with registered := [], eventTx := none }) before := by
  apply ensures_seq (unhookAll_releases held)
  rintro _ _ rfl
  exact ensures_native fun _ _ step => step

/-- The whole queue, in its order. -/
theorem drainFor_ensures {rounds : Nat} {receiver : EventChannel}
    (bounded : (before.queues receiver).length < rounds) :
    nativeDesk.ensures (EventHook.drainFor rounds receiver)
      (fun events after => events = before.queues receiver ∧ after = { before with
        queues := Function.update before.queues receiver [] }) before := by
  induction rounds generalizing before with
  | zero => exact absurd bounded (Nat.not_lt_zero _)
  | succ rounds ih =>
      apply ensures_seq (ensures_native fun _ _ step => step)
      rintro event _ ⟨rfl, rfl⟩
      cases queued : before.queues receiver with
      | nil => simp
      | cons event rest =>
          have shorter : rest.length < rounds := by
            rw [queued, List.length_cons] at bounded
            omega
          apply ensures_seq (ih (by simpa using shorter))
          rintro events _ ⟨rfl, rfl⟩
          simp

theorem closeAll_ensures {watch : PidWatch}
    (held : before.opened.map Prod.fst = watch.handles.reduceOption) :
    nativeDesk.ensures watch.closeAll
      (fun _ after => after = { before with opened := [] }) before := by
  have closes : ∀ (handles : List Handle) (before : EventDesk),
      nativeDesk.ensures (Program.forEach (fun handle => native (.closeHandle handle)) handles)
        (fun _ after => after = { before with
          opened := before.opened.filter fun entry => decide (entry.1 ∉ handles) }) before := by
    intro handles
    induction handles with
    | nil =>
        intro before
        simp [Program.forEach]
    | cons handle rest ih =>
        intro before
        apply ensures_seq (ensures_native fun _ _ step => step)
        rintro _ _ rfl
        apply ensures_mono (ih _)
        rintro _ _ rfl
        rw [filter_removed_cons]
  apply ensures_mono (closes _ before)
  rintro _ _ rfl
  rw [filter_removed_all held]

theorem openForQuery_ensures (pid : Pid) :
    nativeDesk.ensures (openForQuery pid)
      (fun handle after => after = { before with
        opened := before.opened ++ (handle.map fun handle => (handle, pid)).toList }) before := by
  unfold openForQuery
  split
  · apply ensures_native
    intro handle after step
    cases handle with
    | none =>
        have same : after = before := step
        simpa using same
    | some handle => exact step.2
  · simp

theorem openEach_ensures (pids : List Pid) :
    nativeDesk.ensures (PidWatch.openEach pids)
      (fun handles after => ∃ fresh, after = { before with opened := before.opened ++ fresh } ∧
        fresh.map Prod.fst = handles.reduceOption ∧ (fresh.map Prod.snd).Sublist pids) before := by
  induction pids generalizing before with
  | nil => exact ⟨[], by simp, rfl, List.Sublist.refl _⟩
  | cons pid rest ih =>
      apply ensures_seq (openForQuery_ensures pid)
      rintro handle _ rfl
      apply ensures_seq ih
      rintro handles _ ⟨fresh, rfl, opened, listed⟩
      cases handle with
      | none => exact ⟨fresh, by simp, opened, listed.cons pid⟩
      | some handle =>
          refine ⟨(handle, pid) :: fresh, by simp, ?_, listed.cons_cons pid⟩
          simp [List.reduceOption_cons_of_some, opened]

theorem allRunning_ensures (handles : List (Option Handle)) :
    nativeDesk.ensures (PidWatch.allRunning handles) (fun _ after => after = before) before := by
  induction handles with
  | nil => rfl
  | cons handle rest ih =>
      cases handle with
      | none => rfl
      | some handle =>
          have asked : nativeDesk.ensures (handleIsRunning handle)
              (fun _ after => after = before) before := by
            apply ensures_seq (ensures_native fun _ _ step => step)
            rintro code _ rfl
            rfl
          apply ensures_seq asked
          rintro running _ rfl
          cases running with
          | true => exact ih
          | false => rfl

end Native

end LayoutAdblock.Engine
