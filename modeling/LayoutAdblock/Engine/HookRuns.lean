import LayoutAdblock.Engine.HookHeld
import LayoutAdblock.Interaction.Protocol

namespace LayoutAdblock.Engine

open LayoutAdblock.Core Interaction Environment

/-! # The worker and its hook over a whole run

A second installation would be unhooked, and its sender cleared, by the drop of
the first.  The loop never asks for one: it installs only after it has been told
that no hook is there.
-/

/-- The worker's runtime on the desk.  The other fields are on record only. -/
structure Hosted where
  runtime : NativeRuntime := {}
  desk : EventDesk := {}
  /-- The last scan that succeeded. -/
  scanned : List Pid := []
  /-- The window events since the hook was installed or drained. -/
  raised : List WinEvent := []
  /-- What a queue of bounded length owes the worker at its drains, and what the
  worker was told. -/
  due : List WindowEvent := []
  told : List WindowEvent := []
  waiting : Bool := false

namespace Hosted

/-- Windows calls back, and each event of a window goes into the queue or is lost where that
is full. -/
def hear (hosted : Hosted) (callbacks : List Callback) : Hosted :=
  { hosted with
    desk := callbacks.foldl EventDesk.hookProc hosted.desk
    raised := hosted.raised ++ (callbacks.filter Callback.ofWindow).map Callback.sent }

/-- What the call itself does, before Windows calls back. Those about the hook are runs of
the runtime. -/
def Settles (before : Hosted) : (call : LoopCall) → call.Answer → Hosted → Prop
  | .install pids, installed, settled => ∃ runtime desk,
      nativeDesk.Runs (before.runtime.install pids) before.desk (installed, runtime) desk ∧
        settled = { before with runtime := runtime, desk := desk, raised := [] }
  | .remove, _, settled => ∃ runtime desk,
      nativeDesk.Runs before.runtime.remove before.desk runtime desk ∧
        settled = { before with runtime := runtime, desk := desk, raised := [] }
  | .hooked, hooked, settled => hooked = before.runtime.hooked ∧ settled = before
  | .events, events, settled => ∃ desk,
      nativeDesk.Runs before.runtime.events before.desk events desk ∧
        settled = { before with
          desk := desk
          raised := []
          due := before.due ++ (before.raised.take eventQueueCapacity).map WinEvent.window
          told := before.told ++ events }
  | .watch pids, _, settled => ∃ runtime desk,
      nativeDesk.Runs (before.runtime.watchPids pids) before.desk runtime desk ∧
        settled = { before with runtime := runtime, desk := desk }
  | .alive, alive, settled => ∃ desk,
      nativeDesk.Runs before.runtime.alive before.desk alive desk ∧
        settled = { before with desk := desk }
  | .scan, found, settled => settled = { before with scanned := found.getD before.scanned }
  | _, _, settled => settled = before

end Hosted

/-- Windows may raise events during any call, but only those of a hook that is registered at
that time. -/
def nativeWorker : Environment WorkerCall WorkerCall.Answer Hosted where
  step
    | .loop call, before, answer, after => ∃ settled callbacks,
        before.Settles call answer settled ∧ settled.desk.Raises callbacks ∧
          after = settled.hear callbacks
    | _, before, _, after => ∃ callbacks, before.desk.Raises callbacks ∧
        after = before.hear callbacks
  torn
    | .loop (.wait _), before, seen => ∃ callbacks, before.desk.Raises callbacks ∧
        seen = { before.hear callbacks with waiting := true }
    | _, _, _ => False

/-- The runtime knows what Windows has: the registered hooks, the sender, the queue and the
open handles are those of its own fields, and the worker has been told everything it had to
be. -/
structure Hosted.Held (hosted : Hosted) : Prop where
  hooks : hosted.desk.registered.map HookEntry.hook =
    (hosted.runtime.hook.map EventHook.hooks).getD []
  sender : hosted.desk.eventTx = hosted.runtime.hook.map EventHook.rx
  queue : ∀ hook, hosted.runtime.hook = some hook →
    hosted.desk.queues hook.rx = hosted.raised.take eventQueueCapacity
  silent : hosted.runtime.hook = none → hosted.raised = []
  handles : hosted.desk.opened.map Prod.fst = hosted.runtime.watch.handles.reduceOption
  pids : (hosted.desk.opened.map Prod.snd).Sublist hosted.runtime.watch.pids
  told : hosted.told = hosted.due

/-- The handles are on the processes of the last scan, and so is the hook, where there
is one. -/
def Hosted.Current (hosted : Hosted) : Prop :=
  hosted.runtime.watch.pids = hosted.scanned.insertionSort (· ≤ ·) ∧
    (hosted.runtime.hook ≠ none → ∀ target,
      target ∈ hosted.desk.registered.map HookEntry.target ↔
        target ∈ EventHook.targets hosted.scanned)

namespace Hosted.Held

variable {hosted : Hosted}

theorem registered_nil (held : hosted.Held) (unhooked : hosted.runtime.hook = none) :
    hosted.desk.registered = [] := by
  have hooks := held.hooks
  rw [unhooked] at hooks
  exact List.map_eq_nil_iff.mp hooks

theorem eventTx_none (held : hosted.Held) (unhooked : hosted.runtime.hook = none) :
    hosted.desk.eventTx = none := by
  rw [held.sender, unhooked]
  rfl

end Hosted.Held

theorem take_append_one {α : Type} (bound : Nat) (items : List α) (item : α) :
    (items ++ [item]).take bound =
      if (items.take bound).length < bound then items.take bound ++ [item]
      else items.take bound := by
  rw [List.take_append]
  split
  · rename_i short
    rw [List.length_take] at short
    have room : bound - items.length = (bound - items.length - 1) + 1 := by omega
    rw [room, List.take_succ_cons, List.take_nil]
  · rename_i full
    rw [List.length_take] at full
    have none_left : bound - items.length = 0 := by omega
    rw [none_left]
    simp

/-- One callback. -/
theorem Hosted.Held.hookProc {hosted : Hosted} (held : hosted.Held) {callback : Callback}
    (raises : hosted.desk.Raises [callback]) : (hosted.hear [callback]).Held := by
  obtain ⟨entry, registered, -⟩ := raises callback List.mem_cons_self
  cases found : hosted.runtime.hook with
  | none =>
      rw [held.registered_nil found] at registered
      cases registered
  | some hook =>
      have sender : hosted.desk.eventTx = some hook.rx := by rw [held.sender, found]; rfl
      have queue := held.queue hook found
      cases window : callback.ofWindow with
      | false =>
          have same : hosted.hear [callback] = hosted := by
            simp [Hosted.hear, EventDesk.hookProc, window]
          rw [same]
          exact held
      | true =>
          have desk : (hosted.hear [callback]).desk =
              { hosted.desk with
                queues := Function.update hosted.desk.queues hook.rx
                  ((hosted.raised ++ [callback.sent]).take eventQueueCapacity) } := by
            rw [take_append_one, ← queue]
            simp only [Hosted.hear, List.foldl_cons, List.foldl_nil, EventDesk.hookProc, window,
              sender, if_true]
            split
            · rfl
            · rw [Function.update_eq_self, ← sender]
          have raised : (hosted.hear [callback]).raised = hosted.raised ++ [callback.sent] := by
            simp [Hosted.hear, window]
          constructor
          · rw [desk]
            exact held.hooks
          · rw [desk]
            exact held.sender
          · intro other same
            have hooked : some hook = some other := found.symm.trans same
            cases hooked
            rw [desk, raised]
            exact Function.update_self _ _ _
          · intro absent
            exact absurd (found.symm.trans absent) (Option.some_ne_none hook)
          · rw [desk]
            exact held.handles
          · rw [desk]
            exact held.pids
          · exact held.told

@[simp] theorem EventDesk.hookProc_registered (desk : EventDesk) (callback : Callback) :
    (desk.hookProc callback).registered = desk.registered := by
  unfold EventDesk.hookProc
  split
  · split
    · rfl
    · split
      · rfl
      · rfl
  · rfl

@[simp] theorem Hosted.hear_registered (hosted : Hosted) (callbacks : List Callback) :
    (hosted.hear callbacks).desk.registered = hosted.desk.registered := by
  have kept : ∀ desk : EventDesk,
      (callbacks.foldl EventDesk.hookProc desk).registered = desk.registered := by
    induction callbacks with
    | nil => exact fun _ => rfl
    | cons callback rest ih => exact fun desk => (ih _).trans (desk.hookProc_registered callback)
  exact kept hosted.desk

theorem Hosted.hear_cons (hosted : Hosted) (callback : Callback) (rest : List Callback) :
    hosted.hear (callback :: rest) = (hosted.hear [callback]).hear rest := by
  cases window : callback.ofWindow with
  | true => simp [Hosted.hear, window]
  | false => simp [Hosted.hear, window]

theorem Hosted.Held.hear {hosted : Hosted} (held : hosted.Held) {callbacks : List Callback}
    (raises : hosted.desk.Raises callbacks) : (hosted.hear callbacks).Held := by
  induction callbacks generalizing hosted with
  | nil =>
      have same : hosted.hear [] = hosted := by simp [Hosted.hear]
      rw [same]
      exact held
  | cons callback rest ih =>
      rw [Hosted.hear_cons]
      have first : hosted.desk.Raises [callback] := fun other member =>
        raises other (List.mem_cons.mpr (.inl (List.mem_singleton.mp member)))
      apply ih (held.hookProc first)
      intro other member
      rw [Hosted.hear_registered]
      exact raises other (List.mem_cons_of_mem _ member)

theorem Hosted.Current.hear {hosted : Hosted} (current : hosted.Current)
    (callbacks : List Callback) : (hosted.hear callbacks).Current := by
  refine ⟨current.1, fun hooked target => ?_⟩
  rw [Hosted.hear_registered]
  exact current.2 hooked target

/-- Wherever the runtime is dropped, nothing of it stays. -/
theorem Hosted.Held.drop_ensures {hosted : Hosted} (held : hosted.Held) :
    nativeDesk.ensures hosted.runtime.drop
      (fun _ left => left.registered = [] ∧ left.eventTx = none ∧ left.opened = [])
      hosted.desk := by
  have unhooked : nativeDesk.ensures (NativeRuntime.dropHook hosted.runtime.hook)
      (fun _ left => left.registered = [] ∧ left.eventTx = none ∧
        left.opened.map Prod.fst = hosted.runtime.watch.handles.reduceOption) hosted.desk := by
    cases found : hosted.runtime.hook with
    | none => exact ⟨held.registered_nil found, held.eventTx_none found, held.handles⟩
    | some hook =>
        have hooks := held.hooks
        rw [found] at hooks
        apply ensures_mono (Engine.drop_ensures hooks)
        rintro _ _ rfl
        exact ⟨rfl, rfl, held.handles⟩
  apply ensures_seq unhooked
  rintro _ left ⟨released, silent, handles⟩
  apply ensures_mono (closeAll_ensures handles)
  rintro _ _ rfl
  exact ⟨released, silent, rfl⟩

/-- What the calls of the loop so far say about the hook: which processes were found, which
are watched, whom a hook is for, and whether there is one. -/
structure HookPhase where
  found : List Pid := []
  watched : List Pid := []
  /-- What a hook that is there was installed for. -/
  hookedFor : List Pid := []
  /-- The worker knows that no hook is there. -/
  idle : Bool := true

/-- A hook is installed only where none is, and the worker waits only with a hook for the
processes found last, or with none. -/
def hookCare : Protocol LoopCall LoopCall.Answer HookPhase where
  allows phase
    | .install _ => phase.idle = true
    | .wait _ => phase.watched.Perm phase.found ∧
        (phase.idle = true ∨ phase.hookedFor.toFinset = phase.found.toFinset)
    | _ => True
  moves phase
    | .remove, _ => { phase with idle := true }
    | .hooked, hooked => { phase with idle := phase.idle || !hooked }
    | .install pids, installed => { phase with idle := !installed, hookedFor := pids }
    | .scan, found => { phase with found := found.getD phase.found }
    | .watch pids, _ => { phase with watched := pids }
    | _, _ => phase

/-- The desk is as the phase says. A hook that the phase knows of is for its processes, and
one that it rules out is not there. -/
structure Hosted.Together (hosted : Hosted) (phase : HookPhase) : Prop extends hosted.Held where
  scanned : hosted.scanned = phase.found
  watched : hosted.runtime.watch.pids = phase.watched.insertionSort (· ≤ ·)
  unhooked : phase.idle = true → hosted.runtime.hook = none
  targets : hosted.runtime.hook ≠ none →
    hosted.desk.registered.map HookEntry.target = EventHook.targets phase.hookedFor
  awake : hosted.waiting = false

theorem Hosted.Together.hear {hosted : Hosted} {phase : HookPhase}
    (together : hosted.Together phase) {callbacks : List Callback}
    (raises : hosted.desk.Raises callbacks) : (hosted.hear callbacks).Together phase where
  toHeld := together.toHeld.hear raises
  scanned := together.scanned
  watched := together.watched
  unhooked := together.unhooked
  targets hooked := by
    rw [Hosted.hear_registered]
    exact together.targets hooked
  awake := together.awake

theorem mem_targets {pids : List Pid} {target : Pid × EventRange} :
    target ∈ EventHook.targets pids ↔
      target.1 ∈ pids ∧ validPid target.1 = true ∧ target.2 ∈ hookRanges := by
  simp only [EventHook.targets, List.mem_flatMap, List.mem_filter, List.mem_map]
  constructor
  · rintro ⟨pid, ⟨listed, valid⟩, range, ranged, rfl⟩
    exact ⟨listed, valid, ranged⟩
  · rintro ⟨listed, valid, ranged⟩
    exact ⟨target.1, ⟨listed, valid⟩, target.2, ranged, rfl⟩

theorem insertionSort_of_perm {first second : List Pid} (perm : first.Perm second) :
    first.insertionSort (· ≤ ·) = second.insertionSort (· ≤ ·) := by
  apply List.Perm.eq_of_sortedLE (List.sortedLE_insertionSort) (List.sortedLE_insertionSort)
  exact (List.perm_insertionSort _ first).trans (perm.trans (List.perm_insertionSort _ second).symm)

theorem Hosted.Together.current {hosted : Hosted} {phase : HookPhase} {timeout : Nat}
    (together : hosted.Together phase) (waits : hookCare.allows phase (.wait timeout)) :
    hosted.Current := by
  obtain ⟨same, aimed⟩ := waits
  constructor
  · rw [together.watched, together.scanned]
    exact insertionSort_of_perm same
  · intro hooked target
    cases aimed with
    | inl idle => exact absurd (together.unhooked idle) hooked
    | inr aimed =>
        have listed : target.1 ∈ phase.hookedFor ↔ target.1 ∈ phase.found := by
          rw [← List.mem_toFinset, aimed, List.mem_toFinset]
        rw [together.targets hooked, together.scanned, mem_targets, mem_targets, listed]

theorem install_ensures {hosted : Hosted} (held : hosted.Held)
    (unhooked : hosted.runtime.hook = none) (pids : List Pid) :
    nativeDesk.ensures (hosted.runtime.install pids)
      (fun result after => result.1 = result.2.hook.isSome ∧
        result.2.watch = hosted.runtime.watch ∧
        Installation hosted.desk pids after result.2.hook) hosted.desk := by
  apply ensures_seq (installForPids_ensures (held.registered_nil unhooked)
    (held.eventTx_none unhooked))
  intro hook after installed
  rw [unhooked]
  exact ⟨rfl, rfl, installed⟩

theorem remove_ensures {hosted : Hosted} (held : hosted.Held) :
    nativeDesk.ensures hosted.runtime.remove
      (fun runtime after => runtime = { hosted.runtime with hook := none } ∧
        after = { hosted.desk with registered := [], eventTx := none }) hosted.desk := by
  unfold NativeRuntime.remove
  cases found : hosted.runtime.hook with
  | none =>
      refine ⟨rfl, ?_⟩
      rw [← held.registered_nil found, ← held.eventTx_none found]
  | some hook =>
      have hooks := held.hooks
      rw [found] at hooks
      apply ensures_seq (Engine.drop_ensures hooks)
      rintro _ _ rfl
      exact ⟨rfl, rfl⟩

theorem events_ensures {hosted : Hosted} (held : hosted.Held) :
    nativeDesk.ensures hosted.runtime.events
      (fun events after =>
        events = (hosted.raised.take eventQueueCapacity).map WinEvent.window ∧
        ∃ queues, after = { hosted.desk with queues := queues } ∧
          ∀ hook, hosted.runtime.hook = some hook → queues hook.rx = []) hosted.desk := by
  unfold NativeRuntime.events
  cases found : hosted.runtime.hook with
  | none =>
      refine ⟨?_, hosted.desk.queues, rfl, fun hook absent => nomatch absent⟩
      rw [held.silent found]
      rfl
  | some hook =>
      have queue := held.queue hook found
      have short : (hosted.desk.queues hook.rx).length < eventQueueCapacity + 1 := by
        rw [queue, List.length_take]
        omega
      apply ensures_seq (drainFor_ensures short)
      rintro drained _ ⟨rfl, rfl⟩
      refine ⟨by rw [queue], _, rfl, fun other same => ?_⟩
      cases same
      exact Function.update_self _ _ _

theorem watchPids_ensures {hosted : Hosted} (held : hosted.Held) (pids : List Pid) :
    nativeDesk.ensures (hosted.runtime.watchPids pids)
      (fun runtime after => runtime.hook = hosted.runtime.hook ∧
        runtime.watch.pids = pids.insertionSort (· ≤ ·) ∧
        ∃ opened, after = { hosted.desk with opened := opened } ∧
          opened.map Prod.fst = runtime.watch.handles.reduceOption ∧
          (opened.map Prod.snd).Sublist runtime.watch.pids) hosted.desk := by
  have watched : nativeDesk.ensures (hosted.runtime.watch.watch pids)
      (fun watch after => watch.pids = pids.insertionSort (· ≤ ·) ∧
        ∃ opened, after = { hosted.desk with opened := opened } ∧
          opened.map Prod.fst = watch.handles.reduceOption ∧
          (opened.map Prod.snd).Sublist watch.pids) hosted.desk := by
    unfold PidWatch.watch
    split
    · rename_i same
      exact ⟨same.symm, hosted.desk.opened, rfl, held.handles, held.pids⟩
    · apply ensures_seq (closeAll_ensures held.handles)
      rintro _ _ rfl
      apply ensures_seq (openEach_ensures _)
      rintro handles _ ⟨fresh, rfl, opened, listed⟩
      exact ⟨rfl, fresh, rfl, opened, listed⟩
  apply ensures_seq watched
  rintro watch _ ⟨same, opened, rfl, handles, listed⟩
  exact ⟨rfl, same, opened, rfl, handles, listed⟩

theorem alive_ensures {runtime : NativeRuntime} {before : EventDesk} :
    nativeDesk.ensures runtime.alive (fun _ after => after = before) before := by
  unfold NativeRuntime.alive PidWatch.allAlive
  split
  · rfl
  · exact allRunning_ensures _

section Together

variable {hosted settled : Hosted} {phase : HookPhase}

/-- A runtime without a hook has nothing of one on the desk, and its handles are left
alone. -/
theorem Hosted.Together.bare (together : hosted.Together phase) {desk : EventDesk}
    {next : HookPhase} (released : desk.registered = []) (silent : desk.eventTx = none)
    (opened : desk.opened = hosted.desk.opened) (found : next.found = phase.found)
    (watched : next.watched = phase.watched) :
    Hosted.Together
      { hosted with runtime := { hosted.runtime with hook := none }, desk := desk, raised := [] }
      next where
  hooks := by rw [released]; rfl
  sender := silent
  queue := by intro hook absent; cases absent
  silent _ := rfl
  handles := by rw [opened]; exact together.handles
  pids := by rw [opened]; exact together.pids
  told := together.told
  scanned := together.scanned.trans found.symm
  watched := by rw [watched]; exact together.watched
  unhooked _ := rfl
  targets hooked := absurd rfl hooked
  awake := together.awake

theorem Hosted.Together.installs (together : hosted.Together phase) {pids : List Pid}
    {installed : Bool} (idle : phase.idle = true)
    (settles : hosted.Settles (.install pids) installed settled) :
    settled.Together { phase with idle := !installed, hookedFor := pids } := by
  obtain ⟨runtime, desk, ran, rfl⟩ := settles
  have unhooked := together.unhooked idle
  have left := ensures_runs (install_ensures together.toHeld unhooked pids) ran
  obtain ⟨told, watch, installation⟩ := left
  obtain ⟨hook, watched⟩ := runtime
  simp only at told watch installation
  subst watch told
  cases hook with
  | none =>
      obtain ⟨released, silent, opened⟩ := installation
      exact together.bare released silent opened rfl rfl
  | some hook =>
      obtain ⟨hooks, targets, sender, queue, opened⟩ := installation
      exact {
        hooks := hooks
        sender := sender
        queue := by
          intro other same
          cases same
          exact queue
        silent := by intro absent; cases absent
        handles := by rw [opened]; exact together.handles
        pids := by rw [opened]; exact together.pids
        told := together.told
        scanned := together.scanned
        watched := together.watched
        unhooked := by intro absent; cases absent
        targets := fun _ => targets
        awake := together.awake }

theorem Hosted.Together.removes (together : hosted.Together phase)
    (settles : hosted.Settles .remove () settled) :
    settled.Together { phase with idle := true } := by
  obtain ⟨runtime, desk, ran, rfl⟩ := settles
  have left := ensures_runs (remove_ensures together.toHeld) ran
  obtain ⟨rfl, rfl⟩ := left
  exact together.bare rfl rfl rfl rfl rfl

theorem Hosted.Together.learns (together : hosted.Together phase) {hooked : Bool}
    (settles : hosted.Settles .hooked hooked settled) :
    settled.Together { phase with idle := phase.idle || !hooked } := by
  obtain ⟨rfl, rfl⟩ := settles
  refine { together with unhooked := fun idle => ?_ }
  rcases Bool.or_eq_true_iff.mp idle with known | told
  · exact together.unhooked known
  · simpa [NativeRuntime.hooked] using told

theorem Hosted.Together.drains (together : hosted.Together phase) {events : List WindowEvent}
    (settles : hosted.Settles .events events settled) : settled.Together phase := by
  obtain ⟨desk, ran, rfl⟩ := settles
  have left := ensures_runs (events_ensures together.toHeld) ran
  obtain ⟨told, queues, rfl, empty⟩ := left
  exact { together with
    queue := empty
    silent := fun _ => rfl
    told := by rw [together.told, told] }

theorem Hosted.Together.watches (together : hosted.Together phase) {pids : List Pid}
    (settles : hosted.Settles (.watch pids) () settled) :
    settled.Together { phase with watched := pids } := by
  obtain ⟨runtime, desk, ran, rfl⟩ := settles
  have left := ensures_runs (watchPids_ensures together.toHeld pids) ran
  obtain ⟨hook, watched, opened, rfl, handles, listed⟩ := left
  exact {
    hooks := by rw [hook]; exact together.hooks
    sender := by rw [hook]; exact together.sender
    queue := by rw [hook]; exact together.queue
    silent := by rw [hook]; exact together.silent
    handles := handles
    pids := listed
    told := together.told
    scanned := together.scanned
    watched := watched
    unhooked := by rw [hook]; exact together.unhooked
    targets := by rw [hook]; exact together.targets
    awake := together.awake }

theorem Hosted.Together.settles {call : LoopCall} {answer : call.Answer}
    (together : hosted.Together phase) (allowed : hookCare.allows phase call)
    (settles : hosted.Settles call answer settled) :
    settled.Together (hookCare.moves phase call answer) := by
  cases call with
  | install pids => exact together.installs allowed settles
  | remove => exact together.removes settles
  | hooked => exact together.learns settles
  | events => exact together.drains settles
  | watch pids => exact together.watches settles
  | alive =>
      obtain ⟨desk, ran, rfl⟩ := settles
      have left := ensures_runs alive_ensures ran
      subst left
      exact together
  | scan =>
      cases settles
      exact { together with scanned := by rw [together.scanned]; rfl }
  | _ =>
      cases settles
      exact together

end Together

end LayoutAdblock.Engine
