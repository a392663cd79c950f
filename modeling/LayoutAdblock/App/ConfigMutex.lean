import LayoutAdblock.App.SingleInstance
import LayoutAdblock.Config.Serial
import LayoutAdblock.Interaction.MutexLock

namespace LayoutAdblock.App

open LayoutAdblock.Core Data Interaction LayoutAdblock.Config

/-! # The mutex of the configuration

`ConfigMutex` is the lock that the model of the settings takes for granted.
Here it is made of the calls of the operating system.
-/

section Guard

variable {Op : Type} {Answer : Op → Type}

def configBusy : IoError := { rawOsError := none, text := "configuration is busy" }

/-- `ConfigMutex::acquire`, with the error of a creation that fails.  A mutex that
was abandoned is acquired like a free one. -/
def acquireConfig (failed : IoError) : MutexProgram Op Answer (Except IoError Unit) := do
  let created ← mutexCall (.create false)
  if created then
    let signalled ← mutexCall .wait
    if signalled then return .ok ()
    else
      mutexCall .close
      return .error configBusy
  else return .error failed

def dropConfig : MutexProgram Op Answer Unit := do
  mutexCall .release
  mutexCall .close

end Guard

variable {ι : Type} {host : Host} {path : String} {failed : IoError}

/-- `update_settings` in a process of its own. The change is made within the named mutex,
and a process that is refused the mutex reports an error and changes nothing. -/
def updateSettingsProcess (failed : IoError) (host : Host) (path : String) (fallback : AppSettings)
    (change : AppSettings → AppSettings) :
    MutexProgram Config.Call Call.Answer (Except IoError AppSettings) := do
  match ← acquireConfig failed with
  | .error error => return .error error
  | .ok () =>
      let result ← inside (updateSettingsUnlocked host path fallback change).run
      dropConfig
      return result

theorem updateSettingsProcess_eq (fallback : AppSettings) (change : AppSettings → AppSettings) :
    updateSettingsProcess failed host path fallback change =
      mutexSection failed configBusy Except.error
        (updateSettingsUnlocked host path fallback change).run := by
  refine congrArg (Program.call _) (funext fun created => ?_)
  cases created with
  | false => rfl
  | true =>
      refine congrArg (Program.call _) (funext fun signalled => ?_)
      cases signalled with
      | false => rfl
      | true => rfl

/-- All processes are about to change the settings. -/
def updaters (failed : IoError) (host : Host) (path : String) (fallback : ι → AppSettings)
    (change : ι → AppSettings → AppSettings) (store : Store) :
    Processes Config.Call Call.Answer Store (Except IoError AppSettings) ι where
  state := store
  programs process := updateSettingsProcess failed host path (fallback process) (change process)

variable [DecidableEq ι] {fallback : ι → AppSettings} {change : ι → AppSettings → AppSettings}
  {store : Store}
  {processes : Processes Config.Call Call.Answer Store (Except IoError AppSettings) ι}

omit [DecidableEq ι] in
theorem updaters_eq : updaters failed host path fallback change store =
    mutexSections failed configBusy (fun _ => Except.error)
      (fun process => (updateSettingsUnlocked host path (fallback process)
        (change process)).run) store := by
  unfold updaters mutexSections
  congr 1
  funext process
  exact updateSettingsProcess_eq (fallback process) (change process)

/-- The mutex is the lock: however processes open it, wait, run into the time limit, change the
settings or are ended without it, and whatever the operating system answers, their files and
results are those of critical sections. -/
theorem config_mutex_refines
    (reach : Processes.Reach (sectionWorld directory ι)
      (updaters failed host path fallback change store) processes) :
    ∃ crowd, Crowd.Reach directory (callers host path fallback change store) crowd ∧
      crowd.state = processes.state ∧ crowd.holder = processes.mutex.owner ∧
      ∀ process result, processes.ended process = false →
        processes.programs process = .done result → crowd.parties process = .done result := by
  rw [updaters_eq] at reach
  obtain ⟨crowd, reached, implements⟩ := mutexSections_reach reach
  refine ⟨crowd, reached, implements.state, implements.holder, fun process result runs through => ?_⟩
  have stands := implements.stands process runs
  rw [through] at stands
  exact stands.done

/-- What a process gets that may not open the mutex. -/
def opensFailed : IoError := { rawOsError := some 5, text := "Access is denied." }

/-- Two processes that share the settings file and the named mutex over it. -/
abbrev TwoProcesses : Type :=
  Processes Config.Call Call.Answer Store (Except IoError AppSettings) Bool

/-- One of them switches the blocker off and the other one the aggressive mode, both in the
default settings. -/
def twoUpdaters : TwoProcesses :=
  updaters opensFailed toggleHost "settings.json" (fun _ => {}) toggle (.unsynced defaultFiles)

/-- What either of them does once it holds the mutex. -/
def toggleBody (process : Bool) : ConfigM (Except IoError AppSettings) :=
  (updateSettingsUnlocked toggleHost "settings.json" {} (toggle process)).run

/-- The process has opened the mutex and waits for it. -/
def waitFor (process : Bool) : MutexProgram Config.Call Call.Answer (Except IoError AppSettings) :=
  .call .wait (afterWait configBusy Except.error (toggleBody process))

/-- The wait has timed out, so the process closes its handle and reports that the
configuration is busy. -/
def busyLeft : MutexProgram Config.Call Call.Answer (Except IoError AppSettings) :=
  .call .close fun _ => .done (.error configBusy)

/-- One process is in its update, the other wants to be. -/
def oneInside : TwoProcesses :=
  ((twoUpdaters.proceed true (twoUpdaters.mutex.found true false) twoUpdaters.state
    (waitFor true)).proceed false ((twoUpdaters.mutex.found true false).join false)
      twoUpdaters.state (waitFor false)).proceed true
        { (twoUpdaters.mutex.found true false).join false with owner := some true }
          twoUpdaters.state (inside (toggleBody true) >>= leaveMutex)

/-- The second process has given up while the first one is still inside. -/
def otherRefused : TwoProcesses :=
  (oneInside.proceed false oneInside.mutex oneInside.state busyLeft).proceed false
    { oneInside.mutex with opened := Function.update oneInside.mutex.opened false false }
      oneInside.state (.done (.error configBusy))

/-- The processes whose sections are run over a directory, torn writes included. -/
abbrev settingsWorld : Processes.World Config.Call Call.Answer Store Bool :=
  sectionWorld directory Bool

theorem twoUpdaters_pending (process : Bool) : twoUpdaters.programs process =
    .call (.create false) (afterOpening opensFailed configBusy Except.error (toggleBody process)) :=
  updateSettingsProcess_eq {} (toggle process)

theorem oneInside_reach : Processes.Reach settingsWorld twoUpdaters oneInside := by
  have absent : ¬ twoUpdaters.mutex.Present := by
    rintro ⟨process, opened⟩
    cases opened
  have creates : @NamedMutex.Step Config.Call Call.Answer Bool _ true twoUpdaters.mutex
      (.create false) true (twoUpdaters.mutex.found true false) :=
    Or.inr ⟨rfl, Or.inr ⟨absent, rfl⟩⟩
  have first : Processes.Step settingsWorld twoUpdaters _ :=
    .calls rfl (twoUpdaters_pending true) nofun creates
  let created := twoUpdaters.proceed true (twoUpdaters.mutex.found true false) twoUpdaters.state
    (waitFor true)
  have present : created.mutex.Present := ⟨true, rfl⟩
  have joins : @NamedMutex.Step Config.Call Call.Answer Bool _ false created.mutex
      (.create false) true (created.mutex.join false) := Or.inr ⟨rfl, Or.inl ⟨present, rfl⟩⟩
  have asks : created.programs false = .call (.create false)
      (afterOpening opensFailed configBusy Except.error (toggleBody false)) :=
    twoUpdaters_pending false
  have second : Processes.Step settingsWorld created _ := .calls rfl asks nofun joins
  let joined := created.proceed false (created.mutex.join false) created.state (waitFor false)
  have waits : joined.programs true = waitFor true := rfl
  have acquires : @NamedMutex.Step Config.Call Call.Answer Bool _ true joined.mutex .wait true
      { joined.mutex with owner := some true } := Or.inr ⟨rfl, Or.inl rfl, rfl⟩
  have third : Processes.Step settingsWorld joined _ := .calls rfl waits nofun acquires
  exact ((Relation.ReflTransGen.single first).tail second).tail third

theorem otherRefused_reach : Processes.Reach settingsWorld twoUpdaters otherRefused := by
  have waits : oneInside.programs false = waitFor false := rfl
  have times : @NamedMutex.Step Config.Call Call.Answer Bool _ false oneInside.mutex .wait false
      oneInside.mutex := Or.inl ⟨rfl, rfl⟩
  have fourth : Processes.Step settingsWorld oneInside _ := .calls rfl waits nofun times
  let refused := oneInside.proceed false oneInside.mutex oneInside.state busyLeft
  have leaves : refused.programs false = busyLeft := rfl
  have closes : @NamedMutex.Step Config.Call Call.Answer Bool _ false refused.mutex .close ()
      { refused.mutex with opened := Function.update refused.mutex.opened false false } :=
    { opened := rfl, error := rfl, kept := fun _ => rfl,
      lost := fun absent => absurd ⟨true, rfl⟩ absent }
  have fifth : Processes.Step settingsWorld refused _ := .calls rfl leaves nofun closes
  exact (oneInside_reach.tail fourth).tail fifth

/-- The process that timed out has its error in the critical sections, and the other the lock. -/
theorem otherRefused_refines :
    ∃ crowd, Crowd.Reach directory
        (callers toggleHost "settings.json" (fun _ => {}) toggle (.unsynced defaultFiles)) crowd ∧
      crowd.holder = some true ∧ crowd.parties false = .done (.error configBusy) := by
  obtain ⟨crowd, reach, _, holder, results⟩ := config_mutex_refines otherRefused_reach
  exact ⟨crowd, reach, holder, results false _ rfl rfl⟩

end LayoutAdblock.App
