import Mathlib.Data.List.Nodup
import Mathlib.Logic.Function.Basic
import LayoutAdblock.Interaction.Environment

namespace LayoutAdblock.Interaction

/-! # Programs behind a lock

Several parties work on one state, each in a critical section of its own.  Their
calls interleave in any order, but as long as the lock keeps the sections apart
the parties might as well have come one after the other.
-/

open Environment

/-- A call of a program that uses a lock, which is one about the lock or one of its own. -/
inductive LockCall (Op : Type) where
  | acquire
  | release
  | inner (op : Op)

@[reducible] def LockAnswer {Op : Type} (Refusal : Type) (Answer : Op → Type) :
    LockCall Op → Type
  | .acquire => Option Refusal
  | .release => Unit
  | .inner op => Answer op

/-- A program that uses a lock. Where it is refused the lock it is told why. -/
abbrev Locked (Op : Type) (Answer : Op → Type) (Refusal α : Type) :=
  Program (LockCall Op) (LockAnswer Refusal Answer) α

variable {Op : Type} {Answer : Op → Type} {Refusal σ α β ι : Type}

/-- A program within the lock, which knows nothing of it. -/
def inLock : Program Op Answer α → Locked Op Answer Refusal α
  | .done value => .done value
  | .call op next => .call (.inner op) fun answer => inLock (next answer)

/-- A section that is over gives the lock back. -/
def leaveLock (value : α) : Locked Op Answer Refusal α :=
  .call .release fun _ => .done value

/-- The guard is dropped however the section ends. -/
def critical (refused : Refusal → α) (body : Program Op Answer α) :
    Locked Op Answer Refusal α :=
  .call .acquire fun
    | some refusal => .done (refused refusal)
    | none => inLock body >>= leaveLock

/-- What one party sees of its environment while nobody else is around. -/
def alone (Refusal : Type) (env : Environment Op Answer σ) :
    Environment (LockCall Op) (LockAnswer Refusal Answer) σ where
  step
    | .acquire, before, _, after | .release, before, _, after => after = before
    | .inner op, before, answer, after => env.step op before answer after
  torn
    | .acquire, _, _ | .release, _, _ => False
    | .inner op, before, seen => env.torn op before seen

variable {env : Environment Op Answer σ} {invariant : σ → Prop} {state : σ}

/-- What a body ensures, it ensures wherever its calls do no more. -/
theorem wp_inLock_of {locked : Environment (LockCall Op) (LockAnswer Refusal Answer) σ}
    {body : Program Op Answer α} {post : α → σ → Prop}
    (steps : ∀ op before answer after, locked.step (.inner op) before answer after →
      env.step op before answer after)
    (torn : ∀ op before seen, locked.torn (.inner op) before seen → env.torn op before seen)
    (holds : env.wp invariant body post state) :
    locked.wp invariant (inLock body) post state := by
  induction body generalizing state with
  | done value => exact holds
  | call op next ih =>
      refine ⟨fun seen tears => holds.1 seen (torn op state seen tears), ?_⟩
      intro answer after step
      have afterStep := holds.2 answer after (steps op state answer after step)
      exact ⟨afterStep.1, ih answer afterStep.2⟩

theorem wp_inLock {body : Program Op Answer α} {post : α → σ → Prop}
    (holds : env.wp invariant body post state) :
    (alone Refusal env).wp invariant (inLock body) post state :=
  wp_inLock_of (fun _ _ _ _ step => step) (fun _ _ _ tears => tears) holds

theorem wp_critical {refused : Refusal → α} {body : Program Op Answer α}
    {post : α → σ → Prop} (initially : invariant state)
    (safe : ∀ value after, post value after → invariant after)
    (refuses : ∀ refusal, post (refused refusal) state)
    (holds : env.wp invariant body post state) :
    (alone Refusal env).wp invariant (critical refused body) post state := by
  refine ⟨fun _ torn => torn.elim, ?_⟩
  intro answer after step
  obtain rfl : after = state := step
  refine ⟨initially, ?_⟩
  cases answer with
  | some refusal => exact refuses refusal
  | none =>
      apply wp_seq (wp_inLock holds)
      intro value after held
      refine ⟨fun _ torn => torn.elim, ?_⟩
      intro _ released step
      obtain rfl : released = after := step
      exact ⟨safe value released held, held⟩

theorem runs_inLock_of {locked : Environment (LockCall Op) (LockAnswer Refusal Answer) σ}
    {body : Program Op Answer α} {before after : σ} {value : α}
    (steps : ∀ op before answer after, env.step op before answer after →
      locked.step (.inner op) before answer after)
    (run : env.Runs body before value after) : locked.Runs (inLock body) before value after := by
  induction run with
  | done => exact Runs.done
  | call step _ ih => exact Runs.call (steps _ _ _ _ step) ih

theorem runs_critical_of {locked : Environment (LockCall Op) (LockAnswer Refusal Answer) σ}
    {refused : Refusal → α} {body : Program Op Answer α} {before after : σ} {value : α}
    (steps : ∀ op before answer after, env.step op before answer after →
      locked.step (.inner op) before answer after)
    (acquires : locked.step .acquire before none before)
    (releases : locked.step .release after () after) (run : env.Runs body before value after) :
    locked.Runs (critical refused body) before value after :=
  Runs.call acquires ((runs_inLock_of steps run).bind (Runs.call releases Runs.done))

theorem runs_critical {refused : Refusal → α} {body : Program Op Answer α} {before after : σ}
    {value : α} (run : env.Runs body before value after) :
    (alone Refusal env).Runs (critical refused body) before value after :=
  runs_critical_of (fun _ _ _ _ step => step) rfl rfl run

/-- Any number of parties over one state and one lock, each with what is left of its
program. At most one of them holds the lock. -/
structure Crowd (Op : Type) (Answer : Op → Type) (Refusal σ α ι : Type) where
  state : σ
  holder : Option ι
  parties : ι → Locked Op Answer Refusal α

namespace Crowd

variable [DecidableEq ι] {before after start crowd : Crowd Op Answer Refusal σ α ι}

/-- One party goes on to the rest of its program. -/
def proceed (crowd : Crowd Op Answer Refusal σ α ι) (party : ι)
    (rest : Locked Op Answer Refusal α) : Crowd Op Answer Refusal σ α ι :=
  { crowd with parties := Function.update crowd.parties party rest }

@[simp] theorem proceed_self (crowd : Crowd Op Answer Refusal σ α ι) (party : ι)
    (rest : Locked Op Answer Refusal α) : (crowd.proceed party rest).parties party = rest :=
  Function.update_self ..

theorem proceed_other (crowd : Crowd Op Answer Refusal σ α ι) {party other : ι}
    (rest : Locked Op Answer Refusal α) (different : other ≠ party) :
    (crowd.proceed party rest).parties other = crowd.parties other :=
  Function.update_of_ne different ..

/-- Some party makes its next call. The lock is exclusive: it is acquired only while it is
free, or refused at any time. -/
inductive Step (env : Environment Op Answer σ) :
    Crowd Op Answer Refusal σ α ι → Crowd Op Answer Refusal σ α ι → Prop where
  | acquire {crowd : Crowd Op Answer Refusal σ α ι} {party : ι}
      {next : Option Refusal → Locked Op Answer Refusal α} (free : crowd.holder = none)
      (pending : crowd.parties party = .call .acquire next) :
      Step env crowd { crowd.proceed party (next none) with holder := some party }
  | refuse {crowd : Crowd Op Answer Refusal σ α ι} {party : ι} {refusal : Refusal}
      {next : Option Refusal → Locked Op Answer Refusal α}
      (pending : crowd.parties party = .call .acquire next) :
      Step env crowd (crowd.proceed party (next (some refusal)))
  | release {crowd : Crowd Op Answer Refusal σ α ι} {party : ι}
      {next : Unit → Locked Op Answer Refusal α}
      (pending : crowd.parties party = .call .release next) :
      Step env crowd { crowd.proceed party (next ()) with holder := none }
  | inner {crowd : Crowd Op Answer Refusal σ α ι} {party : ι} {op : Op}
      {next : Answer op → Locked Op Answer Refusal α} {answer : Answer op} {state : σ}
      (pending : crowd.parties party = .call (.inner op) next)
      (taken : env.step op crowd.state answer state) :
      Step env crowd { crowd.proceed party (next answer) with state := state }

/-- What a crowd can come to, when its parties go on in any order and each of them as far as
it likes. -/
inductive Reach (env : Environment Op Answer σ) (start : Crowd Op Answer Refusal σ α ι) :
    Crowd Op Answer Refusal σ α ι → Prop where
  | start : Reach env start start
  | step {before after : Crowd Op Answer Refusal σ α ι} (earlier : Reach env start before)
      (step : Step env before after) : Reach env start after

/-- Every party is about to enter its section. -/
def opening (state : σ) (refused : ι → Refusal → α) (body : ι → Program Op Answer α) :
    Crowd Op Answer Refusal σ α ι where
  state := state
  holder := none
  parties := fun party => critical (refused party) (body party)

theorem Reach.of_answering {allowed : (op : Op) → σ → Answer op → Prop}
    (reach : Reach (env.answering allowed) start crowd) : Reach env start crowd := by
  induction reach with
  | start => exact .start
  | step _ step ih =>
      refine .step ih ?_
      cases step with
      | acquire free pending => exact .acquire free pending
      | refuse pending => exact .refuse pending
      | release pending => exact .release pending
      | inner pending taken => exact .inner pending taken.2

/-- What is left of a section, when nobody disturbs it. -/
theorem Reach.finish {party : ι} {body : Program Op Answer α} {before after : σ} {value : α}
    {parties : ι → Locked Op Answer Refusal α}
    (reach : Reach env start ⟨before, some party, parties⟩)
    (pending : parties party = inLock body >>= leaveLock)
    (run : env.Runs body before value after) :
    Reach env start ⟨after, none, Function.update parties party (.done value)⟩ := by
  induction run generalizing parties with
  | @done value state =>
      let holding : Crowd Op Answer Refusal σ α ι := ⟨state, some party, parties⟩
      have releases : holding.parties party = .call .release fun _ => .done value := pending
      exact .step reach (.release releases)
  | @call op next before middle after answer value step rest ih =>
      let holding : Crowd Op Answer Refusal σ α ι := ⟨before, some party, parties⟩
      have calls : holding.parties party =
          .call (.inner op) fun answer => inLock (next answer) >>= leaveLock := pending
      have finished := ih (.step reach (.inner calls step)) (Function.update_self ..)
      simpa only [proceed, Function.update_idem] using finished

theorem Reach.undisturbed {party : ι} {refused : Refusal → α} {body : Program Op Answer α}
    {before after : σ} {value : α} {parties : ι → Locked Op Answer Refusal α}
    (reach : Reach env start ⟨before, none, parties⟩)
    (pending : parties party = critical refused body) (run : env.Runs body before value after) :
    Reach env start ⟨after, none, Function.update parties party (.done value)⟩ := by
  let waiting : Crowd Op Answer Refusal σ α ι := ⟨before, none, parties⟩
  have acquires : waiting.parties party = .call .acquire fun
    | some refusal => .done (refused refusal)
    | none => inLock body >>= leaveLock := pending
  have finished := Reach.finish (.step reach (.acquire rfl acquires)) (Function.update_self ..) run
  simpa only [proceed, Function.update_idem] using finished

/-- The sections that are over, in the order in which they ended, and their
results. -/
abbrev History (ι α : Type) := List (ι × α)

/-- Where a party outside its section stands: it still waits for the lock, it was refused,
or its section is over and its value is in the history. -/
inductive Outside (refused : ι → Refusal → α) (body : ι → Program Op Answer α)
    (history : History ι α) (party : ι) : Locked Op Answer Refusal α → Prop where
  | waiting (unseen : party ∉ history.map Prod.fst) :
      Outside refused body history party (critical (refused party) (body party))
  | refused (unseen : party ∉ history.map Prod.fst) (refusal : Refusal) :
      Outside refused body history party (.done (refused party refusal))
  | ended {value : α} (seen : (party, value) ∈ history) :
      Outside refused body history party (.done value)

/-- The crowd as a sequence of sections, one of which may be under way. While the lock is
free the state is settled for that sequence, and the section under way will settle the state
for the sequence with itself at the end. -/
structure Serial (env : Environment Op Answer σ) (refused : ι → Refusal → α)
    (body : ι → Program Op Answer α) (settled : History ι α → σ → Prop)
    (history : History ι α) (crowd : Crowd Op Answer Refusal σ α ι) : Prop where
  distinct : (history.map Prod.fst).Nodup
  free : crowd.holder = none → settled history crowd.state
  held : ∀ party, crowd.holder = some party → party ∉ history.map Prod.fst ∧
    ∃ rest, crowd.parties party = inLock rest >>= leaveLock ∧
      env.ensures rest (fun value => settled (history ++ [(party, value)])) crowd.state
  outside : ∀ party, crowd.holder ≠ some party →
    Outside refused body history party (crowd.parties party)

section Serialization

variable {refused : ι → Refusal → α} {body : ι → Program Op Answer α}
  {settled : History ι α → σ → Prop} {history : History ι α} {party other : ι}
  {program : Locked Op Answer Refusal α}

omit [DecidableEq ι] in
theorem Outside.snoc {value : α} (outside : Outside refused body history other program)
    (different : other ≠ party) :
    Outside refused body (history ++ [(party, value)]) other program := by
  have unseen : other ∉ history.map Prod.fst →
      other ∉ (history ++ [(party, value)]).map Prod.fst := by
    intro missing
    rw [List.map_append, List.mem_append]
    exact fun either => either.elim missing fun last => different (List.mem_singleton.mp last)
  cases outside with
  | waiting missing => exact .waiting (unseen missing)
  | refused missing refusal => exact .refused (unseen missing) refusal
  | ended seen => exact .ended (List.mem_append_left _ seen)

omit [DecidableEq ι] in
/-- A party outside its section that makes a call asks for the lock. -/
theorem Outside.acquiring {next : Option Refusal → Locked Op Answer Refusal α}
    (outside : Outside refused body history party program)
    (pending : program = .call .acquire next) :
    party ∉ history.map Prod.fst ∧
      (∀ refusal, next (some refusal) = .done (refused party refusal)) ∧
      next none = inLock (body party) >>= leaveLock := by
  cases outside with
  | waiting unseen =>
      simp only [critical, Program.call.injEq, true_and] at pending
      obtain rfl := eq_of_heq pending
      exact ⟨unseen, fun _ => rfl, rfl⟩
  | refused unseen refusal => cases pending
  | ended seen => cases pending

omit [DecidableEq ι] in
theorem Outside.not_inner {op : Op} {next : Answer op → Locked Op Answer Refusal α}
    (outside : Outside refused body history party program) :
    program ≠ .call (.inner op) next := by
  intro pending
  cases outside <;> cases pending

omit [DecidableEq ι] in
theorem Outside.not_release {next : Unit → Locked Op Answer Refusal α}
    (outside : Outside refused body history party program) : program ≠ .call .release next := by
  intro pending
  cases outside <;> cases pending

omit [DecidableEq ι] in
theorem section_not_acquire {rest : Program Op Answer α}
    {next : Option Refusal → Locked Op Answer Refusal α} :
    inLock rest >>= leaveLock ≠ (.call .acquire next : Locked Op Answer Refusal α) := by
  intro pending
  cases rest <;> cases pending

/-- The other parties stand where they stood. -/
theorem Serial.others (serial : Serial env refused body settled history before)
    {rest : Locked Op Answer Refusal α} (notHolder : before.holder ≠ some other)
    (different : other ≠ party) :
    Outside refused body history other ((before.proceed party rest).parties other) := by
  rw [proceed_other before rest different]
  exact serial.outside other notHolder

theorem Serial.acquire (serial : Serial env refused body settled history before)
    {next : Option Refusal → Locked Op Answer Refusal α} (free : before.holder = none)
    (pending : before.parties party = .call .acquire next)
    (enters : env.ensures (body party) (fun value => settled (history ++ [(party, value)]))
      before.state) :
    Serial env refused body settled history
      { before.proceed party (next none) with holder := some party } := by
  have outside := serial.outside party (by simp [free])
  obtain ⟨unseen, _, enter⟩ := outside.acquiring pending
  refine ⟨serial.distinct, fun none => (nomatch none), ?_, ?_⟩
  · intro other holds
    obtain rfl := Option.some.inj holds
    refine ⟨unseen, body party, ?_, enters⟩
    rw [← enter]
    exact before.proceed_self party (next none)
  · intro other apart
    exact serial.others (by simp [free]) fun same => apart (same ▸ rfl)

theorem Serial.refuse (serial : Serial env refused body settled history before)
    {next : Option Refusal → Locked Op Answer Refusal α} {refusal : Refusal}
    (pending : before.parties party = .call .acquire next) :
    Serial env refused body settled history (before.proceed party (next (some refusal))) := by
  have notHolder : before.holder ≠ some party := by
    intro holds
    obtain ⟨_, rest, stands, _⟩ := serial.held party holds
    exact section_not_acquire (stands.symm.trans pending)
  obtain ⟨unseen, refuses, _⟩ := (serial.outside party notHolder).acquiring pending
  refine ⟨serial.distinct, serial.free, ?_, ?_⟩
  · intro other holds
    obtain ⟨apart, rest, stands, ensured⟩ := serial.held other holds
    refine ⟨apart, rest, ?_, ensured⟩
    have different : other ≠ party := fun same => notHolder (same ▸ holds)
    rw [proceed_other before _ different]
    exact stands
  · intro other apart
    by_cases same : other = party
    · subst same
      rw [proceed_self, refuses]
      exact .refused unseen refusal
    · exact serial.others apart same

theorem Serial.release (serial : Serial env refused body settled history before)
    {next : Unit → Locked Op Answer Refusal α}
    (pending : before.parties party = .call .release next) :
    ∃ value, Serial env refused body settled (history ++ [(party, value)])
      { before.proceed party (next ()) with holder := none } := by
  have holds : before.holder = some party := by
    by_contra notHolder
    exact (serial.outside party notHolder).not_release pending
  obtain ⟨unseen, rest, stands, ensured⟩ := serial.held party holds
  rw [stands] at pending
  cases rest with
  | call op step => cases pending
  | done value =>
      cases pending
      refine ⟨value, ?_, fun _ => ensured, fun _ none => (nomatch none), ?_⟩
      · rw [List.map_append, List.nodup_append]
        refine ⟨serial.distinct, List.nodup_singleton party, ?_⟩
        intro seen member last isLast same
        rw [same, List.mem_singleton.mp isLast] at member
        exact unseen member
      · intro other _
        by_cases same : other = party
        · subst same
          rw [proceed_self]
          exact .ended (List.mem_append_right _ (List.mem_singleton_self _))
        · refine (serial.others ?_ same).snoc same
          intro alsoHolds
          exact same (Option.some.inj (alsoHolds.symm.trans holds))

theorem Serial.inner (serial : Serial env refused body settled history before) {op : Op}
    {next : Answer op → Locked Op Answer Refusal α} {answer : Answer op} {state : σ}
    (pending : before.parties party = .call (.inner op) next)
    (taken : env.step op before.state answer state) :
    Serial env refused body settled history
      { before.proceed party (next answer) with state := state } := by
  have holds : before.holder = some party := by
    by_contra notHolder
    exact (serial.outside party notHolder).not_inner pending
  obtain ⟨unseen, rest, stands, ensured⟩ := serial.held party holds
  rw [stands] at pending
  cases rest with
  | done value => cases pending
  | call op step =>
      cases pending
      refine ⟨serial.distinct, fun free => ?_, ?_, ?_⟩
      · exact nomatch holds.symm.trans free
      · intro other alsoHolds
        obtain rfl := Option.some.inj (holds.symm.trans alsoHolds)
        refine ⟨unseen, step answer, before.proceed_self .., ?_⟩
        exact (ensured.2 answer state taken).2
      · intro other apart
        refine serial.others apart ?_
        intro same
        exact apart (same ▸ holds)

theorem Serial.step (serial : Serial env refused body settled history before)
    (enters : ∀ party history state, settled history state → party ∉ history.map Prod.fst →
      env.ensures (body party) (fun value => settled (history ++ [(party, value)])) state)
    (step : Step env before after) :
    ∃ later, Serial env refused body settled later after := by
  cases step with
  | acquire free pending =>
      have unseen := ((serial.outside _ (by simp [free])).acquiring pending).1
      exact ⟨history, serial.acquire free pending (enters _ history _ (serial.free free) unseen)⟩
  | refuse pending => exact ⟨history, serial.refuse pending⟩
  | release pending =>
      obtain ⟨value, released⟩ := serial.release pending
      exact ⟨_, released⟩
  | inner pending taken => exact ⟨history, serial.inner pending taken⟩

/-- However the calls of the parties interleave, their sections come one after
the other. -/
theorem reach_serial {state : σ} (initially : settled [] state)
    (enters : ∀ party history state, settled history state → party ∉ history.map Prod.fst →
      env.ensures (body party) (fun value => settled (history ++ [(party, value)])) state)
    (reach : Reach env (opening state refused body) crowd) :
    ∃ history, Serial env refused body settled history crowd := by
  induction reach with
  | start =>
      refine ⟨[], List.nodup_nil, fun _ => initially, fun _ none => (nomatch none), ?_⟩
      intro party _
      exact .waiting (by simp)
  | step _ step ih =>
      obtain ⟨history, serial⟩ := ih
      exact serial.step enters step

omit [DecidableEq ι] in
theorem Serial.free_of_done (serial : Serial env refused body settled history crowd)
    (returned : ∀ party, ∃ value, crowd.parties party = .done value) : crowd.holder = none := by
  cases holder : crowd.holder with
  | none => rfl
  | some party =>
      obtain ⟨_, rest, stands, _⟩ := serial.held party holder
      obtain ⟨value, done⟩ := returned party
      rw [stands] at done
      cases rest <;> cases done

omit [DecidableEq ι] in
theorem Serial.done_of_mem (serial : Serial env refused body settled history crowd) {value : α}
    (free : crowd.holder = none) (seen : (party, value) ∈ history) :
    crowd.parties party = .done value := by
  have listed : party ∈ history.map Prod.fst := List.mem_map.mpr ⟨(party, value), seen, rfl⟩
  have outside := serial.outside party (by simp [free])
  generalize crowd.parties party = program at outside ⊢
  cases outside with
  | waiting unseen => exact absurd listed unseen
  | refused unseen refusal => exact absurd listed unseen
  | ended other =>
      have same := List.inj_on_of_nodup_map serial.distinct other seen rfl
      rw [(Prod.mk.inj same).2]

omit [DecidableEq ι] in
theorem Serial.mem_of_done (serial : Serial env refused body settled history crowd) {value : α}
    (free : crowd.holder = none) (done : crowd.parties party = .done value) :
    (party, value) ∈ history ∨ ∃ refusal, value = refused party refusal := by
  have outside := serial.outside party (by simp [free])
  rw [done] at outside
  cases outside with
  | refused unseen refusal => exact Or.inr ⟨refusal, rfl⟩
  | ended seen => exact Or.inl seen

end Serialization

end Crowd

end LayoutAdblock.Interaction
