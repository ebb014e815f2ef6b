import PluginSandbox.Proofs.Worker.Skipped

/-!
# The course of the jobs

Where callbacks are functions of the sandbox and the interpreter's state, and
nobody but the jobs acts on these, all that happens follows from the jobs that
were carried out, in their order. A job that is skipped leaves no trace.
-/

namespace PluginSandbox

variable {σ : Type} {interp : Interpreter σ}

/-- A callback ends, and what it comes to depends on itself, the sandbox and the state alone. -/
def Interpreter.IsTransformer (interp : Interpreter σ) : Prop :=
  ∀ callback args box s, ∃ o box' s', ∀ scene interrupted,
    interp.invoke scene interrupted callback args box s = .ends o box' s'

def Job.untagged : Job → Job
  | call _ preparation callback args => call 0 preparation callback args
  | job => job

def Job.notice? : Job → Option (String × Json)
  | task (.chain _ own _) => own
  | _ => none

/-- Raw work on the interpreter. -/
def Job.isPark : Job → Bool
  | task (.park _) => true
  | _ => false

def Event.isDisposed : Event → Bool
  | disposed => true
  | _ => false

namespace Incarnation

/-! ## What jobs see -/

/-- The incarnation as its jobs see it and leave it, on a fresh worker. -/
def bare (i : Incarnation σ) : Incarnation σ where
  sandbox := i.sandbox
  state := i.state
  worker := .start "" 1
  events := i.events.filter (!·.isDisposed)

theorem bare_bare (i : Incarnation σ) : i.bare.bare = i.bare := by
  unfold bare
  rw [List.filter_filter]
  simp only [Bool.and_self]

variable {i j : Incarnation σ}

theorem bare_eq_iff : i.bare = j.bare ↔ i.sandbox = j.sandbox ∧ i.state = j.state ∧
    i.events.filter (!·.isDisposed) = j.events.filter (!·.isDisposed) := by
  unfold bare
  rw [mk.injEq, eq_self, true_and]

theorem bare_record (h : i.bare = j.bare) (e : Event) : (i.record e).bare = (j.record e).bare := by
  rw [bare_eq_iff] at h ⊢
  refine ⟨h.1, h.2.1, ?_⟩
  rw [record, record, List.filter_append, List.filter_append, h.2.2]

theorem bare_withInterior (h : i.bare = j.bare) (box : Sandbox) (s : σ) :
    ({ i with sandbox := box, state := s } : Incarnation σ).bare =
      ({ j with sandbox := box, state := s } : Incarnation σ).bare :=
  bare_eq_iff.mpr ⟨rfl, rfl, (bare_eq_iff.mp h).2.2⟩

variable {scene scene' : Scene}

structure SameEnd (r r' : Option Completion × Incarnation σ) : Prop where
  ends : r.1.isSome = true
  completion : r.1 = r'.1
  bare : r.2.bare = r'.2.bare

theorem sameEnd_enter (ht : interp.IsTransformer) (h : i.bare = j.bare) (callback : String) (args : Json) :
    SameEnd (i.enter interp scene callback args) (j.enter interp scene' callback args) := by
  obtain ⟨o, box, s, hinvoke⟩ := ht callback args i.sandbox i.state
  have hrecord := bare_record h (.entered callback args)
  obtain ⟨hbox, hstate, -⟩ := bare_eq_iff.mp h
  have hleft : i.enter interp scene callback args =
      (some (.returned o.result), { i.record (.entered callback args) with sandbox := box, state := s }) := by
    unfold enter record
    dsimp only
    rw [hinvoke]
  have hright : j.enter interp scene' callback args =
      (some (.returned o.result), { j.record (.entered callback args) with sandbox := box, state := s }) := by
    unfold enter record
    dsimp only
    rw [← hbox, ← hstate, hinvoke]
  rw [hleft, hright]
  exact ⟨rfl, rfl, bare_withInterior hrecord box s⟩

structure Unhindered (i : Incarnation σ) (job : Job) : Prop where
  kept : ∀ t ∈ job.ticket?, i.worker.isCancelled t = false
  taken : ∀ notice ∈ job.notice?, ∃ w, i.worker.notify notice.1 notice.2 = .ok w

theorem unhindered_bare (i : Incarnation σ) (job : Job) : i.bare.Unhindered job where
  kept := fun _ _ => rfl
  taken := fun _ _ => ⟨_, rfl⟩

theorem bare_sendOwn (h : i.bare = j.bare) (notice : Option (String × Json))
    (hi : ∀ n ∈ notice, ∃ w, i.worker.notify n.1 n.2 = .ok w)
    (hj : ∀ n ∈ notice, ∃ w, j.worker.notify n.1 n.2 = .ok w) :
    (i.sendOwn notice).bare = (j.sendOwn notice).bare := by
  cases notice with
  | none => exact h
  | some notice =>
    obtain ⟨w, hw⟩ := hi notice rfl
    obtain ⟨w', hw'⟩ := hj notice rfl
    unfold sendOwn
    dsimp only
    rw [hw, hw']
    exact bare_record h (.sent true)

theorem sameEnd_run (ht : interp.IsTransformer) (h : i.bare = j.bare) {job job' : Job}
    (hjob : job.untagged = job'.untagged) (hi : i.Unhindered job) (hj : j.Unhindered job')
    (hwork : job.isPark = false) : SameEnd (i.run interp scene job) (j.run interp scene' job') := by
  cases job with
  | call t preparation callback args =>
    cases job' with
    | notice | task => cases hjob
    | call t' _ _ _ =>
      cases hjob
      have hwatch : bare { i with worker := i.worker.watch t } = bare { j with worker := j.worker.watch t' } := h
      unfold run
      dsimp only
      rw [if_neg (Bool.eq_false_iff.mp (hi.kept t rfl)), if_neg (Bool.eq_false_iff.mp (hj.kept t' rfl))]
      cases preparation with
      | pass => exact sameEnd_enter ht hwatch callback args
      | refuse e => exact ⟨rfl, rfl, h⟩
      | panic => exact ⟨rfl, rfl, h⟩
      | budget =>
        obtain ⟨hbox, hstate, hevents⟩ := bare_eq_iff.mp h
        -- both count afresh from the same account
        have hreset : bare { i with
              worker := i.worker.watch t
              sandbox.monitor := i.sandbox.monitor.resetInstructions } =
            bare { j with
              worker := j.worker.watch t'
              sandbox.monitor := j.sandbox.monitor.resetInstructions } :=
          bare_eq_iff.mpr ⟨by rw [hbox], hstate, hevents⟩
        have hreason : j.sandbox.monitor.reason? = i.sandbox.monitor.reason? := by rw [hbox]
        dsimp only
        rw [hreason]
        cases i.sandbox.monitor.reason? with
        | some reason => exact ⟨rfl, rfl, hwatch⟩
        | none => exact sameEnd_enter ht hreset callback args
  | notice callback args =>
    cases job' with
    | notice _ _ =>
      cases hjob
      exact sameEnd_enter ht h callback args
    | call | task => cases hjob
  | task task =>
    cases job' with
    | call | notice => cases hjob
    | task _ =>
      cases hjob
      cases task with
      | park listens => cases hwork
      | stop => exact ⟨rfl, rfl, h⟩
      | chain label notice invoke =>
        have hsent := bare_sendOwn (bare_record h (.job label)) notice hi.taken hj.taken
        cases invoke with
        | none => exact ⟨rfl, rfl, hsent⟩
        | some invoke => exact sameEnd_enter ht hsent invoke.1 invoke.2

/-! ## Carrying out jobs -/

/-- Carries out a job with nothing to hinder it. What raw work does is given. -/
def carry (interp : Interpreter σ) (work : Sandbox → σ → Sandbox × σ) (i : Incarnation σ) :
    Job → Option Completion × Incarnation σ
  | .task (.park _) =>
    let did := work i.sandbox i.state
    (none, bare { i with sandbox := did.1, state := did.2 })
  | job =>
    let (comp, j) := i.bare.run interp {} job
    (comp, j.bare)

theorem carry_of_run {work : Sandbox → σ → Sandbox × σ} {job : Job} (hwork : job.isPark = false) :
    i.carry interp work job = ((i.bare.run interp {} job).1, (i.bare.run interp {} job).2.bare) := by
  cases job with
  | call | notice => rfl
  | task task =>
    cases task with
    | park listens => cases hwork
    | chain | stop => rfl

theorem carry_bare (ht : interp.IsTransformer) {work : Sandbox → σ → Sandbox × σ} {job : Job} {comp : Completion}
    {i' : Incarnation σ} (hi : i.Unhindered job) (hwork : job.isPark = false)
    (hr : i.run interp scene job = (some comp, i')) :
    i.bare.carry interp work job = (some comp, i'.bare) := by
  have hbare : i.bare = i.bare.bare.bare := by rw [bare_bare, bare_bare]
  have hsame : SameEnd (i.run interp scene job) (i.bare.bare.run interp {} job) :=
    sameEnd_run ht hbare rfl hi (i.bare.unhindered_bare job) hwork
  rw [hr] at hsame
  rw [carry_of_run hwork]
  exact Prod.ext hsame.completion.symm hsame.bare.symm

/-- What comes of jobs that are carried out one after another: how each ends, raw work apart, and
what is left. The raw work that comes after `n` jobs is `works n`. -/
def course (interp : Interpreter σ) (works : Nat → Sandbox → σ → Sandbox × σ) (i : Incarnation σ)
    (jobs : List Job) : List (Option Completion) × Incarnation σ :=
  jobs.foldl (fun (ends, j) job =>
    let (comp, j) := j.carry interp (works ends.length) job
    (ends ++ [comp], j)) ([], i.bare)

section
variable {works : Nat → Sandbox → σ → Sandbox × σ}

variable (interp works) in
theorem course_concat (i : Incarnation σ) (jobs : List Job) (job : Job) :
    i.course interp works (jobs ++ [job]) =
      ((i.course interp works jobs).1 ++
          [((i.course interp works jobs).2.carry interp (works (i.course interp works jobs).1.length) job).1],
        ((i.course interp works jobs).2.carry interp (works (i.course interp works jobs).1.length) job).2) := by
  unfold course
  rw [List.foldl_concat]

theorem carry_untagged (ht : interp.IsTransformer) (work : Sandbox → σ → Sandbox × σ) (i : Incarnation σ)
    (job : Job) : i.carry interp work job.untagged = i.carry interp work job := by
  cases job with
  | notice | task => rfl
  | call t preparation callback args =>
    have hsame : SameEnd (i.bare.run interp {} (.call 0 preparation callback args))
        (i.bare.run interp {} (.call t preparation callback args)) :=
      sameEnd_run ht rfl rfl (i.unhindered_bare _) (i.unhindered_bare _) rfl
    exact Prod.ext hsame.completion hsame.bare

theorem course_untagged (ht : interp.IsTransformer) (i : Incarnation σ) (jobs : List Job) :
    i.course interp works (jobs.map Job.untagged) = i.course interp works jobs := by
  unfold course
  rw [List.foldl_map]
  simp only [carry_untagged ht]

end

/-! ## The record -/

theorem events_enter (interp : Interpreter σ) (scene : Scene) (i : Incarnation σ) (callback : String)
    (args : Json) : (i.enter interp scene callback args).2.events = i.events ++ [.entered callback args] := by
  unfold enter record
  dsimp only
  split <;> rfl

theorem events_sendOwn (i : Incarnation σ) (notice : Option (String × Json)) :
    i.events ⊆ (i.sendOwn notice).events := by
  unfold sendOwn
  split
  · exact List.Subset.refl _
  · split <;> exact List.subset_append_left _ _

theorem events_run (interp : Interpreter σ) (scene : Scene) (i : Incarnation σ) (job : Job) :
    i.events ⊆ (i.run interp scene job).2.events := by
  have hsent (label : Json) (notice : Option (String × Json)) :
      i.events ⊆ ((i.record (.job label)).sendOwn notice).events :=
    List.Subset.trans (List.subset_append_left _ _) ((i.record (.job label)).events_sendOwn notice)
  have hruns := i.runs interp scene job
  generalize i.run interp scene job = r at hruns ⊢
  cases hruns with
  | skipped | refused | panicked | overBudget | parked | stopped => exact List.Subset.refl _
  | passed | budgeted | noticed =>
    rw [events_enter]
    exact List.subset_append_left _ _
  | done label notice => exact hsent label notice
  | chained label notice =>
    rw [events_enter]
    exact List.Subset.trans (hsent label notice) (List.subset_append_left _ _)

theorem events_advance? {i' : Incarnation σ} (h : i.advance? interp scene = some i') : i.events ⊆ i'.events := by
  unfold advance? at h
  split at h
  next job _ =>
    cases h
    have hrun := events_run interp scene i job
    unfold begin
    split
    next hr =>
      rw [hr] at hrun
      exact hrun
    next hr =>
      rw [hr] at hrun
      exact hrun
  next job _ =>
    obtain ⟨r, hr, rfl⟩ := Option.map_eq_some_iff.mp h
    cases awakes_of_awake? hr with
    | parked => exact List.Subset.refl _
    | inside => exact List.subset_append_left _ _
  next =>
    obtain ⟨w, -, rfl⟩ := Option.map_eq_some_iff.mp h
    split
    · exact List.subset_append_left _ _
    · exact List.Subset.refl _

/-! ## What a run tells -/

theorem taken_of_run {job : Job} (hsent : .sent false ∉ (i.run interp scene job).2.events) :
    ∀ notice ∈ job.notice?, ∃ w, i.worker.notify notice.1 notice.2 = .ok w := by
  intro notice hnotice
  unfold Job.notice? at hnotice
  split at hnotice
  next label own invoke =>
    cases hnotice
    cases hw : i.worker.notify notice.1 notice.2 with
    | ok w => exact ⟨w, rfl⟩
    | error e =>
      refine absurd ?_ hsent
      have hturned : .sent false ∈ ((i.record (.job label)).sendOwn (some notice)).events := by
        rw [sendOwn, show (i.record (.job label)).worker.notify notice.1 notice.2 = _ from hw]
        exact List.mem_append_right _ (List.mem_singleton_self _)
      cases invoke with
      | none => exact hturned
      | some invoke =>
        rw [run, events_enter]
        exact List.mem_append_left _ hturned
  next => cases hnotice

theorem not_isPark_of_run {job : Job} {comp : Completion} (h : (i.run interp scene job).1 = some comp) :
    job.isPark = false := by
  cases job with
  | call | notice => rfl
  | task task =>
    cases task with
    | park => cases h
    | chain | stop => rfl

theorem isPark_of_run (ht : interp.IsTransformer) {job : Job} (h : (i.run interp scene job).1 = none) :
    job.isPark = true := by
  have hend (i' : Incarnation σ) (callback : String) (args : Json) :
      (i'.enter interp scene callback args).1 ≠ none := by
    have hsame : SameEnd (i'.enter interp scene callback args) (i'.enter interp scene callback args) :=
      sameEnd_enter ht rfl callback args
    exact Option.isSome_iff_ne_none.mp hsame.ends
  have hruns := i.runs interp scene job
  generalize i.run interp scene job = r at hruns h
  cases hruns with
  | parked => rfl
  | skipped | refused | panicked | overBudget | stopped | done => cases h
  | passed | budgeted | noticed | chained => exact absurd h (hend _ _ _)

theorem Advance.isPark (ht : interp.IsTransformer) {i' : Incarnation σ} {sent chosen thrown : List Job}
    {ended : List (Job × Completion)} (h : Advance interp scene i i' sent chosen thrown ended) (job : Job)
    (hjob : i'.worker.stage = .running job) : job.isPark = true := by
  cases h with
  | ended | awoken =>
    rw [stage_complete] at hjob
    cases hjob
  | waits hs hr =>
    cases hjob
    exact isPark_of_run ht (congrArg Prod.fst hr)
  | turned hw _ => exact absurd hjob (Worker.stage_ne_running_of_turn? hw job)

end Incarnation

end PluginSandbox
