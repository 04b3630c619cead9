import StellAIverse.ExecutionHub.Effects

/-!
# The life of a workflow

A workflow calls its steps in the order they are given in, and ends once: what it called
since its creation can be read off its record. Whether a workflow that does not complete
has undone what it did depends on the steps that count as completed when it ends.
-/

namespace ExecutionHub

open Soroban

variable {s s' : State} {a : Action} {env : Host} {wf wf' : WorkflowInstance}
  {calls : List Call} {id k : ℕ} {log : List (State × Action)}

def Call.workflowId : Call → ℕ
  | .execStep workflowId .. => workflowId
  | .rollback workflowId .. => workflowId
  | .wfDone _ workflowId _ => workflowId

def Call.isStep : Call → Bool
  | .execStep .. => true
  | _ => false

def Call.isRollback : Call → Bool
  | .rollback .. => true
  | _ => false

def Call.isCallback : Call → Bool
  | .wfDone .. => true
  | _ => false

/-- The rollback of a step. -/
def Call.undo : Call → Call
  | .execStep workflowId position target _ encodedArgs =>
    .rollback workflowId position target encodedArgs
  | call => call

/-- What was called for a workflow, in order. -/
def callsOf (s : State) (id : ℕ) : List Call := s.calls.filter (·.workflowId = id)

/-- The calls of the first `k` steps. -/
def executed (wf : WorkflowInstance) : ℕ → List Call
  | 0 => []
  | k + 1 => executed wf k ++ (wf.steps[k]?.map (·.execCall wf.workflowId k)).toList

/-- The callback of a workflow that has ended. -/
def WorkflowInstance.final (wf : WorkflowInstance) : List Call :=
  (wf.callback.map fun callback =>
    Call.wfDone callback.callbackContract wf.workflowId (statusCode wf.status)).toList

/-- What a workflow called, as its record tells it: its steps so far, and when it has ended
some rollbacks and its callback. -/
inductive Traced (wf : WorkflowInstance) : List Call → Prop
  | going (executable : wf.status.executable = true) : Traced wf (executed wf wf.currentStep)
  | ended (undone : List Call) (final : wf.status.executable = false)
      (rollbacks : ∀ call ∈ undone, call.isRollback = true)
      (completed : wf.status = .completed → undone = []) :
      Traced wf (executed wf wf.currentStep ++ undone ++ wf.final)

/-- The steps before the current one are completed, and no callback was made, as long as
the workflow goes on. -/
structure Progress (wf : WorkflowInstance) : Prop where
  within : wf.currentStep ≤ wf.steps.length
  done : wf.status.executable = true → ∀ i < wf.currentStep, ∀ step, wf.steps[i]? = some step →
    step.status = .completed
  unfired : wf.status.executable = true → ∀ callback ∈ wf.callback, callback.fired = false

/-- Workflows are stored under their numbers, and tell what was called for them. -/
structure Tracked (s : State) : Prop where
  numbered : ∀ id wf, s.workflow.get? id = some wf → wf.workflowId = id
  known : ∀ call ∈ s.calls, s.workflow.get? call.workflowId ≠ none
  progress : ∀ id wf, s.workflow.get? id = some wf → Progress wf
  traced : ∀ id wf, s.workflow.get? id = some wf → Traced wf (callsOf s id)

/-- A workflow is created under a number that has none. -/
def Action.NumbersNew (s : State) (a : Action) : Prop :=
  ∀ initiator args, a.op = .createWorkflow initiator args →
    s.workflow.get? (s.workflowCounter.getD 0 + 1) = none

/-- What the callee of a step gets to know. -/
def WorkflowStep.shape (step : WorkflowStep) : Address × ℕ × Bytes :=
  (step.targetContract, step.stepIndex, step.encodedArgs)

theorem executed_congr (hid : wf'.workflowId = wf.workflowId)
    (hsteps : wf'.steps.map (·.shape) = wf.steps.map (·.shape)) (k : ℕ) :
    executed wf' k = executed wf k := by
  induction k with
  | zero => rfl
  | succ k ih =>
    have hstep : wf'.steps[k]?.map (·.shape) = wf.steps[k]?.map (·.shape) := by
      rw [← List.getElem?_map, hsteps, List.getElem?_map]
    have hcall : ∀ step? : Option WorkflowStep, step?.map (·.execCall wf.workflowId k) =
        (step?.map (·.shape)).map fun shape =>
          Call.execStep wf.workflowId k shape.1 shape.2.1 shape.2.2 := by
      intro step?
      cases step? <;> rfl
    unfold executed
    rw [ih, hid, hcall, hstep, ← hcall]

theorem advanced_shape {step : WorkflowStep} (hstep : wf.steps[wf.currentStep]? = some step)
    (status : WorkflowStatus) :
    (advanced env wf step status).steps.map (·.shape) = wf.steps.map (·.shape) := by
  obtain ⟨hwithin, rfl⟩ := List.getElem?_eq_some_iff.mp hstep
  unfold advanced
  dsimp only
  rw [List.map_set]
  refine List.ext_getElem? fun i => ?_
  rw [List.getElem?_set]
  split
  · rename_i hsame
    subst hsame
    rw [List.length_map, if_pos hwithin, List.getElem?_map, List.getElem?_eq_getElem hwithin]
    rfl
  · rfl

theorem undone_shape (steps : List WorkflowStep) :
    (steps.map (·.undone env)).map (·.shape) = steps.map (·.shape) := by
  rw [List.map_map]
  refine List.map_congr_left fun step _ => ?_
  simp only [Function.comp_apply, WorkflowStep.undone]
  split <;> rfl

/-- Executed are steps of the workflow, under its number. -/
theorem mem_executed {call : Call} (h : call ∈ executed wf k) :
    ∃ position, ∃ step : WorkflowStep, call = step.execCall wf.workflowId position := by
  induction k with
  | zero => cases h
  | succ k ih =>
    rcases List.mem_append.mp h with h | h
    · exact ih h
    · obtain ⟨step, -, rfl⟩ := Option.map_eq_some_iff.mp (Option.mem_toList.mp h)
      exact ⟨k, step, rfl⟩

/-- The workflow with its next step done. -/
theorem executed_advanced {step : WorkflowStep} (hstep : wf.steps[wf.currentStep]? = some step)
    (status : WorkflowStatus) :
    executed (advanced env wf step status) (wf.currentStep + 1) =
      executed wf wf.currentStep ++ [step.execCall wf.workflowId wf.currentStep] := by
  have hsame : executed (advanced env wf step status) (wf.currentStep + 1) =
      executed wf (wf.currentStep + 1) := by
    refine executed_congr ?_ (advanced_shape hstep status) _
    rfl
  rw [hsame, executed, hstep]
  rfl

theorem executed_notified (wf : WorkflowInstance) (k : ℕ) :
    executed wf.notified k = executed wf k := by
  refine executed_congr ?_ ?_ _ <;> rfl

theorem executed_expired (env : Host) (wf : WorkflowInstance) (k : ℕ) :
    executed (expired env wf) k = executed wf k := by
  refine executed_congr ?_ ?_ _ <;> rfl

theorem executed_cancelled (env : Host) (wf : WorkflowInstance) (rolledBackSteps k : ℕ) :
    executed (cancelled env wf rolledBackSteps) k = executed wf k := by
  refine executed_congr ?_ (undone_shape wf.steps) _
  rfl

/-- The calls of a workflow's rollback are its own, and rollbacks. -/
theorem undoCalls_own {workflowId n : ℕ} {steps : List WorkflowStep} :
    ∀ call ∈ undoCalls workflowId steps n,
      call.workflowId = workflowId ∧ call.isRollback = true := by
  induction n with
  | zero => exact fun _ hcall => by cases hcall
  | succ n ih =>
    intro call hcall
    rw [undoCalls, List.mem_append] at hcall
    rcases hcall with hcall | hcall
    · split at hcall
      · split at hcall
        · rw [List.mem_singleton.mp hcall]
          exact ⟨rfl, rfl⟩
        · cases hcall
      · cases hcall
    · exact ih call hcall

/-- A workflow announces its status, under its number. -/
theorem mem_announcement {call : Call} (h : call ∈ wf.announcement) :
    ∃ target, call = .wfDone target wf.workflowId (statusCode wf.status) := by
  unfold WorkflowInstance.announcement at h
  split at h
  · cases h
  · rename_i callback _
    split at h
    · cases h
    · exact ⟨callback.callbackContract, List.mem_singleton.mp h⟩

theorem announcement_own (wf : WorkflowInstance) :
    ∀ call ∈ wf.announcement, call.workflowId = wf.workflowId := by
  intro call hcall
  obtain ⟨target, rfl⟩ := mem_announcement hcall
  rfl

theorem completed_own (env : Host) (wf : WorkflowInstance) (step : WorkflowStep) :
    ∀ call ∈ step.execCall wf.workflowId wf.currentStep ::
      (advanced env wf step .completed).announcement, call.workflowId = wf.workflowId := by
  intro call hcall
  rcases List.mem_cons.mp hcall with rfl | hcall
  · rfl
  · exact announcement_own (advanced env wf step .completed) call hcall

theorem cancelled_own (env : Host) (wf : WorkflowInstance) (rolledBackSteps : ℕ) :
    ∀ call ∈ undoCalls wf.workflowId wf.steps wf.steps.length ++
      (cancelled env wf rolledBackSteps).announcement, call.workflowId = wf.workflowId := by
  intro call hcall
  rcases List.mem_append.mp hcall with hcall | hcall
  · exact (undoCalls_own call hcall).1
  · exact announcement_own (cancelled env wf rolledBackSteps) call hcall

theorem execCall_own (wf : WorkflowInstance) (step : WorkflowStep) :
    ∀ call ∈ [step.execCall wf.workflowId wf.currentStep], call.workflowId = wf.workflowId := by
  intro call hcall
  rw [List.mem_singleton.mp hcall]
  rfl

/-- The callback that a workflow makes is the one its record tells. -/
theorem final_notified (h : ∀ callback ∈ wf.callback, callback.fired = false) :
    wf.notified.final = wf.announcement := by
  unfold WorkflowInstance.final WorkflowInstance.notified WorkflowInstance.announcement
  cases hcallback : wf.callback with
  | none => rfl
  | some callback =>
    have hfired : ¬ callback.fired = true := by
      rw [h callback hcallback]
      decide
    simp only [if_neg hfired]
    rfl

theorem callsOf_append {new : List Call} (hcalls : s'.calls = s.calls ++ new) (id : ℕ)
    (hown : ∀ call ∈ new, call.workflowId = wf.workflowId) :
    callsOf s' id = callsOf s id ++ if id = wf.workflowId then new else [] := by
  unfold callsOf
  rw [hcalls, List.filter_append]
  congr 1
  split
  · rename_i hsame
    refine List.filter_eq_self.mpr fun call hcall => ?_
    exact decide_eq_true ((hown call hcall).trans hsame.symm)
  · rename_i hne
    refine List.filter_eq_nil_iff.mpr fun call hcall => ?_
    rw [decide_eq_true_eq, hown call hcall]
    exact Ne.symm hne

/-- For a number that has no workflow nothing was called. -/
theorem Tracked.fresh (h : Tracked s) (hid : s.workflow.get? id = none) : callsOf s id = [] := by
  refine List.filter_eq_nil_iff.mpr fun call hcall => ?_
  rw [decide_eq_true_eq]
  rintro rfl
  exact h.known call hcall hid

/-- A workflow that goes on or ends is tracked on. -/
theorem Tracked.write (h : Tracked s) (hfound : s.workflow.get? id = some wf)
    (hwrote : Wrote s wf' calls s') (hid : wf'.workflowId = wf.workflowId)
    (hown : ∀ call ∈ calls, call.workflowId = wf.workflowId) (hprogress : Progress wf')
    (htraced : Traced wf' (callsOf s id ++ calls)) : Tracked s' := by
  have hkey := h.numbered id wf hfound
  have hcallsOf := fun i => callsOf_append hwrote.calls i hown
  refine ⟨fun i w hw => ?_, fun call hcall => ?_, fun i w hw => ?_, fun i w hw => ?_⟩
  · rw [hwrote.workflow, hid, hkey] at hw
    split at hw
    · rename_i hsame
      subst hsame
      cases hw
      exact hid.trans hkey
    · exact h.numbered i w hw
  · rw [hwrote.workflow]
    rw [hwrote.calls] at hcall
    split
    · exact Option.some_ne_none _
    · rename_i hne
      rcases List.mem_append.mp hcall with hcall | hcall
      · exact h.known call hcall
      · exact absurd ((hown call hcall).trans hid.symm) hne
  · rw [hwrote.workflow] at hw
    split at hw
    · cases hw
      exact hprogress
    · exact h.progress i w hw
  · rw [hcallsOf, hkey]
    rw [hwrote.workflow, hid, hkey] at hw
    split at hw
    · rename_i hsame
      subst hsame
      cases hw
      rw [if_pos rfl]
      exact htraced
    · rename_i hne
      rw [if_neg hne, List.append_nil]
      exact h.traced i w hw

theorem Traced.calls_eq (h : Traced wf calls) (hexecutable : wf.status.executable = true) :
    calls = executed wf wf.currentStep := by
  cases h with
  | going => rfl
  | ended undone final =>
    rw [final] at hexecutable
    cases hexecutable

/-- The steps before the current one stay completed when it is, too. -/
theorem Progress.advance (env : Host) {step : WorkflowStep} (h : Progress wf)
    (hexecutable : wf.status.executable = true)
    (hstep : wf.steps[wf.currentStep]? = some step) (status : WorkflowStatus) :
    Progress (advanced env wf step status) := by
  have hwithin : wf.currentStep < wf.steps.length := (List.getElem?_eq_some_iff.mp hstep).1
  refine ⟨?_, fun _ i hi step' hstep' => ?_, fun _ => h.unfired hexecutable⟩
  · change wf.currentStep + 1 ≤ (wf.steps.set _ _).length
    rw [List.length_set]
    exact hwithin
  · change (wf.steps.set _ _)[i]? = some step' at hstep'
    rw [List.getElem?_set] at hstep'
    split at hstep'
    · cases hstep'
      rfl
    · rename_i hne
      have hi' : i < wf.currentStep + 1 := hi
      exact h.done hexecutable i (by omega) step' hstep'

/-- A workflow that has ended asks for nothing but its length. -/
theorem Progress.of_ended (wf : WorkflowInstance) (hwithin : wf.currentStep ≤ wf.steps.length)
    (hended : wf.status.executable = false) : Progress wf := by
  refine ⟨hwithin, fun hexecutable => ?_, fun hexecutable => ?_⟩ <;>
  · rw [hended] at hexecutable
    cases hexecutable

/-- A workflow that ends with some rollbacks and its callback. -/
theorem Traced.of_end (wf : WorkflowInstance) (undone : List Call)
    (hended : wf.status.executable = false)
    (hunfired : ∀ callback ∈ wf.callback, callback.fired = false)
    (hundone : ∀ call ∈ undone, call.isRollback = true)
    (hcompleted : wf.status = .completed → undone = []) :
    Traced wf.notified (executed wf wf.currentStep ++ (undone ++ wf.announcement)) := by
  rw [← List.append_assoc, ← final_notified hunfired, ← executed_notified]
  exact .ended undone hended hundone hcompleted

/-- A new workflow is at its start. -/
theorem opened_progress (env : Host) (workflowId : ℕ) (initiator : Address) (args : WorkflowArgs)
    (deadline : ℕ) : Progress (opened env workflowId initiator args deadline) := by
  refine ⟨Nat.zero_le _, fun _ i hi => absurd hi (Nat.not_lt_zero i),
    fun _ callback hcallback => ?_⟩
  obtain ⟨target, -, rfl⟩ := Option.map_eq_some_iff.mp hcallback
  rfl

/-- A new workflow has called nothing yet. -/
theorem Tracked.create (h : Tracked s) (hnew : s.workflow.get? wf.workflowId = none)
    (hworkflow : s'.workflow = s.workflow.set wf.workflowId wf) (hcalls : s'.calls = s.calls)
    (hprogress : Progress wf) (htraced : Traced wf []) : Tracked s' := by
  have hcases : ∀ id w, s'.workflow.get? id = some w →
      (id = wf.workflowId ∧ w = wf) ∨ s.workflow.get? id = some w := by
    intro id w hfound
    rw [hworkflow, Store.get?_set] at hfound
    split at hfound
    · rename_i hsame
      cases hfound
      exact .inl ⟨hsame, rfl⟩
    · exact .inr hfound
  have hcallsOf : ∀ id, callsOf s' id = callsOf s id := fun id => by rw [callsOf, hcalls, callsOf]
  refine ⟨fun id w hfound => ?_, fun call hcall => ?_, fun id w hfound => ?_,
    fun id w hfound => ?_⟩
  · rcases hcases id w hfound with ⟨rfl, rfl⟩ | hfound
    · rfl
    · exact h.numbered id w hfound
  · rw [hcalls] at hcall
    rw [hworkflow, Store.get?_set]
    split
    · exact Option.some_ne_none _
    · exact h.known call hcall
  · rcases hcases id w hfound with ⟨rfl, rfl⟩ | hfound
    · exact hprogress
    · exact h.progress id w hfound
  · rw [hcallsOf]
    rcases hcases id w hfound with ⟨rfl, rfl⟩ | hfound
    · rw [h.fresh hnew]
      exact htraced
    · exact h.traced id w hfound

theorem Tracked.step (h : Tracked s) (hnew : a.NumbersNew s) (heffect : Effect s a s') :
    Tracked s' := by
  cases heffect with
  | aside _ _ _ _ workflows =>
    obtain ⟨-, hworkflow, -, hcalls⟩ := workflows
    have hcallsOf : ∀ id, callsOf s' id = callsOf s id := fun id => by rw [callsOf, hcalls, callsOf]
    refine ⟨?_, ?_, ?_, ?_⟩
    · rw [hworkflow]
      exact h.numbered
    · rw [hcalls, hworkflow]
      exact h.known
    · rw [hworkflow]
      exact h.progress
    · intro id wf hfound
      rw [hcallsOf]
      rw [hworkflow] at hfound
      exact h.traced id wf hfound
  | initialized => exact ⟨h.numbered, h.known, h.progress, h.traced⟩
  | acted => exact ⟨h.numbered, h.known, h.progress, h.traced⟩
  | created env initiator args deadline =>
    exact h.create (hnew initiator args rfl) rfl rfl (opened_progress ..) (.going rfl)
  | expired env workflowId wf s' found executable late wrote =>
    obtain ⟨hwithin, -, hunfired⟩ := h.progress workflowId wf found
    refine h.write found wrote rfl (announcement_own _) (.of_ended _ ?_ rfl) ?_
    · exact hwithin
    · rw [(h.traced workflowId wf found).calls_eq executable, ← executed_expired env wf]
      exact Traced.of_end (expired env wf) [] rfl (hunfired executable)
        (fun _ hcall => by cases hcall) fun _ => rfl
  | stepped env workflowId wf step s' found executable called wrote =>
    have hprogress := (h.progress workflowId wf found).advance env executable called .running
    refine h.write found wrote rfl (execCall_own wf step) hprogress ?_
    rw [(h.traced workflowId wf found).calls_eq executable, ← executed_advanced called .running]
    exact .going rfl
  | completed env workflowId wf step s' found executable called wrote =>
    have hprogress := (h.progress workflowId wf found).advance env executable called .running
    have hunfired := (h.progress workflowId wf found).unfired executable
    refine h.write found wrote rfl (completed_own env wf step)
      (.of_ended _ hprogress.within rfl) ?_
    rw [(h.traced workflowId wf found).calls_eq executable, ← List.singleton_append,
      ← List.append_assoc, ← executed_advanced called .completed]
    exact Traced.of_end (advanced env wf step .completed) [] rfl hunfired
      (fun _ hcall => by cases hcall) fun _ => rfl
  | cancelled env workflowId caller wf rolledBackSteps s' found executable wrote =>
    obtain ⟨hwithin, -, hunfired⟩ := h.progress workflowId wf found
    refine h.write found wrote rfl (cancelled_own env wf rolledBackSteps) (.of_ended _ ?_ rfl) ?_
    · change wf.currentStep ≤ (wf.steps.map _).length
      rw [List.length_map]
      exact hwithin
    · rw [(h.traced workflowId wf found).calls_eq executable,
        ← executed_cancelled env wf rolledBackSteps]
      exact Traced.of_end (cancelled env wf rolledBackSteps) _ rfl (hunfired executable)
        (fun call hcall => (undoCalls_own call hcall).2) fun hcompleted => by cases hcompleted

theorem tracked_deployed : Tracked deployed := by
  refine ⟨fun _ _ hfound => ?_, fun _ hcall => ?_, fun _ _ hfound => ?_, fun _ _ hfound => ?_⟩
  · cases hfound
  · cases hcall
  · cases hfound
  · cases hfound

theorem history_tracked {ok : List (State × Action) → State → Action → Prop}
    (h : History next ok deployed log s) (hok : ∀ log s a, ok log s a → a.NumbersNew s) :
    Tracked s := by
  exact h.preserves (P := fun _ s => Tracked s) tracked_deployed
    fun log s a s' hadmitted hdone htracked =>
    htracked.step (hok log s a hadmitted) (next_effect hdone)

/-- The calls on the steps of a workflow, without its callback. -/
def stepCalls (s : State) (id : ℕ) : List Call :=
  (callsOf s id).filter fun call => call.isCallback = false

/-- The statuses of a workflow that did not complete. -/
def WorkflowStatus.undone (status : WorkflowStatus) : Bool :=
  status = .failed ∨ status = .rolledBack ∨ status = .cancelled

/-- Every step that was called was rolled back once, the last one first, and no other; and no
step counts as completed. -/
structure AllUndone (s : State) (wf : WorkflowInstance) : Prop where
  calls : stepCalls s wf.workflowId = executed wf wf.currentStep ++
    ((executed wf wf.currentStep).map Call.undo).reverse
  steps : ∀ step ∈ wf.steps, step.status ≠ .completed

/-- A workflow that did not complete is undone, and of the others nothing is rolled back. -/
def AllOrNothing (s : State) : Prop :=
  ∀ id wf, s.workflow.get? id = some wf →
    if wf.status.undone = true then AllUndone s wf
    else stepCalls s id = executed wf wf.currentStep

/-- A workflow that is too late has no completed step, one that is cancelled has none that it
did not call, and a new one takes nobody's number. -/
def Action.EndsClean (s : State) (a : Action) : Prop :=
  match a.op with
  | .createWorkflow .. => s.workflow.get? (s.workflowCounter.getD 0 + 1) = none
  | .executeWorkflowStep workflowId => ∀ wf ∈ s.workflow.get? workflowId,
    wf.deadline < a.env.timestamp → ∀ step ∈ wf.steps, step.status ≠ .completed
  | .cancelWorkflow workflowId _ => ∀ wf ∈ s.workflow.get? workflowId,
    ∀ step ∈ wf.steps.drop wf.currentStep, step.status ≠ .completed
  | _ => True

instance decidableEndsClean (s : State) : (a : Action) → Decidable (a.EndsClean s)
  | ⟨_, .createWorkflow ..⟩ => inferInstanceAs (Decidable (_ = none))
  | ⟨env, .executeWorkflowStep workflowId⟩ =>
    inferInstanceAs (Decidable (∀ wf ∈ s.workflow.get? workflowId,
      wf.deadline < env.timestamp → ∀ step ∈ wf.steps, step.status ≠ .completed))
  | ⟨_, .cancelWorkflow workflowId _⟩ =>
    inferInstanceAs (Decidable (∀ wf ∈ s.workflow.get? workflowId,
      ∀ step ∈ wf.steps.drop wf.currentStep, step.status ≠ .completed))
  | ⟨_, .initializeHub ..⟩ | ⟨_, .registerRule ..⟩ | ⟨_, .revokeRule ..⟩
  | ⟨_, .executeAction ..⟩ | ⟨_, .transferAdmin ..⟩ => .isTrue trivial

theorem Action.EndsClean.numbersNew (h : a.EndsClean s) : a.NumbersNew s := by
  intro initiator args hop
  unfold Action.EndsClean at h
  rw [hop] at h
  exact h

theorem executed_steps (wf : WorkflowInstance) (k : ℕ) :
    ∀ call ∈ executed wf k, call.isCallback = false := by
  intro call hcall
  obtain ⟨position, step, rfl⟩ := mem_executed hcall
  rfl

theorem Call.isCallback_rollback {call : Call} (h : call.isRollback = true) :
    call.isCallback = false := by
  cases call <;> first | rfl | cases h

/-- The calls on steps, as the record of the workflow tells them. -/
theorem stepCalls_eq {undone : List Call} (hcalls : callsOf s id = executed wf k ++ undone ++ calls)
    (hundone : ∀ call ∈ undone, call.isRollback = true)
    (hcallbacks : ∀ call ∈ calls, call.isCallback = true) :
    stepCalls s id = executed wf k ++ undone := by
  have hkept : (executed wf k ++ undone).filter (fun call => call.isCallback = false) =
      executed wf k ++ undone := by
    refine List.filter_eq_self.mpr fun call hcall => ?_
    rcases List.mem_append.mp hcall with hcall | hcall
    · exact decide_eq_true (executed_steps wf k call hcall)
    · exact decide_eq_true (Call.isCallback_rollback (hundone call hcall))
  have hdropped : calls.filter (fun call => call.isCallback = false) = [] := by
    refine List.filter_eq_nil_iff.mpr fun call hcall => ?_
    rw [decide_eq_true_eq, hcallbacks call hcall]
    decide
  rw [stepCalls, hcalls, List.filter_append, hkept, hdropped, List.append_nil]

theorem announcement_callback (wf : WorkflowInstance) :
    ∀ call ∈ wf.announcement, call.isCallback = true := by
  intro call hcall
  obtain ⟨target, rfl⟩ := mem_announcement hcall
  rfl

theorem final_callback (wf : WorkflowInstance) : ∀ call ∈ wf.final, call.isCallback = true := by
  intro call hcall
  obtain ⟨callback, -, rfl⟩ := Option.map_eq_some_iff.mp (Option.mem_toList.mp hcall)
  rfl

/-- Steps that are all completed are undone in reverse. -/
theorem undoCalls_done {n : ℕ} (h : ∀ i < n, ∀ step, wf.steps[i]? = some step →
    step.status = .completed) :
    undoCalls wf.workflowId wf.steps n = ((executed wf n).map Call.undo).reverse := by
  induction n with
  | zero => rfl
  | succ n ih =>
    unfold undoCalls executed
    rw [ih fun i hi => h i (hi.trans (Nat.lt_succ_self n)), List.map_append, List.reverse_append]
    congr 1
    cases hstep : wf.steps[n]? with
    | none => rfl
    | some step =>
      simp only [if_pos (h n (Nat.lt_succ_self n) step hstep)]
      rfl

/-- Steps that are not completed are not undone. -/
theorem undoCalls_rest {workflowId n : ℕ} {steps : List WorkflowStep}
    (h : ∀ step ∈ steps.drop k, step.status ≠ .completed) (hk : k ≤ n) :
    undoCalls workflowId steps n = undoCalls workflowId steps k := by
  induction n, hk using Nat.le_induction with
  | base => rfl
  | succ n hk ih =>
    rw [undoCalls, ih]
    cases hstep : steps[n]? with
    | none => rfl
    | some step =>
      have hmem : step ∈ steps.drop k := by
        refine List.mem_of_getElem? (i := n - k) ?_
        rw [List.getElem?_drop, Nat.add_sub_cancel' hk, hstep]
      simp only [if_neg (h step hmem), List.nil_append]

/-- What a workflow that did not complete left behind, for all of them. -/
def Undone (s : State) : Prop :=
  ∀ id wf, s.workflow.get? id = some wf → wf.status.undone = true → AllUndone s wf

theorem completed_of_ended {status : WorkflowStatus} (hended : status.executable = false)
    (hkept : status.undone = false) : status = .completed := by
  revert hended hkept
  cases status <;> decide

/-- A workflow that is not undone has called its steps and rolled back nothing. -/
theorem Traced.stepCalls_eq (h : Traced wf (callsOf s id)) (hkept : wf.status.undone = false) :
    stepCalls s id = executed wf wf.currentStep := by
  generalize hcalls : callsOf s id = calls at h
  cases h with
  | going =>
    have hall : (executed wf wf.currentStep).filter (fun call => call.isCallback = false) =
        executed wf wf.currentStep :=
      List.filter_eq_self.mpr fun call hcall => decide_eq_true (executed_steps wf _ call hcall)
    rw [stepCalls, hcalls, hall]
  | ended undone final rollbacks completed =>
    have hnone : undone = [] := completed (completed_of_ended final hkept)
    rw [ExecutionHub.stepCalls_eq hcalls rollbacks (final_callback wf), hnone, List.append_nil]

theorem AllUndone.kept (h : AllUndone s wf)
    (hcalls : callsOf s' wf.workflowId = callsOf s wf.workflowId) : AllUndone s' wf :=
  ⟨by rw [stepCalls, hcalls]; exact h.calls, h.steps⟩

/-- A call that leaves workflows and calls alone. -/
theorem Undone.kept (h : Undone s) (hworkflow : s'.workflow = s.workflow)
    (hcalls : s'.calls = s.calls) : Undone s' := fun id wf hfound hundone => by
  rw [hworkflow] at hfound
  exact (h id wf hfound hundone).kept (by rw [callsOf, hcalls, callsOf])

/-- A call that writes one workflow. -/
theorem Undone.write (h : Undone s) (htracked : Tracked s) (hwrote : Wrote s wf' calls s')
    (hid : wf'.workflowId = wf.workflowId)
    (hown : ∀ call ∈ calls, call.workflowId = wf.workflowId)
    (hnew : wf'.status.undone = true → AllUndone s' wf') : Undone s' := by
  intro i w hw hundone
  rw [hwrote.workflow] at hw
  split at hw
  · cases hw
    exact hnew hundone
  · rename_i hne
    refine (h i w hw hundone).kept ?_
    rw [callsOf_append hwrote.calls _ hown, htracked.numbered i w hw, if_neg (hid ▸ hne),
      List.append_nil]

/-- What a workflow that ends has called: its steps, and then what ends it. -/
theorem Tracked.callsOf_end (h : Tracked s) (hfound : s.workflow.get? id = some wf)
    (hexecutable : wf.status.executable = true) (hcalls : s'.calls = s.calls ++ calls)
    (hown : ∀ call ∈ calls, call.workflowId = wf.workflowId) :
    callsOf s' wf.workflowId = executed wf wf.currentStep ++ calls := by
  obtain rfl := h.numbered id wf hfound
  rw [callsOf_append hcalls _ hown, if_pos rfl, (h.traced _ wf hfound).calls_eq hexecutable]

/-- A workflow that ends after the deadline, with no completed step, has called nothing. -/
theorem undone_expired (htracked : Tracked s) (hfound : s.workflow.get? id = some wf)
    (hexecutable : wf.status.executable = true)
    (hnone : ∀ step ∈ wf.steps, step.status ≠ .completed)
    (hwrote : Wrote s (expired env wf).notified (expired env wf).announcement s') :
    AllUndone s' (expired env wf).notified := by
  obtain ⟨hwithin, hdone, -⟩ := htracked.progress id wf hfound
  have hzero : wf.currentStep = 0 := by
    by_contra hsome
    have hfirst : 0 < wf.steps.length := (Nat.pos_of_ne_zero hsome).trans_le hwithin
    exact hnone _ (List.getElem_mem hfirst) (hdone hexecutable 0 (Nat.pos_of_ne_zero hsome) _
      (List.getElem?_eq_getElem hfirst))
  have hcalls := htracked.callsOf_end hfound hexecutable hwrote.calls
    (announcement_own (expired env wf))
  refine ⟨?_, hnone⟩
  change stepCalls s' wf.workflowId = executed (expired env wf).notified wf.currentStep ++
    ((executed (expired env wf).notified wf.currentStep).map Call.undo).reverse
  rw [hzero] at hcalls ⊢
  rw [← List.append_nil (executed wf 0)] at hcalls
  exact stepCalls_eq hcalls (fun _ hcall => by cases hcall) (announcement_callback _)

/-- A workflow that is cancelled, with no completed step that it did not call, undoes those it
called. -/
theorem undone_cancelled {rolledBackSteps : ℕ} (htracked : Tracked s)
    (hfound : s.workflow.get? id = some wf) (hexecutable : wf.status.executable = true)
    (hnone : ∀ step ∈ wf.steps.drop wf.currentStep, step.status ≠ .completed)
    (hwrote : Wrote s (cancelled env wf rolledBackSteps).notified
      (undoCalls wf.workflowId wf.steps wf.steps.length ++
        (cancelled env wf rolledBackSteps).announcement) s') :
    AllUndone s' (cancelled env wf rolledBackSteps).notified := by
  obtain ⟨hwithin, hdone, -⟩ := htracked.progress id wf hfound
  have hcalls := htracked.callsOf_end hfound hexecutable hwrote.calls
    (cancelled_own env wf rolledBackSteps)
  rw [undoCalls_rest hnone hwithin, ← List.append_assoc] at hcalls
  constructor
  · change stepCalls s' wf.workflowId =
      executed (cancelled env wf rolledBackSteps).notified wf.currentStep ++
        ((executed (cancelled env wf rolledBackSteps).notified wf.currentStep).map
          Call.undo).reverse
    rw [executed_notified, executed_cancelled, ← undoCalls_done (hdone hexecutable)]
    exact stepCalls_eq hcalls (fun call hcall => (undoCalls_own call hcall).2)
      (announcement_callback _)
  · intro step hstep
    obtain ⟨old, -, rfl⟩ := List.mem_map.mp hstep
    unfold WorkflowStep.undone
    split
    · exact fun hstatus => by cases hstatus
    · assumption

theorem Undone.step (h : Undone s) (htracked : Tracked s) (hclean : a.EndsClean s)
    (heffect : Effect s a s') : Undone s' := by
  cases heffect with
  | aside _ _ _ _ workflows => exact h.kept workflows.workflow workflows.calls
  | initialized => exact h.kept rfl rfl
  | acted => exact h.kept rfl rfl
  | created env initiator args deadline =>
    intro i w hw hundone
    change (s.workflow.set _ _).get? i = some w at hw
    rw [Store.get?_set] at hw
    split at hw
    · cases hw
      cases hundone
    · exact (h i w hw hundone).kept rfl
  | expired env workflowId wf s' found executable late wrote =>
    exact h.write htracked wrote rfl (announcement_own (expired env wf)) fun _ =>
      undone_expired htracked found executable (hclean wf found late) wrote
  | stepped env workflowId wf step s' found executable called wrote =>
    exact h.write htracked wrote rfl (execCall_own wf step) fun hundone => by cases hundone
  | completed env workflowId wf step s' found executable called wrote =>
    exact h.write htracked wrote rfl (completed_own env wf step) fun hundone => by cases hundone
  | cancelled env workflowId caller wf rolledBackSteps s' found executable wrote =>
    exact h.write htracked wrote rfl (cancelled_own env wf rolledBackSteps) fun _ =>
      undone_cancelled htracked found executable (hclean wf found) wrote

theorem history_undone (h : History next (fun _ s a => a.EndsClean s) deployed log s) :
    Undone s := by
  refine (h.preserves (P := fun _ s => Tracked s ∧ Undone s) ⟨tracked_deployed, ?_⟩
    fun log s a s' hclean hdone hboth => ?_).2
  · exact fun _ _ hfound => by cases hfound
  · obtain ⟨htracked, hundone⟩ := hboth
    exact ⟨htracked.step hclean.numbersNew (next_effect hdone),
      hundone.step htracked hclean (next_effect hdone)⟩

/-- In a run in which every workflow ends clean, each one is all or nothing in every state. -/
theorem all_or_nothing (h : History next (fun _ s a => a.EndsClean s) deployed log s) :
    AllOrNothing s := by
  have htracked : Tracked s := history_tracked h fun _ _ _ hclean => hclean.numbersNew
  have hundone : Undone s := history_undone h
  intro id wf hfound
  split
  · rename_i hended
    exact hundone id wf hfound hended
  · rename_i hkept
    exact (htracked.traced id wf hfound).stepCalls_eq (by simpa using hkept)

section Samples

/-- A required step on a contract, as a caller supplies it. -/
def stepOn (target : ℕ) : WorkflowStep :=
  { stepIndex := 0, name := "step", targetContract := ⟨target⟩, functionName := "exec_step"
    encodedArgs := [], required := true, maxRetries := 0, retryCount := 0, status := .pending
    result := none, error := none, updatedAt := 0 }

/-- At time 0 Alice creates a workflow of two steps that has until time 10. -/
def createPair : Action :=
  ⟨hostAt 0, .createWorkflow alice ⟨"pair", [stepOn 2, stepOn 3], some 10, none, some ⟨4⟩⟩⟩

def executeAt (timestamp : ℕ) : Action := ⟨hostAt timestamp, .executeWorkflowStep 1⟩

def cancelAt (timestamp : ℕ) : Action := ⟨hostAt timestamp, .cancelWorkflow 1 alice⟩

/-- The second step comes after the deadline: the first one stays done. -/
theorem half_done : ∃ log s, History next (fun _ _ _ => True) deployed log s ∧
    (∀ e ∈ log, e.2 = createPair ∨ ∃ timestamp, e.2 = executeAt timestamp) ∧
    ¬ AllOrNothing s := by
  have h : After (fun r => (∃ wf ∈ r.2.workflow.get? 1, wf.status = .failed ∧
        ∃ step ∈ wf.steps, step.status = .completed))
      (record next (fun _ _ _ => True) [createPair, executeAt 5, executeAt 11] ([], deployed)) := by
    decide +kernel
  obtain ⟨⟨log, s⟩, hrec, wf, hfound, hfailed, step, hstep, hcompleted⟩ := h.exists_ok
  refine ⟨log, s, record_run hrec, fun e he => ?_, fun hall => ?_⟩
  · have hmem := mem_of_record hrec e he
    simp only [List.mem_cons, List.not_mem_nil, or_false] at hmem
    rcases hmem with hcreated | hexecuted | hlast
    · exact .inl hcreated
    · exact .inr ⟨5, hexecuted⟩
    · exact .inr ⟨11, hlast⟩
  · have hundone := hall 1 wf hfound
    rw [if_pos (by rw [hfailed]; decide)] at hundone
    exact hundone.steps step hstep hcompleted

/-- Cancelled in time, the first step is rolled back. -/
theorem all_or_nothing_cancelled : ∃ log s,
    History next (fun _ s a => a.EndsClean s) deployed log s ∧ AllOrNothing s ∧
    s.calls = [.execStep 1 0 ⟨2⟩ 0 [], .rollback 1 0 ⟨2⟩ [], .wfDone ⟨4⟩ 1 5] := by
  have h : After (fun r => r.2.calls =
        [.execStep 1 0 ⟨2⟩ 0 [], .rollback 1 0 ⟨2⟩ [], .wfDone ⟨4⟩ 1 5])
      (record next (fun _ s a => a.EndsClean s)
        [⟨hostAt 0, .initializeHub ⟨9⟩⟩, createPair, executeAt 5, cancelAt 6] ([], deployed)) := by
    decide +kernel
  obtain ⟨⟨log, s⟩, hrec, hcalls⟩ := h.exists_ok
  have hrun : History next (fun _ s a => a.EndsClean s) deployed log s :=
    record_run hrec
  exact ⟨log, s, hrun, all_or_nothing hrun, hcalls⟩

end Samples

end ExecutionHub
