import StellAIverse.Soroban.History
import StellAIverse.ExecutionHub.Contract

/-!
# What a completed call of the hub does

A workflow that goes on or ends is written once, as far as anybody can see, and the calls
it made are added to the others. A step that is called completes, so no call ends
in a step that failed.
-/

namespace ExecutionHub

open Soroban

variable {s s' : State} {a : Action} {env : Host} {wf wf' : WorkflowInstance} {calls : List Call}

/-- The call of a step. -/
def WorkflowStep.execCall (workflowId position : ℕ) (step : WorkflowStep) : Call :=
  .execStep workflowId position step.targetContract step.stepIndex step.encodedArgs

/-- The calls that undo the completed ones of the first steps, the last one first. -/
def undoCalls (workflowId : ℕ) (steps : List WorkflowStep) : ℕ → List Call
  | 0 => []
  | i + 1 =>
    (match steps[i]? with
      | some step =>
        if step.status = .completed then
          [.rollback workflowId i step.targetContract step.encodedArgs]
        else []
      | none => []) ++ undoCalls workflowId steps i

/-- A step after the rollback. -/
def WorkflowStep.undone (env : Host) (step : WorkflowStep) : WorkflowStep :=
  if step.status = .completed then { step with status := .rolledBack, updatedAt := env.timestamp }
  else step

/-- The callback has been made. -/
def WorkflowInstance.notified (wf : WorkflowInstance) : WorkflowInstance :=
  { wf with callback := wf.callback.map ({ · with fired := true }) }

/-- The callback, if it is still to be made. -/
def WorkflowInstance.announcement (wf : WorkflowInstance) : List Call :=
  match wf.callback with
  | none => []
  | some callback =>
    if callback.fired = true then []
    else [.wfDone callback.callbackContract wf.workflowId (statusCode wf.status)]

/-- A new workflow. -/
def opened (env : Host) (workflowId : ℕ) (initiator : Address) (args : WorkflowArgs)
    (deadline : ℕ) : WorkflowInstance where
  workflowId := workflowId
  initiator := initiator
  name := args.name
  steps := args.steps
  status := .pending
  currentStep := 0
  completedSteps := 0
  createdAt := env.timestamp
  updatedAt := env.timestamp
  deadline := deadline
  contextTag := args.contextTag
  callback := args.callbackContract.map (⟨·, false⟩)
  failureReason := none
  rolledBackSteps := 0

/-- A workflow after the deadline. -/
def expired (env : Host) (wf : WorkflowInstance) : WorkflowInstance :=
  { wf with
    status := .failed
    failureReason := some "Deadline exceeded"
    updatedAt := env.timestamp }

/-- A workflow after its next step. -/
def advanced (env : Host) (wf : WorkflowInstance) (step : WorkflowStep)
    (status : WorkflowStatus) : WorkflowInstance :=
  { wf with
    steps := wf.steps.set wf.currentStep { step with
      status := .completed, updatedAt := env.timestamp, error := none }
    completedSteps := wf.completedSteps + 1
    currentStep := wf.currentStep + 1
    updatedAt := env.timestamp
    status }

/-- A workflow that was rolled back and cancelled. -/
def cancelled (env : Host) (wf : WorkflowInstance) (rolledBackSteps : ℕ) : WorkflowInstance :=
  { wf with
    steps := wf.steps.map (·.undone env)
    rolledBackSteps
    failureReason := some "Cancelled by caller"
    updatedAt := env.timestamp
    status := .cancelled }

/-- The data of actions are as they were. -/
structure ActionsKept (s s' : State) : Prop where
  execCounter : s'.execCounter = s.execCounter
  nonce : s'.nonce = s.nonce
  history : s'.history = s.history
  rateLimit : s'.rateLimit = s.rateLimit

/-- The data of workflows are as they were. -/
structure WorkflowsKept (s s' : State) : Prop where
  workflowCounter : s'.workflowCounter = s.workflowCounter
  workflow : s'.workflow = s.workflow
  workflowHistory : s'.workflowHistory = s.workflowHistory
  calls : s'.calls = s.calls

/-- One workflow was written, and these calls were made. -/
structure Wrote (s : State) (wf : WorkflowInstance) (calls : List Call) (s' : State) : Prop where
  workflow : ∀ id, s'.workflow.get? id = if id = wf.workflowId then some wf else s.workflow.get? id
  calls : s'.calls = s.calls ++ calls
  workflowCounter : s'.workflowCounter = s.workflowCounter
  actions : ActionsKept s s'

/-- The summary of the workflow has its status. -/
def Summarized (env : Host) (wf : WorkflowInstance) (s s' : State) : Prop :=
  s'.workflowHistory = (updateHistorySummary env wf s).workflowHistory

inductive Effect (s : State) : Action → State → Prop
  | aside (env : Host) (op : Op) (s' : State) (actions : ActionsKept s s')
      (workflows : WorkflowsKept s s')
      (other : ∀ agentId executor action parameters nonce,
        op ≠ .executeAction agentId executor action parameters nonce) : Effect s ⟨env, op⟩ s'
  | initialized (env : Host) (admin : Address) (fresh : s.admin = none) :
      Effect s ⟨env, .initializeHub admin⟩
        { s with admin := some admin, workflowCounter := some 0, execCounter := some 0 }
  | acted (env : Host) (agentId : ℕ) (executor : Address) (action : String) (parameters : Bytes)
      (nonce : ℕ) (data : RateLimitData) (newer : getNonceInner s agentId < nonce)
      (metered : ((s.rateLimit.get? agentId).getD ⟨env.timestamp, 0⟩).meter env.timestamp
        defaultRateLimitOps defaultRateLimitWindow = .ok data) :
      Effect s ⟨env, .executeAction agentId executor action parameters nonce⟩ { s with
        execCounter := some (s.execCounter.getD 0 + 1)
        nonce := s.nonce.set agentId nonce
        history := s.history.set agentId (historyOf s agentId ++ [{
          executionId := s.execCounter.getD 0 + 1, action, executor, timestamp := env.timestamp
          nonce }])
        rateLimit := s.rateLimit.set agentId data }
  | created (env : Host) (initiator : Address) (args : WorkflowArgs) (deadline : ℕ) :
      Effect s ⟨env, .createWorkflow initiator args⟩
        (appendHistorySummary initiator
          (opened env (s.workflowCounter.getD 0 + 1) initiator args deadline)
          (saveWorkflow (opened env (s.workflowCounter.getD 0 + 1) initiator args deadline)
            { s with workflowCounter := some (s.workflowCounter.getD 0 + 1) }))
  | expired (env : Host) (workflowId : ℕ) (wf : WorkflowInstance) (s' : State)
      (found : s.workflow.get? workflowId = some wf) (executable : wf.status.executable = true)
      (late : wf.deadline < env.timestamp)
      (wrote : Wrote s (expired env wf).notified (expired env wf).announcement s')
      (summaries : s'.workflowHistory = s.workflowHistory) :
      Effect s ⟨env, .executeWorkflowStep workflowId⟩ s'
  | stepped (env : Host) (workflowId : ℕ) (wf : WorkflowInstance) (step : WorkflowStep) (s' : State)
      (found : s.workflow.get? workflowId = some wf) (executable : wf.status.executable = true)
      (called : wf.steps[wf.currentStep]? = some step)
      (wrote : Wrote s (advanced env wf step .running)
        [step.execCall wf.workflowId wf.currentStep] s')
      (summaries : s'.workflowHistory = s.workflowHistory) :
      Effect s ⟨env, .executeWorkflowStep workflowId⟩ s'
  | completed (env : Host) (workflowId : ℕ) (wf : WorkflowInstance) (step : WorkflowStep)
      (s' : State) (found : s.workflow.get? workflowId = some wf)
      (executable : wf.status.executable = true) (called : wf.steps[wf.currentStep]? = some step)
      (wrote : Wrote s (advanced env wf step .completed).notified
        (step.execCall wf.workflowId wf.currentStep ::
          (advanced env wf step .completed).announcement) s')
      (summaries : Summarized env (advanced env wf step .completed) s s') :
      Effect s ⟨env, .executeWorkflowStep workflowId⟩ s'
  | cancelled (env : Host) (workflowId : ℕ) (caller : Address) (wf : WorkflowInstance)
      (rolledBackSteps : ℕ) (s' : State) (found : s.workflow.get? workflowId = some wf)
      (executable : wf.status.executable = true)
      (wrote : Wrote s (cancelled env wf rolledBackSteps).notified
        (undoCalls wf.workflowId wf.steps wf.steps.length ++
          (cancelled env wf rolledBackSteps).announcement) s')
      (summaries : Summarized env (cancelled env wf rolledBackSteps) s s') :
      Effect s ⟨env, .cancelWorkflow workflowId caller⟩ s'

theorem invoke_ok {call : Call} :
    invoke env call s = .ok s' ↔
      env.completes call = true ∧ { s with calls := s.calls ++ [call] } = s' := by
  unfold invoke
  split <;> simp_all

theorem invoke_bind {call : Call} {β : Type} {f : State → Result β} {r : β} :
    (invoke env call s >>= f) = .ok r ↔
      env.completes call = true ∧ f { s with calls := s.calls ++ [call] } = .ok r := by
  simp [bind_ok, invoke_ok]

theorem maybeFireCallback_ok {r : WorkflowInstance × State}
    (h : maybeFireCallback env wf s = .ok r) :
    r = (wf.notified, { s with calls := s.calls ++ wf.announcement }) := by
  unfold maybeFireCallback at h
  unfold WorkflowInstance.notified WorkflowInstance.announcement
  split at h
  · rename_i hnone
    cases h
    simp only [hnone, List.append_nil, Option.map_none]
    rw [← hnone]
  · rename_i callback hcallback
    split at h
    · rename_i hfired
      cases h
      simp only [hcallback, hfired, if_true, List.append_nil, Option.map_some]
      rw [← hfired, ← hcallback]
    · rename_i hfired
      rw [invoke_bind] at h
      cases h.2
      simp only [hcallback, hfired, Option.map_some]
      rfl

/-- What is saved before the callback is overwritten after it. -/
theorem announce_ok (h : announce env wf s = .ok s') : Wrote s wf.notified wf.announcement s' ∧
    s'.workflowHistory = s.workflowHistory := by
  unfold announce at h
  obtain ⟨r, hr, h⟩ := bind_ok.mp h
  rw [maybeFireCallback_ok hr] at h
  cases h
  refine ⟨⟨fun id => ?_, rfl, rfl, ⟨rfl, rfl, rfl, rfl⟩⟩, rfl⟩
  change ((s.workflow.set wf.workflowId wf).set wf.workflowId wf.notified).get? id =
    if id = wf.workflowId then some wf.notified else s.workflow.get? id
  rw [Store.get?_set, Store.get?_set]
  split <;> rfl

theorem conclude_ok (h : conclude env wf s = .ok s') :
    Wrote s wf.notified wf.announcement s' ∧ Summarized env wf s s' := by
  obtain ⟨⟨hworkflow, hcalls, hcounter, hactions⟩, hsummaries⟩ := announce_ok h
  exact ⟨⟨hworkflow, hcalls, hcounter, ⟨hactions.1, hactions.2, hactions.3, hactions.4⟩⟩,
    hsummaries⟩

/-- A write after some calls on the same workflow. -/
theorem Wrote.after {s₁ : State} {calls' : List Call} (h : Wrote s wf calls s₁)
    (h' : Wrote s₁ wf' calls' s') (hid : wf'.workflowId = wf.workflowId) :
    Wrote s wf' (calls ++ calls') s' where
  workflow id := by
    rw [h'.workflow, h.workflow, hid]
    split <;> rfl
  calls := by rw [h'.calls, h.calls, List.append_assoc]
  workflowCounter := h'.workflowCounter.trans h.workflowCounter
  actions := ⟨h'.actions.1.trans h.actions.1, h'.actions.2.trans h.actions.2,
    h'.actions.3.trans h.actions.3, h'.actions.4.trans h.actions.4⟩

/-- What comes after the position is not looked at. -/
theorem undoCalls_congr {workflowId n : ℕ} {steps steps' : List WorkflowStep}
    (h : ∀ i < n, steps'[i]? = steps[i]?) :
    undoCalls workflowId steps' n = undoCalls workflowId steps n := by
  induction n with
  | zero => rfl
  | succ n ih =>
    unfold undoCalls
    rw [h n (Nat.lt_succ_self n), ih fun i hi => h i (hi.trans (Nat.lt_succ_self n))]

/-- One more step undone, before those that come before it. -/
theorem undone_steps (env : Host) {steps : List WorkflowStep} {step : WorkflowStep} {n : ℕ}
    (h : steps[n]? = some step) :
    ((steps.set n (step.undone env)).take n).map (·.undone env) ++
        (steps.set n (step.undone env)).drop n =
      (steps.take (n + 1)).map (·.undone env) ++ steps.drop (n + 1) := by
  have hn : n < steps.length := (List.getElem?_eq_some_iff.mp h).1
  have hlength : (steps.take n).length = n := List.length_take_of_le hn.le
  rw [List.set_eq_take_append_cons_drop, if_pos hn, List.take_left' hlength,
    List.drop_left' hlength, List.take_add_one, h]
  simp

/-- The loop of the rollback: the steps before position `n` are undone, in reverse. -/
theorem rollbackFrom_ok {n : ℕ} {r : WorkflowInstance × State}
    (h : rollbackFrom env n wf s = .ok r) :
    ∃ rolledBackSteps updatedAt, r = ({ wf with
        steps := (wf.steps.take n).map (·.undone env) ++ wf.steps.drop n
        rolledBackSteps
        updatedAt },
      { s with calls := s.calls ++ undoCalls wf.workflowId wf.steps n }) := by
  induction n generalizing wf s with
  | zero =>
    cases h
    exact ⟨wf.rolledBackSteps, wf.updatedAt, by simp [undoCalls]⟩
  | succ n ih =>
    unfold rollbackFrom at h
    rw [expect_bind] at h
    obtain ⟨step, hstep, h⟩ := h
    have hsteps := undone_steps env hstep
    have hcalls : undoCalls wf.workflowId (wf.steps.set n (step.undone env)) n =
        undoCalls wf.workflowId wf.steps n :=
      undoCalls_congr fun i hi => List.getElem?_set_ne (Nat.ne_of_gt hi)
    rw [undoCalls, hstep]
    split at h
    · rename_i hother
      have hundone : step.undone env = step := if_neg hother
      have hset : wf.steps.set n step = wf.steps := by
        obtain ⟨hn, rfl⟩ := List.getElem?_eq_some_iff.mp hstep
        exact List.set_getElem_self hn
      obtain ⟨rolledBackSteps, updatedAt, rfl⟩ := ih h
      rw [hundone, hset] at hsteps
      refine ⟨rolledBackSteps, updatedAt, ?_⟩
      rw [hsteps]
      simp only [if_neg hother, List.nil_append]
    · rename_i hcompleted
      rw [not_not] at hcompleted
      have hundone : step.undone env =
          { step with status := .rolledBack, updatedAt := env.timestamp } := if_pos hcompleted
      simp only [invoke_bind, U32.checked_bind, ← hundone] at h
      obtain ⟨-, -, h⟩ := h
      obtain ⟨rolledBackSteps, updatedAt, rfl⟩ := ih h
      refine ⟨rolledBackSteps, updatedAt, ?_⟩
      dsimp only
      rw [hsteps, hcalls, List.append_assoc, if_pos hcompleted]

theorem rollbackCompletedSteps_ok {r : WorkflowInstance × State}
    (h : rollbackCompletedSteps env wf s = .ok r) :
    ∃ rolledBackSteps status, r = ({ wf with
        steps := wf.steps.map (·.undone env)
        rolledBackSteps
        updatedAt := env.timestamp
        status },
      { s with calls := s.calls ++ undoCalls wf.workflowId wf.steps wf.steps.length }) := by
  unfold rollbackCompletedSteps at h
  obtain ⟨r', hr', h⟩ := bind_ok.mp h
  obtain ⟨rolledBackSteps, updatedAt, rfl⟩ := rollbackFrom_ok hr'
  rw [List.take_length, List.drop_length, List.append_nil] at h
  cases h
  exact ⟨rolledBackSteps, _, rfl⟩

theorem executeAction_effect {agentId nonce : ℕ} {executor : Address} {action : String}
    {parameters : Bytes} {r : ℕ × State}
    (h : executeAction env agentId executor action parameters nonce s = .ok r) :
    r.1 = s.execCounter.getD 0 + 1 ∧
      Effect s ⟨env, .executeAction agentId executor action parameters nonce⟩ r.2 := by
  unfold executeAction at h
  simp only [requireAuth_bind, validateAgentId, validateString, validateData, panicIf_bind] at h
  obtain ⟨-, -, -, -, hnonce, h⟩ := h
  unfold checkRateLimit nextExecId appendActionRecord at h
  obtain ⟨s₁, hs₁, h⟩ := bind_ok.mp h
  obtain ⟨data, hdata, hs₁⟩ := bind_ok.mp hs₁
  cases hs₁
  obtain ⟨r₁, hr₁, h⟩ := bind_ok.mp h
  rw [U64.checked_bind] at hr₁
  cases hr₁.2
  obtain ⟨s₂, hs₂, h⟩ := bind_ok.mp h
  rw [panicIf_bind] at hs₂
  cases hs₂.2
  cases h
  exact ⟨rfl, .acted env agentId executor action parameters nonce data (not_le.mp hnonce) hdata⟩

/-- A workflow goes on, or has ended. -/
theorem stepDone_ok {step : WorkflowStep} {r : WorkflowStepStatus × State}
    (h : stepDone env wf step s = .ok r) :
    (r.2 = saveWorkflow (advanced env wf step wf.status) s) ∨
      (Wrote s (advanced env wf step .completed).notified
        (advanced env wf step .completed).announcement r.2 ∧
      Summarized env (advanced env wf step .completed) s r.2) := by
  unfold stepDone at h
  simp only [U32.checked_bind] at h
  obtain ⟨-, -, h⟩ := h
  split at h
  · obtain ⟨s', hs', h⟩ := bind_ok.mp h
    cases h
    exact .inr (conclude_ok hs')
  · cases h
    exact .inl rfl

def WorkflowStep.executing (env : Host) (step : WorkflowStep) : WorkflowStep :=
  { step with status := .executing, updatedAt := env.timestamp }

/-- A workflow whose next step is being executed. -/
def executing (env : Host) (wf : WorkflowInstance) (step : WorkflowStep) : WorkflowInstance :=
  withStep { wf with status := .running } (step.executing env)

/-- What is written before the call is overwritten after it. -/
theorem advanced_executing (env : Host) (wf : WorkflowInstance) (step : WorkflowStep)
    (status : WorkflowStatus) :
    advanced env (executing env wf step) (step.executing env) status =
      advanced env wf step status := by
  simp only [advanced, executing, withStep, WorkflowStep.executing, List.set_set]

theorem wrote_save (wf : WorkflowInstance) (s : State) : Wrote s wf [] (saveWorkflow wf s) where
  workflow _ := Store.get?_set _ _ _ _
  calls := (List.append_nil _).symm
  workflowCounter := rfl
  actions := ⟨rfl, rfl, rfl, rfl⟩

theorem executeWorkflowStep_effect {workflowId : ℕ} {r : WorkflowStepStatus × State}
    (h : executeWorkflowStep env workflowId s = .ok r) :
    Effect s ⟨env, .executeWorkflowStep workflowId⟩ r.2 := by
  unfold executeWorkflowStep loadWorkflow at h
  simp only [expect_bind, panicIf_bind, Bool.not_eq_false] at h
  obtain ⟨wf, hfound, hexecutable, h⟩ := h
  split at h
  · rename_i hlate
    obtain ⟨s₁, hs₁, h⟩ := bind_ok.mp h
    cases h
    obtain ⟨hwrote, hsummaries⟩ := announce_ok hs₁
    exact .expired env workflowId wf s₁ hfound hexecutable hlate hwrote hsummaries
  · simp only [panicIf_bind, expect_bind] at h
    obtain ⟨-, step, hstep, h⟩ := h
    let call := step.execCall wf.workflowId wf.currentStep
    let s₁ := { saveWorkflow (executing env wf step) s with calls := s.calls ++ [call] }
    have hcalled : Wrote s (executing env wf step) [call] s₁ :=
      ⟨(wrote_save _ s).workflow, rfl, rfl, ⟨rfl, rfl, rfl, rfl⟩⟩
    obtain ⟨r', hr', h⟩ := bind_ok.mp h
    unfold tryInvokeStep at hr'
    rw [invoke_bind] at hr'
    cases hr'.2
    have hdone : stepDone env (executing env wf step) (step.executing env) s₁ = .ok r := h
    rcases stepDone_ok hdone with hs' | ⟨hwrote, hsummaries⟩
    · rw [advanced_executing] at hs'
      rw [hs']
      exact .stepped env workflowId wf step _ hfound hexecutable hstep
        (hcalled.after (wrote_save _ _) rfl) rfl
    · rw [advanced_executing] at hwrote hsummaries
      exact .completed env workflowId wf step _ hfound hexecutable hstep
        (hcalled.after hwrote rfl) hsummaries

theorem cancelWorkflow_effect {workflowId : ℕ} {caller : Address}
    (h : cancelWorkflow env workflowId caller s = .ok s') :
    Effect s ⟨env, .cancelWorkflow workflowId caller⟩ s' := by
  unfold cancelWorkflow loadWorkflow getAdmin at h
  simp only [requireAuth_bind, expect_bind, panicIf_bind, Bool.not_eq_false] at h
  obtain ⟨-, wf, hfound, admin, -, -, hexecutable, h⟩ := h
  obtain ⟨r, hr, h⟩ := bind_ok.mp h
  obtain ⟨rolledBackSteps, status, rfl⟩ := rollbackCompletedSteps_ok hr
  obtain ⟨hwrote, hsummaries⟩ := conclude_ok h
  refine .cancelled env workflowId caller wf rolledBackSteps s' hfound hexecutable ?_ hsummaries
  refine ⟨hwrote.workflow, ?_, hwrote.workflowCounter, ?_⟩
  · rw [hwrote.calls, List.append_assoc]
    rfl
  · exact ⟨hwrote.actions.1, hwrote.actions.2, hwrote.actions.3, hwrote.actions.4⟩

/-- Every completed call has its effect. -/
theorem next_effect (h : next a s = .ok s') : Effect s a s' := by
  obtain ⟨env, op⟩ := a
  cases op with
  | initializeHub admin =>
    unfold next initializeHub at h
    simp only [panicIf_bind, requireAuth_bind] at h
    obtain ⟨hfresh, -, h⟩ := h
    cases h
    exact .initialized env admin (by simpa using hfresh)
  | registerRule agentId owner ruleName ruleData =>
    unfold next registerRule validateAgentId validateString validateData at h
    simp only [panicIf_bind, requireAuth_bind] at h
    obtain ⟨-, -, -, -, h⟩ := h
    cases h
    exact .aside _ _ _ ⟨rfl, rfl, rfl, rfl⟩ ⟨rfl, rfl, rfl, rfl⟩ fun _ _ _ _ _ hop => by cases hop
  | revokeRule agentId owner ruleName =>
    unfold next revokeRule validateAgentId at h
    simp only [panicIf_bind, requireAuth_bind] at h
    obtain ⟨-, -, h⟩ := h
    cases h
    exact .aside _ _ _ ⟨rfl, rfl, rfl, rfl⟩ ⟨rfl, rfl, rfl, rfl⟩ fun _ _ _ _ _ hop => by cases hop
  | executeAction agentId executor action parameters nonce =>
    obtain ⟨r, hr, rfl⟩ := map_ok.mp h
    exact (executeAction_effect hr).2
  | createWorkflow initiator args =>
    obtain ⟨r, hr, rfl⟩ := map_ok.mp h
    unfold createWorkflow validateString nextWorkflowId at hr
    simp only [panicIf_bind, requireAuth_bind, U64.checked_bind] at hr
    obtain ⟨-, -, -, -, -, hr⟩ := hr
    obtain ⟨r', hr', hr⟩ := bind_ok.mp hr
    rw [U64.checked_bind] at hr'
    cases hr'.2
    cases hr
    exact .created env initiator args _
  | executeWorkflowStep workflowId =>
    obtain ⟨r, hr, rfl⟩ := map_ok.mp h
    exact executeWorkflowStep_effect hr
  | cancelWorkflow workflowId caller => exact cancelWorkflow_effect h
  | transferAdmin currentAdmin newAdmin =>
    unfold next transferAdmin at h
    simp only [requireAuth_bind] at h
    obtain ⟨-, h⟩ := h
    obtain ⟨-, -, h⟩ := bind_ok.mp h
    cases h
    exact .aside _ _ _ ⟨rfl, rfl, rfl, rfl⟩ ⟨rfl, rfl, rfl, rfl⟩ fun _ _ _ _ _ hop => by cases hop

/-- A new workflow is stored in time, and before its first step. -/
theorem createWorkflow_ready {initiator : Address} {args : WorkflowArgs} {workflowId : ℕ}
    (h : createWorkflow env initiator args s = .ok (workflowId, s')) :
    ∃ wf, s'.workflow.get? workflowId = some wf ∧ env.timestamp ≤ wf.deadline ∧
      wf.currentStep = 0 ∧ wf.steps = args.steps := by
  unfold createWorkflow validateString nextWorkflowId at h
  simp only [panicIf_bind, requireAuth_bind, U64.checked_bind] at h
  obtain ⟨-, -, -, -, -, h⟩ := h
  obtain ⟨r, hr, h⟩ := bind_ok.mp h
  rw [U64.checked_bind] at hr
  cases hr.2
  cases h
  exact ⟨_, Store.get?_set_self .., Nat.le_add_right _ _, rfl, rfl⟩

/-- A workflow whose next call does not complete does not go on. -/
theorem executeWorkflowStep_traps {workflowId : ℕ} {step : WorkflowStep}
    {r : WorkflowStepStatus × State} (hfound : s.workflow.get? workflowId = some wf)
    (hintime : env.timestamp ≤ wf.deadline) (hstep : wf.steps[wf.currentStep]? = some step)
    (hfails : env.completes (step.execCall wf.workflowId wf.currentStep) = false) :
    executeWorkflowStep env workflowId s ≠ .ok r := by
  intro h
  unfold executeWorkflowStep loadWorkflow at h
  obtain ⟨wf', hwf, h⟩ := expect_bind.mp h
  cases hfound.symm.trans hwf
  obtain ⟨-, h⟩ := panicIf_bind.mp h
  rw [if_neg (not_lt.mpr hintime)] at h
  obtain ⟨-, h⟩ := panicIf_bind.mp h
  obtain ⟨step', hstep', h⟩ := expect_bind.mp h
  cases hstep.symm.trans hstep'
  obtain ⟨called, hcalled, -⟩ := bind_ok.mp h
  have hcompletes := (invoke_bind.mp hcalled).1
  exact ne_true_of_eq_false hfails hcompletes

end ExecutionHub
