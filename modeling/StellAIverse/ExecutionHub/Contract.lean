import StellAIverse.Soroban.Store
import StellAIverse.Soroban.Token

/-!
# The execution hub

Rules, metered actions of agents, and workflows over other contracts. A call on another
contract either completes or traps and takes the whole invocation with it, so a step that
has returned has succeeded. The calls that were made are kept beside the storage, in
order. Events are left out.
-/

namespace ExecutionHub

open Soroban

abbrev Bytes := List UInt8

def maxSteps : ℕ := 10

def maxStringLength : ℕ := 256

def maxDataSize : ℕ := 65536

def maxHistorySize : ℕ := 1000

def defaultRateLimitOps : ℕ := 100

/-- A minute. -/
def defaultRateLimitWindow : ℕ := 60

/-- Five minutes. -/
def defaultWorkflowTimeout : ℕ := 300

def maxHistoryPerInitiator : ℕ := 200

structure ActionRecord where
  executionId : ℕ
  action : String
  executor : Address
  timestamp : ℕ
  nonce : ℕ
  deriving DecidableEq, Repr

structure RateLimitData where
  lastReset : ℕ
  count : ℕ
  deriving DecidableEq, Repr

inductive WorkflowStatus where
  | pending | running | completed | rolledBack | failed | cancelled
  deriving DecidableEq, Repr

inductive WorkflowStepStatus where
  | pending | executing | completed | failed | rolledBack | skipped
  deriving DecidableEq, Repr

structure WorkflowStep where
  stepIndex : ℕ
  name : String
  targetContract : Address
  functionName : String
  encodedArgs : Bytes
  required : Bool
  maxRetries : ℕ
  retryCount : ℕ
  status : WorkflowStepStatus
  result : Option Bytes
  error : Option String
  updatedAt : ℕ
  deriving DecidableEq, Repr

structure WorkflowCallback where
  callbackContract : Address
  fired : Bool
  deriving DecidableEq, Repr

structure WorkflowInstance where
  workflowId : ℕ
  initiator : Address
  name : String
  steps : List WorkflowStep
  status : WorkflowStatus
  currentStep : ℕ
  completedSteps : ℕ
  createdAt : ℕ
  updatedAt : ℕ
  deadline : ℕ
  contextTag : Option String
  callback : Option WorkflowCallback
  failureReason : Option String
  rolledBackSteps : ℕ
  deriving DecidableEq, Repr

structure WorkflowSummary where
  workflowId : ℕ
  name : String
  status : WorkflowStatus
  createdAt : ℕ
  completedAt : Option ℕ
  deriving DecidableEq, Repr

/-- A call the hub makes. Of which workflow it is, and at which position of its steps, the
callee of a step is not told. -/
inductive Call where
  | execStep (workflowId position : ℕ) (target : Address) (stepIndex : ℕ) (encodedArgs : Bytes)
  | rollback (workflowId position : ℕ) (target : Address) (encodedArgs : Bytes)
  | wfDone (target : Address) (workflowId status : ℕ)
  deriving DecidableEq, Repr

/-- The host also knows which calls complete. -/
structure Host extends Env where
  completes : Call → Bool

structure State where
  admin : Option Address
  workflowCounter : Option ℕ
  execCounter : Option ℕ
  rule : Store (ℕ × String) Bytes
  nonce : Store ℕ ℕ
  history : Store ℕ (List ActionRecord)
  rateLimit : Store ℕ RateLimitData
  workflow : Store ℕ WorkflowInstance
  workflowHistory : Store Address (List WorkflowSummary)
  /-- Not in storage: the calls that were made so far. -/
  calls : List Call

/-- The hub before anything was called. -/
def deployed : State where
  admin := none
  workflowCounter := none
  execCounter := none
  rule := .empty
  nonce := .empty
  history := .empty
  rateLimit := .empty
  workflow := .empty
  workflowHistory := .empty
  calls := []

def invoke (env : Host) (call : Call) (s : State) : Result State :=
  if env.completes call = true then .ok { s with calls := s.calls ++ [call] }
  else .error .callFailed

def validateAgentId (agentId : ℕ) : Result Unit :=
  panicIf (agentId = 0) "Invalid agent ID: must be non-zero"

def validateString (s : String) : Result Unit :=
  panicIf (s.utf8ByteSize > maxStringLength) "String exceeds maximum length"

def validateData (data : Bytes) : Result Unit :=
  panicIf (data.length > maxDataSize) "Data exceeds maximum size"

def getAdmin (s : State) : Result Address := expect s.admin "Hub not initialized"

def assertAdmin (s : State) (caller : Address) : Result Unit := do
  let admin ← getAdmin s
  panicIf (caller ≠ admin) "Unauthorized: caller is not admin"

/-- `initialize`. -/
def initializeHub (env : Host) (admin : Address) (s : State) : Result State := do
  panicIf (s.admin.isSome = true) "Already initialized"
  requireAuth env.toEnv admin
  .ok { s with admin := some admin, workflowCounter := some 0, execCounter := some 0 }

def registerRule (env : Host) (agentId : ℕ) (owner : Address) (ruleName : String)
    (ruleData : Bytes) (s : State) : Result State := do
  requireAuth env.toEnv owner
  validateAgentId agentId
  validateString ruleName
  validateData ruleData
  .ok { s with rule := s.rule.set (agentId, ruleName) ruleData }

def revokeRule (env : Host) (agentId : ℕ) (owner : Address) (ruleName : String) (s : State) :
    Result State := do
  requireAuth env.toEnv owner
  validateAgentId agentId
  .ok { s with rule := s.rule.remove (agentId, ruleName) }

def getNonceInner (s : State) (agentId : ℕ) : ℕ := (s.nonce.get? agentId).getD 0

def historyOf (s : State) (agentId : ℕ) : List ActionRecord := (s.history.get? agentId).getD []

/-- The window starts over when more than its length has passed since it started. -/
def RateLimitData.meter (now maxOps window : ℕ) (data : RateLimitData) : Result RateLimitData :=
  if now - data.lastReset > window then .ok ⟨now, 1⟩
  else if data.count < maxOps then .ok ⟨data.lastReset, data.count + 1⟩
  else .error (.panic "Rate limit exceeded")

def checkRateLimit (env : Host) (agentId maxOps window : ℕ) (s : State) : Result State := do
  let data := (s.rateLimit.get? agentId).getD ⟨env.timestamp, 0⟩
  let data ← data.meter env.timestamp maxOps window
  .ok { s with rateLimit := s.rateLimit.set agentId data }

def nextExecId (s : State) : Result (ℕ × State) := do
  let next ← U64.checked (s.execCounter.getD 0 + 1) "Execution ID overflow"
  .ok (next, { s with execCounter := some next })

def appendActionRecord (agentId : ℕ) (record : ActionRecord) (s : State) : Result State := do
  panicIf ((historyOf s agentId).length ≥ maxHistorySize) "Action history limit exceeded"
  .ok { s with history := s.history.set agentId (historyOf s agentId ++ [record]) }

/-- The number of the execution comes with the new state. -/
def executeAction (env : Host) (agentId : ℕ) (executor : Address) (action : String)
    (parameters : Bytes) (nonce : ℕ) (s : State) : Result (ℕ × State) := do
  requireAuth env.toEnv executor
  validateAgentId agentId
  validateString action
  validateData parameters
  panicIf (nonce ≤ getNonceInner s agentId) "Invalid nonce: replay protection triggered"
  let s ← checkRateLimit env agentId defaultRateLimitOps defaultRateLimitWindow s
  let (executionId, s) ← nextExecId s
  let s := { s with nonce := s.nonce.set agentId nonce }
  let s ← appendActionRecord agentId
    { executionId, action, executor, timestamp := env.timestamp, nonce } s
  .ok (executionId, s)

def loadWorkflow (s : State) (workflowId : ℕ) : Result WorkflowInstance :=
  expect (s.workflow.get? workflowId) "Workflow not found"

def saveWorkflow (wf : WorkflowInstance) (s : State) : State :=
  { s with workflow := s.workflow.set wf.workflowId wf }

def nextWorkflowId (s : State) : Result (ℕ × State) := do
  let next ← U64.checked (s.workflowCounter.getD 0 + 1) "Workflow ID overflow"
  .ok (next, { s with workflowCounter := some next })

def getWorkflowHistory (s : State) (initiator : Address) : List WorkflowSummary :=
  (s.workflowHistory.get? initiator).getD []

/-- The oldest summary goes when there are 200. -/
def pushSummary (history : List WorkflowSummary) (summary : WorkflowSummary) :
    List WorkflowSummary :=
  (if history.length ≥ maxHistoryPerInitiator then history.drop 1 else history) ++ [summary]

def appendHistorySummary (initiator : Address) (wf : WorkflowInstance) (s : State) : State :=
  { s with
    workflowHistory := s.workflowHistory.set initiator
      (pushSummary (getWorkflowHistory s initiator) {
        workflowId := wf.workflowId, name := wf.name, status := wf.status
        createdAt := wf.createdAt, completedAt := none }) }

/-- The first summary of the workflow gets its status. -/
def updateFirst (wf : WorkflowInstance) (now : ℕ) : List WorkflowSummary → List WorkflowSummary
  | [] => []
  | summary :: rest =>
    if summary.workflowId = wf.workflowId then
      { summary with status := wf.status, completedAt := some now } :: rest
    else summary :: updateFirst wf now rest

def updateHistorySummary (env : Host) (wf : WorkflowInstance) (s : State) : State :=
  { s with
    workflowHistory := s.workflowHistory.set wf.initiator
      (updateFirst wf env.timestamp (getWorkflowHistory s wf.initiator)) }

/-- The arguments of `create_workflow` after the initiator. -/
structure WorkflowArgs where
  name : String
  steps : List WorkflowStep
  deadlineOffsetSeconds : Option ℕ
  contextTag : Option String
  callbackContract : Option Address

/-- The steps are stored as they are given. -/
def createWorkflow (env : Host) (initiator : Address) (args : WorkflowArgs) (s : State) :
    Result (ℕ × State) := do
  requireAuth env.toEnv initiator
  panicIf (args.steps = []) "Workflow must have at least one step"
  panicIf (args.steps.length > maxSteps) "Too many workflow steps"
  validateString args.name
  let now := env.timestamp
  let deadline ← U64.checked (now + args.deadlineOffsetSeconds.getD defaultWorkflowTimeout)
    "Deadline overflow"
  let (workflowId, s) ← nextWorkflowId s
  let wf : WorkflowInstance := {
    workflowId, initiator, name := args.name, steps := args.steps, status := .pending
    currentStep := 0, completedSteps := 0, createdAt := now, updatedAt := now, deadline
    contextTag := args.contextTag, callback := args.callbackContract.map (⟨·, false⟩)
    failureReason := none, rolledBackSteps := 0 }
  .ok (workflowId, appendHistorySummary initiator wf (saveWorkflow wf s))

/-- The step is called, and then has succeeded. -/
def tryInvokeStep (env : Host) (wf : WorkflowInstance) (step : WorkflowStep) (s : State) :
    Result (Bool × State) := do
  let s ← invoke env (.execStep wf.workflowId wf.currentStep step.targetContract step.stepIndex
    step.encodedArgs) s
  .ok (true, s)

/-- From the last of the first `i` steps to the first, every completed step is rolled back. -/
def rollbackFrom (env : Host) : ℕ → WorkflowInstance → State → Result (WorkflowInstance × State)
  | 0, wf, s => .ok (wf, s)
  | i + 1, wf, s => do
    let step ← expect wf.steps[i]? "Step index out of range"
    if step.status ≠ .completed then rollbackFrom env i wf s
    else do
      let s ← invoke env (.rollback wf.workflowId i step.targetContract step.encodedArgs) s
      let rolledBackSteps ← U32.checked (wf.rolledBackSteps + 1) "rolled_back_steps overflow"
      rollbackFrom env i { wf with
        steps := wf.steps.set i { step with status := .rolledBack, updatedAt := env.timestamp }
        rolledBackSteps
        updatedAt := env.timestamp } s

def rollbackCompletedSteps (env : Host) (wf : WorkflowInstance) (s : State) :
    Result (WorkflowInstance × State) := do
  let (wf, s) ← rollbackFrom env wf.steps.length wf s
  .ok ({ wf with
    status := if wf.steps.any (·.status = .failed) = true then .failed else .rolledBack
    updatedAt := env.timestamp }, s)

def statusCode : WorkflowStatus → ℕ
  | .completed => 2
  | .rolledBack => 3
  | .failed => 4
  | .cancelled => 5
  | _ => 0

def maybeFireCallback (env : Host) (wf : WorkflowInstance) (s : State) :
    Result (WorkflowInstance × State) :=
  match wf.callback with
  | none => .ok (wf, s)
  | some callback =>
    if callback.fired = true then .ok (wf, s)
    else do
      let s ← invoke env
        (.wfDone callback.callbackContract wf.workflowId (statusCode wf.status)) s
      .ok ({ wf with callback := some { callback with fired := true } }, s)

/-- A workflow that has ended is saved, its callback fired, and it is saved again. -/
def announce (env : Host) (wf : WorkflowInstance) (s : State) : Result State := do
  let (wf, s) ← maybeFireCallback env wf (saveWorkflow wf s)
  .ok (saveWorkflow wf s)

def conclude (env : Host) (wf : WorkflowInstance) (s : State) : Result State :=
  announce env wf (updateHistorySummary env wf s)

def withStep (wf : WorkflowInstance) (step : WorkflowStep) : WorkflowInstance :=
  { wf with steps := wf.steps.set wf.currentStep step }

/-- After the call: on to the next step, or to the end. -/
def stepDone (env : Host) (wf : WorkflowInstance) (step : WorkflowStep) (s : State) :
    Result (WorkflowStepStatus × State) := do
  let now := env.timestamp
  let wf := withStep wf { step with status := .completed, updatedAt := now, error := none }
  let completedSteps ← U32.checked (wf.completedSteps + 1) "completed_steps overflow"
  let currentStep ← U32.checked (wf.currentStep + 1) "current_step overflow"
  let wf := { wf with completedSteps, currentStep, updatedAt := now }
  if wf.currentStep ≥ wf.steps.length then do
    let s ← conclude env { wf with status := .completed } s
    .ok (.completed, s)
  else .ok (.completed, saveWorkflow wf s)

/-- A step that failed is tried again, or fails the workflow, or is passed over. -/
def stepFailed (env : Host) (wf : WorkflowInstance) (step : WorkflowStep) (s : State) :
    Result (WorkflowStepStatus × State) := do
  let now := env.timestamp
  if step.retryCount < step.maxRetries then do
    let retryCount ← U32.checked (step.retryCount + 1) "retry_count overflow"
    let wf := withStep wf { step with
      retryCount, status := .pending, error := some "Transient failure; will retry"
      updatedAt := now }
    .ok (.pending, saveWorkflow { wf with updatedAt := now } s)
  else if step.required = true then do
    let wf := withStep wf { step with
      status := .failed, error := some "Step failed after all retries", updatedAt := now }
    let wf := { wf with failureReason := some "Required step failed", updatedAt := now }
    let (wf, s) ← rollbackCompletedSteps env wf (saveWorkflow wf s)
    let s ← conclude env wf s
    .ok (.failed, s)
  else do
    let wf := withStep wf { step with
      status := .skipped, error := some "Optional step failed; skipped", updatedAt := now }
    let currentStep ← U32.checked (wf.currentStep + 1) "current_step overflow"
    .ok (.skipped, saveWorkflow { wf with currentStep, updatedAt := now } s)

def WorkflowStatus.executable (status : WorkflowStatus) : Bool :=
  status = .pending ∨ status = .running

/-- A workflow that is too late fails, with its steps and its summary as they are. -/
def executeWorkflowStep (env : Host) (workflowId : ℕ) (s : State) :
    Result (WorkflowStepStatus × State) := do
  let wf ← loadWorkflow s workflowId
  panicIf (wf.status.executable = false) "Workflow is not in an executable state"
  let now := env.timestamp
  if now > wf.deadline then do
    let s ← announce env { wf with
      status := .failed, failureReason := some "Deadline exceeded", updatedAt := now } s
    .ok (.failed, s)
  else do
    let wf := { wf with status := .running }
    panicIf (wf.currentStep ≥ wf.steps.length) "All steps already executed"
    let step ← expect wf.steps[wf.currentStep]? "Step not found"
    let step := { step with status := .executing, updatedAt := now }
    let wf := withStep wf step
    let (callOk, s) ← tryInvokeStep env wf step (saveWorkflow wf s)
    if callOk = true then stepDone env wf step s else stepFailed env wf step s

def cancelWorkflow (env : Host) (workflowId : ℕ) (caller : Address) (s : State) :
    Result State := do
  requireAuth env.toEnv caller
  let wf ← loadWorkflow s workflowId
  let admin ← getAdmin s
  panicIf (caller ≠ wf.initiator ∧ caller ≠ admin)
    "Unauthorized: only initiator or admin can cancel"
  panicIf (wf.status.executable = false) "Workflow already terminal"
  let wf := { wf with failureReason := some "Cancelled by caller", updatedAt := env.timestamp }
  let (wf, s) ← rollbackCompletedSteps env wf s
  conclude env { wf with status := .cancelled } s

def transferAdmin (env : Host) (currentAdmin newAdmin : Address) (s : State) : Result State := do
  requireAuth env.toEnv currentAdmin
  assertAdmin s currentAdmin
  .ok { s with admin := some newAdmin }

inductive Op where
  | initializeHub (admin : Address)
  | registerRule (agentId : ℕ) (owner : Address) (ruleName : String) (ruleData : Bytes)
  | revokeRule (agentId : ℕ) (owner : Address) (ruleName : String)
  | executeAction (agentId : ℕ) (executor : Address) (action : String) (parameters : Bytes)
    (nonce : ℕ)
  | createWorkflow (initiator : Address) (args : WorkflowArgs)
  | executeWorkflowStep (workflowId : ℕ)
  | cancelWorkflow (workflowId : ℕ) (caller : Address)
  | transferAdmin (currentAdmin newAdmin : Address)

structure Action where
  env : Host
  op : Op

/-- The state an invocation leaves behind. -/
def next (a : Action) (s : State) : Result State :=
  match a.op with
  | .initializeHub admin => initializeHub a.env admin s
  | .registerRule agentId owner ruleName ruleData =>
    registerRule a.env agentId owner ruleName ruleData s
  | .revokeRule agentId owner ruleName => revokeRule a.env agentId owner ruleName s
  | .executeAction agentId executor action parameters nonce =>
    (executeAction a.env agentId executor action parameters nonce s).map (·.2)
  | .createWorkflow initiator args => (createWorkflow a.env initiator args s).map (·.2)
  | .executeWorkflowStep workflowId => (executeWorkflowStep a.env workflowId s).map (·.2)
  | .cancelWorkflow workflowId caller => cancelWorkflow a.env workflowId caller s
  | .transferAdmin currentAdmin newAdmin => transferAdmin a.env currentAdmin newAdmin s

/-- The ledger time of a call. -/
def Action.time? (a : Action) : Option ℕ := some a.env.timestamp

/-- A host at a time, where everybody signs and every call completes. -/
def hostAt (timestamp : ℕ) : Host := ⟨⟨timestamp, fun _ => true⟩, fun _ => true⟩

def alice : Address := ⟨1⟩

end ExecutionHub
