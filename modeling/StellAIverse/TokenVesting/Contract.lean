import StellAIverse.Soroban.Token

/-!
# The token vesting contract

Schedules that release tokens linearly after a cliff, with claims, early
withdrawal at a penalty, modification, top-ups and revocation. Storage and every
entry point that writes, in the order of the source. The published events are
part of the state, because they say what each schedule received and paid.
-/

namespace TokenVesting

open Soroban

def bpsDenominator : ℤ := 10000

def maxPenaltyBps : ℕ := 10000

def maxBatchSize : ℕ := 50

structure VestingSchedule where
  scheduleId : ℕ
  token : Address
  funder : Address
  beneficiary : Address
  totalAmount : ℤ
  claimedAmount : ℤ
  startTime : ℕ
  cliffTime : ℕ
  endTime : ℕ
  revocable : Bool
  earlyWithdrawalAllowed : Bool
  earlyPenaltyBps : ℕ
  active : Bool
  createdAt : ℕ
  updatedAt : ℕ
  lastClaimedAt : ℕ

structure EarlyWithdrawalResult where
  scheduleId : ℕ
  vestedPaid : ℤ
  unvestedPaid : ℤ
  penaltyAmount : ℤ
  totalPaid : ℤ

/-- The parameters that all schedules of a batch share. -/
structure Terms where
  startTime : ℕ
  cliffDurationSeconds : ℕ
  durationSeconds : ℕ
  revocable : Bool
  earlyWithdrawalAllowed : Bool
  earlyPenaltyBps : ℕ

/-- The optional parameters of `modify_schedule`. -/
structure Changes where
  newBeneficiary : Option Address
  newStartTime : Option ℕ
  newCliffDurationSeconds : Option ℕ
  newDurationSeconds : Option ℕ
  newEarlyWithdrawalAllowed : Option Bool
  newEarlyPenaltyBps : Option ℕ

inductive Event where
  | vestInit (admin : Address)
  | vestNew (scheduleId : ℕ) (funder beneficiary : Address) (totalAmount : ℤ)
  | vestBat (funder token : Address) (count : ℕ) (totalAmount : ℤ)
  | vestClm (scheduleId : ℕ) (beneficiary : Address) (claimable : ℤ)
  | vestBcl (beneficiary : Address) (totalPaid : ℤ)
  | vestEar (scheduleId : ℕ) (beneficiary : Address) (totalPaid penaltyAmount : ℤ)
      (funder : Address)
  | vestMod (scheduleId : ℕ) (admin : Address)
  | vestAdd (scheduleId : ℕ) (funder : Address) (additionalAmount : ℤ)
  | vestRev (scheduleId : ℕ) (admin : Address) (refundAmount : ℤ)

/-- Contract storage and events together with the token state. -/
structure State (τ : Type) where
  admin : Option Address
  scheduleCounter : ℕ
  schedule : Store ℕ VestingSchedule
  beneficiarySchedules : Store Address (List ℕ)
  reentrancyLock : Bool
  events : List Event
  tokens : τ

variable {τ : Type}

/-- Empty storage, with the default of every getter that has one. -/
def deployed (tokens : τ) : State τ where
  admin := none
  scheduleCounter := 0
  schedule := .empty
  beneficiarySchedules := .empty
  reentrancyLock := false
  events := []
  tokens := tokens

def publish (s : State τ) (event : Event) : State τ := { s with events := s.events ++ [event] }

def assertAdmin (s : State τ) (caller : Address) : Result Unit := do
  let admin ← expect s.admin "Contract not initialized"
  panicIf (caller ≠ admin) "Unauthorized: caller is not admin"

def validateAmount (amount : ℤ) : Result Unit := panicIf (amount ≤ 0) "Amount must be positive"

def validatePenalty (penaltyBps : ℕ) : Result Unit :=
  panicIf (penaltyBps > maxPenaltyBps) "Penalty exceeds 100%"

def validateTiming (startTime cliffDurationSeconds durationSeconds : ℕ) : Result Unit := do
  panicIf (durationSeconds = 0) "Duration must be positive"
  panicIf (cliffDurationSeconds > durationSeconds) "Cliff cannot exceed duration"
  let _ ← U64.checked (startTime + cliffDurationSeconds) "Cliff timestamp overflow"
  let _ ← U64.checked (startTime + durationSeconds) "End timestamp overflow"
  .ok ()

def vestedFor (schedule : VestingSchedule) (timestamp : ℕ) : Result ℤ :=
  if timestamp < schedule.cliffTime ∨ timestamp ≤ schedule.startTime then .ok 0
  else if timestamp ≥ schedule.endTime then .ok schedule.totalAmount
  else do
    let elapsed ←
      U64.checkedSub timestamp schedule.startTime "Timestamp before schedule start"
    let duration ← U64.checkedSub schedule.endTime schedule.startTime "Schedule end before start"
    if duration = 0 then .ok schedule.totalAmount else do
      let scaled ← I128.checked (schedule.totalAmount * elapsed) "Vesting multiplication overflow"
      I128.div scaled duration

def claimableFromVested (schedule : VestingSchedule) (vested : ℤ) : Result ℤ :=
  if vested ≤ schedule.claimedAmount then .ok 0
  else I128.checked (vested - schedule.claimedAmount) "Claimable underflow"

def calculatePenalty (unvested : ℤ) (penaltyBps : ℕ) : Result ℤ :=
  if unvested ≤ 0 ∨ penaltyBps = 0 then .ok 0 else do
    let scaled ← I128.checked (unvested * penaltyBps) "Penalty multiplication overflow"
    I128.div scaled bpsDenominator

def nextScheduleId (s : State τ) : Result (ℕ × State τ) := do
  let next ← U64.checked (s.scheduleCounter + 1) "Schedule ID overflow"
  .ok (next, { s with scheduleCounter := next })

def loadSchedule (s : State τ) (scheduleId : ℕ) : Result VestingSchedule := do
  panicIf (scheduleId = 0) "Invalid schedule ID"
  expect (s.schedule.get? scheduleId) "Schedule not found"

def setSchedule (s : State τ) (scheduleId : ℕ) (schedule : VestingSchedule) : State τ :=
  { s with schedule := s.schedule.set scheduleId schedule }

def beneficiaryScheduleIds (s : State τ) (beneficiary : Address) : List ℕ :=
  (s.beneficiarySchedules.get? beneficiary).getD []

def addBeneficiarySchedule (s : State τ) (beneficiary : Address) (scheduleId : ℕ) : State τ :=
  { s with
    beneficiarySchedules := s.beneficiarySchedules.set beneficiary
      (beneficiaryScheduleIds s beneficiary ++ [scheduleId]) }

/-- The loop removes the first occurrence and stops. -/
def removeBeneficiarySchedule (s : State τ) (beneficiary : Address) (scheduleId : ℕ) : State τ :=
  { s with
    beneficiarySchedules := s.beneficiarySchedules.set beneficiary
      ((beneficiaryScheduleIds s beneficiary).erase scheduleId) }

def storeSchedule (env : Env) (scheduleId : ℕ) (funder token beneficiary : Address)
    (totalAmount : ℤ) (terms : Terms) (s : State τ) : Result (State τ) := do
  let cliffTime ←
    U64.checked (terms.startTime + terms.cliffDurationSeconds) "Cliff timestamp overflow"
  let endTime ← U64.checked (terms.startTime + terms.durationSeconds) "End timestamp overflow"
  let schedule : VestingSchedule :=
    { scheduleId, token, funder, beneficiary, totalAmount, cliffTime, endTime
      claimedAmount := 0, startTime := terms.startTime, revocable := terms.revocable
      earlyWithdrawalAllowed := terms.earlyWithdrawalAllowed
      earlyPenaltyBps := terms.earlyPenaltyBps, active := true, createdAt := env.timestamp
      updatedAt := env.timestamp, lastClaimedAt := 0 }
  let s := addBeneficiarySchedule (setSchedule s scheduleId schedule) beneficiary scheduleId
  .ok (publish s (.vestNew scheduleId funder beneficiary totalAmount))

variable (tok : Token τ) (self : Address)

def transferTokenUnchecked (s : State τ) (token source target : Address) (amount : ℤ) :
    Result (State τ) := do
  panicIf (amount ≤ 0) "Transfer amount must be positive"
  let tokens ← tok.pay s.tokens token source target amount
  .ok { s with tokens }

def enterNonReentrant (s : State τ) : Result (State τ) := do
  panicIf (s.reentrancyLock = true) "Reentrant call blocked"
  .ok { s with reentrancyLock := true }

def exitNonReentrant (s : State τ) : State τ := { s with reentrancyLock := false }

def transferToken (s : State τ) (token source target : Address) (amount : ℤ) :
    Result (State τ) := do
  let s ← enterNonReentrant s
  let s ← transferTokenUnchecked tok s token source target amount
  .ok (exitNonReentrant s)

/-- `if amount > 0 { .. }`, outside and inside of a held lock. -/
def transferIfPositive (pay : State τ → Address → Address → Address → ℤ → Result (State τ))
    (s : State τ) (token source target : Address) (amount : ℤ) : Result (State τ) :=
  if amount > 0 then pay s token source target amount else .ok s

def claimOne (env : Env) (scheduleId : ℕ) (beneficiary : Address) (requirePositive : Bool)
    (s : State τ) : Result (ℤ × State τ) := do
  let schedule ← loadSchedule s scheduleId
  panicIf (schedule.beneficiary ≠ beneficiary) "Only beneficiary can claim"
  if schedule.active = false then
    if requirePositive = true then .error (.panic "Schedule is not active") else .ok (0, s)
  else do
    let vested ← vestedFor schedule env.timestamp
    let claimable ← claimableFromVested schedule vested
    if claimable ≤ 0 then
      if requirePositive = true then .error (.panic "No vested tokens available") else .ok (0, s)
    else do
      let claimedAmount ← I128.checked (schedule.claimedAmount + claimable) "Claim overflow"
      let schedule := { schedule with
        claimedAmount, lastClaimedAt := env.timestamp, updatedAt := env.timestamp
        active := if claimedAmount ≥ schedule.totalAmount then false else schedule.active }
      let s := setSchedule s scheduleId schedule
      let s ← transferToken tok s schedule.token self beneficiary claimable
      .ok (claimable, publish s (.vestClm scheduleId beneficiary claimable))

def initializeContract (env : Env) (admin : Address) (s : State τ) : Result (State τ) := do
  panicIf (s.admin.isSome = true) "Already initialized"
  requireAuth env admin
  .ok (publish { s with admin := some admin, scheduleCounter := 0, reentrancyLock := false }
    (.vestInit admin))

def createSchedule (env : Env) (funder token beneficiary : Address) (totalAmount : ℤ)
    (terms : Terms) (s : State τ) : Result (ℕ × State τ) := do
  requireAuth env funder
  validateAmount totalAmount
  validateTiming terms.startTime terms.cliffDurationSeconds terms.durationSeconds
  validatePenalty terms.earlyPenaltyBps
  let s ← transferToken tok s token funder self totalAmount
  let (scheduleId, s) ← nextScheduleId s
  let s ← storeSchedule env scheduleId funder token beneficiary totalAmount terms s
  .ok (scheduleId, s)

/-- The first loop of `create_schedules_batch`. -/
def batchTotal : List ℤ → ℤ → Result ℤ
  | [], totalAmount => .ok totalAmount
  | amount :: rest, totalAmount => do
    validateAmount amount
    let totalAmount ← I128.checked (totalAmount + amount) "Batch total overflow"
    batchTotal rest totalAmount

/-- The second loop of `create_schedules_batch`. -/
def storeEach (env : Env) (funder token : Address) (terms : Terms) :
    List (Address × ℤ) → List ℕ → State τ → Result (List ℕ × State τ)
  | [], scheduleIds, s => .ok (scheduleIds, s)
  | (beneficiary, amount) :: rest, scheduleIds, s => do
    let (scheduleId, s) ← nextScheduleId s
    let s ← storeSchedule env scheduleId funder token beneficiary amount terms s
    storeEach env funder token terms rest (scheduleIds ++ [scheduleId]) s

def createSchedulesBatch (env : Env) (funder token : Address) (beneficiaries : List Address)
    (amounts : List ℤ) (terms : Terms) (s : State τ) : Result (List ℕ × State τ) := do
  requireAuth env funder
  panicIf (beneficiaries.length = 0) "Batch must contain at least one schedule"
  panicIf (beneficiaries.length > maxBatchSize) "Batch exceeds maximum size"
  panicIf (beneficiaries.length ≠ amounts.length) "Beneficiary and amount lengths differ"
  validateTiming terms.startTime terms.cliffDurationSeconds terms.durationSeconds
  validatePenalty terms.earlyPenaltyBps
  let totalAmount ← batchTotal amounts 0
  let s ← transferToken tok s token funder self totalAmount
  let (scheduleIds, s) ← storeEach env funder token terms (beneficiaries.zip amounts) [] s
  .ok (scheduleIds, publish s (.vestBat funder token beneficiaries.length totalAmount))

def claim (env : Env) (scheduleId : ℕ) (beneficiary : Address) (s : State τ) :
    Result (ℤ × State τ) := do
  requireAuth env beneficiary
  let (paid, s) ← claimOne tok self env scheduleId beneficiary true s
  panicIf (paid ≤ 0) "No vested tokens available"
  .ok (paid, s)

/-- The loop of `claim_batch`. -/
def claimEach (env : Env) (beneficiary : Address) :
    List ℕ → ℤ → State τ → Result (ℤ × State τ)
  | [], totalPaid, s => .ok (totalPaid, s)
  | scheduleId :: rest, totalPaid, s => do
    let (paid, s) ← claimOne tok self env scheduleId beneficiary false s
    let totalPaid ← I128.checked (totalPaid + paid) "Claim total overflow"
    claimEach env beneficiary rest totalPaid s

def claimBatch (env : Env) (scheduleIds : List ℕ) (beneficiary : Address) (s : State τ) :
    Result (ℤ × State τ) := do
  requireAuth env beneficiary
  panicIf (scheduleIds.isEmpty = true) "No schedules provided"
  panicIf (scheduleIds.length > maxBatchSize) "Batch exceeds maximum size"
  let (totalPaid, s) ← claimEach tok self env beneficiary scheduleIds 0 s
  panicIf (totalPaid ≤ 0) "No vested tokens available"
  .ok (totalPaid, publish s (.vestBcl beneficiary totalPaid))

def earlyWithdraw (env : Env) (scheduleId : ℕ) (beneficiary : Address) (s : State τ) :
    Result (EarlyWithdrawalResult × State τ) := do
  requireAuth env beneficiary
  let schedule ← loadSchedule s scheduleId
  panicIf (schedule.beneficiary ≠ beneficiary) "Only beneficiary can withdraw"
  panicIf (schedule.active = false) "Schedule is not active"
  panicIf (schedule.earlyWithdrawalAllowed = false) "Early withdrawal disabled"
  let vested ← vestedFor schedule env.timestamp
  let claimable ← claimableFromVested schedule vested
  let unvested ← I128.checked (schedule.totalAmount - vested) "Unvested underflow"
  let penaltyAmount ← calculatePenalty unvested schedule.earlyPenaltyBps
  let unvestedPaid ← I128.checked (unvested - penaltyAmount) "Penalty exceeds unvested amount"
  let totalPaid ← I128.checked (claimable + unvestedPaid) "Early withdrawal payout overflow"
  panicIf (totalPaid ≤ 0 ∧ penaltyAmount ≤ 0) "No tokens available for early withdrawal"
  let schedule := { schedule with
    claimedAmount := schedule.totalAmount, active := false, updatedAt := env.timestamp
    lastClaimedAt := env.timestamp }
  let s := setSchedule s scheduleId schedule
  let s ← enterNonReentrant s
  let s ← transferIfPositive (transferTokenUnchecked tok) s schedule.token self beneficiary totalPaid
  let s ← transferIfPositive (transferTokenUnchecked tok) s schedule.token self schedule.funder
    penaltyAmount
  let s := exitNonReentrant s
  .ok (⟨scheduleId, claimable, unvestedPaid, penaltyAmount, totalPaid⟩,
    publish s (.vestEar scheduleId beneficiary totalPaid penaltyAmount schedule.funder))

/-- `if let Some(beneficiary) = new_beneficiary { .. }`, the index only. -/
def moveBeneficiarySchedule (s : State τ) (schedule : VestingSchedule) (scheduleId : ℕ)
    (newBeneficiary : Option Address) : State τ :=
  match newBeneficiary with
  | none => s
  | some beneficiary =>
    addBeneficiarySchedule (removeBeneficiarySchedule s schedule.beneficiary scheduleId)
      beneficiary scheduleId

/-- `if let Some(penalty_bps) = new_early_penalty_bps { .. }`. -/
def penaltyAfter (schedule : VestingSchedule) (newEarlyPenaltyBps : Option ℕ) : Result ℕ :=
  match newEarlyPenaltyBps with
  | none => .ok schedule.earlyPenaltyBps
  | some penaltyBps => do
    validatePenalty penaltyBps
    .ok penaltyBps

def modifySchedule (env : Env) (admin : Address) (scheduleId : ℕ) (changes : Changes)
    (s : State τ) : Result (VestingSchedule × State τ) := do
  requireAuth env admin
  assertAdmin s admin
  let schedule ← loadSchedule s scheduleId
  panicIf (schedule.active = false) "Cannot modify inactive schedule"
  let s := moveBeneficiarySchedule s schedule scheduleId changes.newBeneficiary
  let currentCliffDuration ←
    U64.checkedSub schedule.cliffTime schedule.startTime "Stored cliff before start"
  let currentDuration ←
    U64.checkedSub schedule.endTime schedule.startTime "Stored end before start"
  let startTime := changes.newStartTime.getD schedule.startTime
  let cliffDuration := changes.newCliffDurationSeconds.getD currentCliffDuration
  let duration := changes.newDurationSeconds.getD currentDuration
  validateTiming startTime cliffDuration duration
  let cliffTime ← U64.checked (startTime + cliffDuration) "Cliff timestamp overflow"
  let endTime ← U64.checked (startTime + duration) "End timestamp overflow"
  let earlyPenaltyBps ← penaltyAfter schedule changes.newEarlyPenaltyBps
  let schedule := { schedule with
    beneficiary := changes.newBeneficiary.getD schedule.beneficiary, startTime, cliffTime, endTime
    earlyWithdrawalAllowed :=
      changes.newEarlyWithdrawalAllowed.getD schedule.earlyWithdrawalAllowed
    earlyPenaltyBps }
  let vestedAfter ← vestedFor schedule env.timestamp
  panicIf (vestedAfter < schedule.claimedAmount) "Modification would invalidate claimed tokens"
  let schedule := { schedule with updatedAt := env.timestamp }
  .ok (schedule, publish (setSchedule s scheduleId schedule) (.vestMod scheduleId admin))

def increaseScheduleAmount (env : Env) (funder : Address) (scheduleId : ℕ)
    (additionalAmount : ℤ) (s : State τ) : Result (VestingSchedule × State τ) := do
  requireAuth env funder
  validateAmount additionalAmount
  let schedule ← loadSchedule s scheduleId
  panicIf (schedule.funder ≠ funder) "Only original funder can increase schedule"
  panicIf (schedule.active = false) "Cannot fund inactive schedule"
  let totalAmount ←
    I128.checked (schedule.totalAmount + additionalAmount) "Schedule amount overflow"
  let schedule := { schedule with totalAmount, updatedAt := env.timestamp }
  let s ← transferToken tok s schedule.token funder self additionalAmount
  let s := setSchedule s scheduleId schedule
  .ok (schedule, publish s (.vestAdd scheduleId funder additionalAmount))

def revokeSchedule (env : Env) (admin : Address) (scheduleId : ℕ) (s : State τ) :
    Result (ℤ × State τ) := do
  requireAuth env admin
  assertAdmin s admin
  let schedule ← loadSchedule s scheduleId
  panicIf (schedule.active = false) "Schedule is not active"
  panicIf (schedule.revocable = false) "Schedule is not revocable"
  let vested ← vestedFor schedule env.timestamp
  let refundAmount ← I128.checked (schedule.totalAmount - vested) "Refund underflow"
  let schedule := { schedule with
    totalAmount := vested
    endTime := if vested > schedule.claimedAmount then env.timestamp else schedule.endTime
    active := decide (schedule.claimedAmount < vested), updatedAt := env.timestamp }
  let s := setSchedule s scheduleId schedule
  let s ← transferIfPositive (transferToken tok) s schedule.token self schedule.funder refundAmount
  .ok (refundAmount, publish s (.vestRev scheduleId admin refundAmount))

inductive Op where
  | initializeContract (admin : Address)
  | createSchedule (funder token beneficiary : Address) (totalAmount : ℤ) (terms : Terms)
  | createSchedulesBatch (funder token : Address) (beneficiaries : List Address)
      (amounts : List ℤ) (terms : Terms)
  | claim (scheduleId : ℕ) (beneficiary : Address)
  | claimBatch (scheduleIds : List ℕ) (beneficiary : Address)
  | earlyWithdraw (scheduleId : ℕ) (beneficiary : Address)
  | modifySchedule (admin : Address) (scheduleId : ℕ) (changes : Changes)
  | increaseScheduleAmount (funder : Address) (scheduleId : ℕ) (additionalAmount : ℤ)
  | revokeSchedule (admin : Address) (scheduleId : ℕ)

def invoke (env : Env) (op : Op) (s : State τ) : Result (State τ) :=
  match op with
  | .initializeContract admin => initializeContract env admin s
  | .createSchedule funder token beneficiary totalAmount terms =>
    (createSchedule tok self env funder token beneficiary totalAmount terms s).map (·.2)
  | .createSchedulesBatch funder token beneficiaries amounts terms =>
    (createSchedulesBatch tok self env funder token beneficiaries amounts terms s).map (·.2)
  | .claim scheduleId beneficiary => (claim tok self env scheduleId beneficiary s).map (·.2)
  | .claimBatch scheduleIds beneficiary =>
    (claimBatch tok self env scheduleIds beneficiary s).map (·.2)
  | .earlyWithdraw scheduleId beneficiary =>
    (earlyWithdraw tok self env scheduleId beneficiary s).map (·.2)
  | .modifySchedule admin scheduleId changes =>
    (modifySchedule env admin scheduleId changes s).map (·.2)
  | .increaseScheduleAmount funder scheduleId additionalAmount =>
    (increaseScheduleAmount tok self env funder scheduleId additionalAmount s).map (·.2)
  | .revokeSchedule admin scheduleId => (revokeSchedule tok self env admin scheduleId s).map (·.2)

/-- An invocation, or transfers of tokens in which the contract has no part. -/
inductive Action (τ : Type) where
  | call (env : Env) (op : Op)
  | transfers (tokens : τ)

/-- The ledger time of an invocation. -/
def Action.time : Action τ → Option ℕ
  | .call env _ => some env.timestamp
  | .transfers _ => none

def next (a : Action τ) (s : State τ) : Result (State τ) :=
  match a with
  | .call env op => invoke tok self env op s
  | .transfers tokens => .ok { s with tokens }

end TokenVesting
