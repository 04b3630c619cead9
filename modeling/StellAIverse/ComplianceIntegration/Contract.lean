import StellAIverse.Soroban.Store
import StellAIverse.Soroban.Token

/-!
# The compliance contract

Reports, and the KYC state machine with its operators and its governance. The roles are
read from storage: no call on a KYC record asks for a signature. Storage and every entry
point, in the order of the source; events are left out.
-/

namespace ComplianceIntegration

open Soroban

inductive Error where
  | unauthorized | invalidDID | reportNotFound | invalidCredential | credentialExpired
  | credentialRevoked | complianceCheckFailed | invalidRiskLevel | duplicateReport
  | rateLimitExceeded | auditRequired | kycSubjectNotFound | kycInvalidTransition
  | kycTerminalState | kycRequestExpired | kycOperatorRequired | kycSelfAssignment
  | kycNotVerified | kycOverrideNotScheduled | kycOverrideNotReady | kycOverrideAlreadyScheduled

def Error.code : Error → ℕ
  | unauthorized => 1
  | invalidDID => 2
  | reportNotFound => 3
  | invalidCredential => 4
  | credentialExpired => 5
  | credentialRevoked => 6
  | complianceCheckFailed => 7
  | invalidRiskLevel => 8
  | duplicateReport => 9
  | rateLimitExceeded => 10
  | auditRequired => 11
  | kycSubjectNotFound => 12
  | kycInvalidTransition => 13
  | kycTerminalState => 14
  | kycRequestExpired => 15
  | kycOperatorRequired => 16
  | kycSelfAssignment => 17
  | kycNotVerified => 18
  | kycOverrideNotScheduled => 19
  | kycOverrideNotReady => 20
  | kycOverrideAlreadyScheduled => 21

instance : Coe Error Fault := ⟨fun e => .contract e.code⟩

inductive ComplianceType where
  | kyc | aml | sanctions | taxCompliance | dataPrivacy | financialRegulation
  deriving DecidableEq, Repr

inductive ComplianceStatus where
  | compliant | nonCompliant | pending | underReview | exempt
  deriving DecidableEq, Repr

inductive RiskLevel where
  | low | medium | high | critical
  deriving DecidableEq, Repr

structure ComplianceFinding where
  category : String
  severity : String
  description : String
  recommendation : Option String

structure ComplianceReport where
  reportId : ℕ
  entityDid : String
  complianceType : ComplianceType
  status : ComplianceStatus
  score : ℕ
  riskLevel : RiskLevel
  findings : List ComplianceFinding
  issuedBy : Address
  issuedAt : ℕ
  expiresAt : ℕ

inductive KycStatus where
  | pending | inReview | verified | rejected
  deriving DecidableEq, Repr

structure KycRecord where
  subject : Address
  subjectDid : String
  status : KycStatus
  updatedBy : Address
  updatedAt : ℕ
  createdAt : ℕ
  finalizedAt : Option ℕ
  expiresAt : Option ℕ

structure KycOverrideRequest where
  subject : Address
  requestedBy : Address
  executeAfter : ℕ
  createdAt : ℕ

/-- Seven days. -/
def kycPendingExpirySecs : ℕ := 86400 * 7

/-- Two days. -/
def kycOverrideTimelockSecs : ℕ := 86400 * 2

/-- What follows `KYC_RECORDS` in a key: a string, or an address. -/
inductive RecordKey where
  | did (subjectDid : String)
  | subject (subject : Address)
  deriving DecidableEq

structure State where
  admin : Option Address
  governanceRole : List Address
  kycOperatorRole : List Address
  kycRecord : Store RecordKey KycRecord
  kycOverride : Store Address KycOverrideRequest
  report : Store ℕ ComplianceReport
  nextReportId : Option ℕ

/-- The contract with the roles it was set up with. -/
def deployed (admin : Option Address) (governanceRole kycOperatorRole : List Address) : State where
  admin := admin
  governanceRole := governanceRole
  kycOperatorRole := kycOperatorRole
  kycRecord := .empty
  kycOverride := .empty
  report := .empty
  nextReportId := none

inductive ContractError where
  | unauthorized | roleEscalationAttempt | roleConflict

/-- `x.map_err(|_| e)?`. -/
def mapErr {α : Type} (x : Except ContractError α) (e : Error) : Result α :=
  match x with
  | .ok a => .ok a
  | .error _ => .error e

def requireAdmin (s : State) (caller : Address) : Except ContractError Unit :=
  match s.admin with
  | none => .error .unauthorized
  | some admin => if caller ≠ admin then .error .roleEscalationAttempt else .ok ()

def requireGovernanceRole (s : State) (caller : Address) : Except ContractError Unit :=
  if caller ∈ s.governanceRole then
    if caller ∈ s.kycOperatorRole then .error .roleConflict else .ok ()
  else .error .roleEscalationAttempt

def requireKycOperatorRole (s : State) (caller : Address) : Except ContractError Unit :=
  if caller ∈ s.kycOperatorRole then
    if caller ∈ s.governanceRole then .error .roleConflict else .ok ()
  else .error .roleEscalationAttempt

def removeFromGovernance (s : State) (address : Address) : State :=
  { s with governanceRole := s.governanceRole.erase address }

def removeFromKycOperators (s : State) (address : Address) : State :=
  { s with kycOperatorRole := s.kycOperatorRole.erase address }

def assignKycOperatorRole (s : State) (admin newOperator : Address) :
    Except ContractError State := do
  requireAdmin s admin
  let s := removeFromGovernance s newOperator
  if newOperator ∈ s.kycOperatorRole then .ok s
  else .ok { s with kycOperatorRole := s.kycOperatorRole ++ [newOperator] }

def removeKycOperatorRole (s : State) (admin operator : Address) : Except ContractError State := do
  requireAdmin s admin
  .ok (removeFromKycOperators s operator)

def getKycRecord (s : State) (subject : Address) : Result KycRecord :=
  okOr (s.kycRecord.get? (.subject subject)) Error.kycSubjectNotFound

def putKycRecord (s : State) (subject : Address) (record : KycRecord) : State :=
  { s with kycRecord := s.kycRecord.set (.subject subject) record }

def isTerminalKycStatus (status : KycStatus) : Bool :=
  status = .verified ∨ status = .rejected

def isValidKycTransition (old new : KycStatus) : Bool :=
  (old, new) = (.pending, .inReview) ∨ (old, new) = (.inReview, .verified) ∨
    (old, new) = (.inReview, .rejected)

def kycIsVerified (s : State) (subject : Address) : Bool :=
  match s.kycRecord.get? (.subject subject) with
  | some record => record.status = .verified
  | none => false

def requireVerifiedKyc (s : State) (subject : Address) : Result Unit :=
  failIf (kycIsVerified s subject = false) Error.kycNotVerified

def getNextReportId (s : State) : ℕ := s.nextReportId.getD 1

def verifyAdmin (s : State) (caller : Address) : Result Unit := do
  let admin ← okOr s.admin Error.unauthorized
  failIf (caller ≠ admin) Error.unauthorized

def generateComplianceReport (env : Env) (entityDid : String) (complianceType : ComplianceType)
    (status : ComplianceStatus) (score : ℕ) (riskLevel : RiskLevel)
    (findings : List ComplianceFinding) (issuer : Address) (validityDays : ℕ) (s : State) :
    Result (ℕ × State) := do
  requireAuth env issuer
  requireVerifiedKyc s issuer
  let reportId := getNextReportId s
  let now := env.timestamp
  let validity ← U64.mul validityDays 86400
  let expiresAt ← U64.add now validity
  let report : ComplianceReport := {
    reportId, entityDid, complianceType, status, score, riskLevel, findings
    issuedBy := issuer, issuedAt := now, expiresAt }
  let next ← U64.add reportId 1
  .ok (reportId, { s with report := s.report.set reportId report, nextReportId := some next })

/-- The credentials themselves are not looked at. -/
def verifyCredsCompliance (env : Env) (caller : Address) (s : State) : Result Bool := do
  requireAuth env caller
  requireVerifiedKyc s caller
  .ok true

/-- A number is used up; nothing is recorded under it. -/
def createRiskAssessment (env : Env) (assessor : Address) (s : State) : Result (ℕ × State) := do
  requireAuth env assessor
  requireVerifiedKyc s assessor
  let assessmentId := getNextReportId s
  let next ← U64.add assessmentId 1
  .ok (assessmentId, { s with nextReportId := some next })

/-- The record is looked up by the DID, and stored under the subject. -/
def kycInit (env : Env) (operator subject : Address) (subjectDid : String) (s : State) :
    Result State := do
  mapErr (requireKycOperatorRole s operator) .unauthorized
  failIf (operator = subject) Error.kycSelfAssignment
  failIf ((s.kycRecord.get? (.did subjectDid)).isSome = true) Error.duplicateReport
  let now := env.timestamp
  let expiresAt ← U64.add now kycPendingExpirySecs
  .ok (putKycRecord s subject {
    subject, subjectDid, status := .pending, updatedBy := operator, updatedAt := now
    createdAt := now, finalizedAt := none, expiresAt := some expiresAt })

def kycTransition (env : Env) (operator subject : Address) (newStatus : KycStatus) (s : State) :
    Result State := do
  mapErr (requireKycOperatorRole s operator) .kycOperatorRequired
  failIf (operator = subject) Error.kycSelfAssignment
  mapErr (requireKycOperatorRole s operator) .unauthorized
  failIf (operator = subject) Error.kycSelfAssignment
  let record ← getKycRecord s subject
  let now := env.timestamp
  failIf (record.status = .pending ∧ ∃ expiresAt ∈ record.expiresAt, now ≥ expiresAt)
    Error.kycRequestExpired
  failIf (isTerminalKycStatus record.status = true) Error.kycTerminalState
  failIf (isValidKycTransition record.status newStatus = false) Error.kycInvalidTransition
  .ok (putKycRecord s subject { record with
    status := newStatus, updatedBy := operator, updatedAt := now, expiresAt := none
    finalizedAt := if isTerminalKycStatus newStatus = true then some now else none })

def kycScheduleOverride (env : Env) (governance subject : Address) (s : State) :
    Result (ℕ × State) := do
  mapErr (requireGovernanceRole s governance) .unauthorized
  let record ← getKycRecord s subject
  failIf (isTerminalKycStatus record.status = false) Error.kycInvalidTransition
  failIf ((s.kycOverride.get? subject).isSome = true) Error.kycOverrideAlreadyScheduled
  let now := env.timestamp
  let executeAfter ← U64.add now kycOverrideTimelockSecs
  let request : KycOverrideRequest := {
    subject, requestedBy := governance, executeAfter, createdAt := now }
  .ok (executeAfter, { s with kycOverride := s.kycOverride.set subject request })

def kycExecuteOverride (env : Env) (governance subject : Address) (s : State) : Result State := do
  mapErr (requireGovernanceRole s governance) .unauthorized
  let request ← okOr (s.kycOverride.get? subject) Error.kycOverrideNotScheduled
  let now := env.timestamp
  failIf (now < request.executeAfter) Error.kycOverrideNotReady
  let record ← getKycRecord s subject
  failIf (isTerminalKycStatus record.status = false) Error.kycInvalidTransition
  let expiresAt ← U64.add now kycPendingExpirySecs
  let s := putKycRecord s subject { record with
    status := .pending, updatedBy := governance, updatedAt := now, createdAt := now
    finalizedAt := none, expiresAt := some expiresAt }
  .ok { s with kycOverride := s.kycOverride.remove subject }

def kycSetOperator (admin operator : Address) (isOperator : Bool) (s : State) : Result State := do
  verifyAdmin s admin
  if isOperator = true then mapErr (assignKycOperatorRole s admin operator) .unauthorized
  else mapErr (removeKycOperatorRole s admin operator) .unauthorized

inductive Op where
  | generateComplianceReport (entityDid : String) (complianceType : ComplianceType)
    (status : ComplianceStatus) (score : ℕ) (riskLevel : RiskLevel)
    (findings : List ComplianceFinding) (issuer : Address) (validityDays : ℕ)
  | verifyCredsCompliance (caller : Address)
  | createRiskAssessment (assessor : Address)
  | kycInit (operator subject : Address) (subjectDid : String)
  | kycTransition (operator subject : Address) (newStatus : KycStatus)
  | kycScheduleOverride (governance subject : Address)
  | kycExecuteOverride (governance subject : Address)
  | kycSetOperator (admin operator : Address) (isOperator : Bool)

structure Action where
  env : Env
  op : Op

/-- The state an invocation leaves behind. -/
def next (a : Action) (s : State) : Result State :=
  match a.op with
  | .generateComplianceReport did kind status score risk findings issuer days =>
    (generateComplianceReport a.env did kind status score risk findings issuer days s).map (·.2)
  | .verifyCredsCompliance caller => (verifyCredsCompliance a.env caller s).map fun _ => s
  | .createRiskAssessment assessor => (createRiskAssessment a.env assessor s).map (·.2)
  | .kycInit operator subject did => kycInit a.env operator subject did s
  | .kycTransition operator subject status => kycTransition a.env operator subject status s
  | .kycScheduleOverride governance subject =>
    (kycScheduleOverride a.env governance subject s).map (·.2)
  | .kycExecuteOverride governance subject => kycExecuteOverride a.env governance subject s
  | .kycSetOperator admin operator isOperator => kycSetOperator admin operator isOperator s

end ComplianceIntegration
