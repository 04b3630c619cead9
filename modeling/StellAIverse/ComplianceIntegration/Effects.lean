import StellAIverse.Soroban.History
import StellAIverse.ComplianceIntegration.Contract

/-!
# What a completed call does

One case for each way a call ends well, with what it found and what it wrote.
-/

namespace ComplianceIntegration

open Soroban

variable {s s' : State} {a : Action}

/-- The subject that a call initiates. -/
def Op.initiated? : Op → Option Address
  | .kycInit _ subject _ => some subject
  | _ => none

inductive Effect (s : State) : Action → State → Prop
  | reported (a : Action) (report : Store ℕ ComplianceReport) (nextReportId : Option ℕ)
      (other : a.op.initiated? = none) : Effect s a { s with report, nextReportId }
  | initiated (env : Env) (operator subject : Address) (did : String)
      (role : requireKycOperatorRole s operator = .ok ()) (other : operator ≠ subject) :
      Effect s ⟨env, .kycInit operator subject did⟩ (putKycRecord s subject {
        subject, subjectDid := did, status := .pending, updatedBy := operator
        updatedAt := env.timestamp, createdAt := env.timestamp, finalizedAt := none
        expiresAt := some (env.timestamp + kycPendingExpirySecs) })
  | moved (env : Env) (operator subject : Address) (status : KycStatus) (record : KycRecord)
      (role : requireKycOperatorRole s operator = .ok ()) (other : operator ≠ subject)
      (found : s.kycRecord.get? (.subject subject) = some record)
      (unexpired : record.status = .pending → ∀ expiresAt, record.expiresAt = some expiresAt →
        env.timestamp < expiresAt)
      (valid : isValidKycTransition record.status status = true) :
      Effect s ⟨env, .kycTransition operator subject status⟩ (putKycRecord s subject { record with
        status, updatedBy := operator, updatedAt := env.timestamp, expiresAt := none
        finalizedAt := if isTerminalKycStatus status = true then some env.timestamp else none })
  | scheduled (env : Env) (governance subject : Address) (record : KycRecord)
      (role : requireGovernanceRole s governance = .ok ())
      (found : s.kycRecord.get? (.subject subject) = some record)
      (terminal : isTerminalKycStatus record.status = true)
      (none_yet : s.kycOverride.get? subject = none) :
      Effect s ⟨env, .kycScheduleOverride governance subject⟩ { s with
        kycOverride := s.kycOverride.set subject {
          subject, requestedBy := governance
          executeAfter := env.timestamp + kycOverrideTimelockSecs, createdAt := env.timestamp } }
  | overridden (env : Env) (governance subject : Address) (record : KycRecord)
      (request : KycOverrideRequest) (role : requireGovernanceRole s governance = .ok ())
      (requested : s.kycOverride.get? subject = some request)
      (due : request.executeAfter ≤ env.timestamp)
      (found : s.kycRecord.get? (.subject subject) = some record)
      (terminal : isTerminalKycStatus record.status = true) :
      Effect s ⟨env, .kycExecuteOverride governance subject⟩ { putKycRecord s subject { record with
          status := .pending, updatedBy := governance, updatedAt := env.timestamp
          createdAt := env.timestamp, finalizedAt := none
          expiresAt := some (env.timestamp + kycPendingExpirySecs) } with
        kycOverride := s.kycOverride.remove subject }
  | appointed (env : Env) (admin operator : Address) (isOperator : Bool)
      (governanceRole kycOperatorRole : List Address) :
      Effect s ⟨env, .kycSetOperator admin operator isOperator⟩
        { s with governanceRole, kycOperatorRole }

theorem mapErr_bind {α β : Type} {x : Except ContractError α} {e : Error} {f : α → Result β}
    {r : β} : (mapErr x e >>= f) = .ok r ↔ ∃ a, x = .ok a ∧ f a = .ok r := by
  cases x <;> simp [mapErr, bind, Except.bind]

theorem mapErr_ok {α : Type} {x : Except ContractError α} {e : Error} {a : α} :
    mapErr x e = .ok a ↔ x = .ok a := by
  cases x <;> simp [mapErr]

theorem getKycRecord_bind {subject : Address} {β : Type} {f : KycRecord → Result β} {r : β} :
    (getKycRecord s subject >>= f) = .ok r ↔
      ∃ record, s.kycRecord.get? (.subject subject) = some record ∧ f record = .ok r :=
  okOr_bind

theorem kycSetOperator_effect {env : Env} {admin operator : Address} {isOperator : Bool}
    (h : kycSetOperator admin operator isOperator s = .ok s') :
    Effect s ⟨env, .kycSetOperator admin operator isOperator⟩ s' := by
  unfold kycSetOperator at h
  obtain ⟨-, -, h⟩ := bind_ok.mp h
  split at h <;> rw [mapErr_ok] at h
  · unfold assignKycOperatorRole at h
    cases hadmin : requireAdmin s admin with
    | error e =>
      rw [hadmin] at h
      cases h
    | ok u =>
      rw [hadmin] at h
      change (if _ then _ else _) = _ at h
      split at h <;> cases h <;> exact .appointed ..
  · unfold removeKycOperatorRole at h
    cases hadmin : requireAdmin s admin with
    | error e =>
      rw [hadmin] at h
      cases h
    | ok u =>
      rw [hadmin] at h
      cases h
      exact .appointed ..

theorem kycInit_effect {env : Env} {operator subject : Address} {did : String}
    (h : kycInit env operator subject did s = .ok s') :
    Effect s ⟨env, .kycInit operator subject did⟩ s' := by
  unfold kycInit at h
  simp only [mapErr_bind, failIf_bind, U64.add_bind] at h
  obtain ⟨_, hrole, hother, -, -, h⟩ := h
  cases h
  exact .initiated env operator subject did hrole hother

theorem kycTransition_effect {env : Env} {operator subject : Address} {status : KycStatus}
    (h : kycTransition env operator subject status s = .ok s') :
    Effect s ⟨env, .kycTransition operator subject status⟩ s' := by
  unfold kycTransition at h
  simp only [mapErr_bind, failIf_bind, getKycRecord_bind] at h
  obtain ⟨_, hrole, hother, _, -, -, record, hfound, hexpired, -, hvalid, h⟩ := h
  cases h
  refine .moved env operator subject status record hrole hother hfound ?_ (by simpa using hvalid)
  intro hpending expiresAt hexpires
  by_contra hlate
  exact hexpired ⟨hpending, expiresAt, hexpires, not_lt.mp hlate⟩

theorem kycScheduleOverride_effect {env : Env} {governance subject : Address} {r : ℕ × State}
    (h : kycScheduleOverride env governance subject s = .ok r) :
    Effect s ⟨env, .kycScheduleOverride governance subject⟩ r.2 := by
  unfold kycScheduleOverride at h
  simp only [mapErr_bind, failIf_bind, getKycRecord_bind, U64.add_bind] at h
  obtain ⟨_, hrole, record, hfound, hterminal, hnone, -, h⟩ := h
  cases h
  exact .scheduled env governance subject record hrole hfound (by simpa using hterminal)
    (by simpa using hnone)

theorem kycExecuteOverride_effect {env : Env} {governance subject : Address}
    (h : kycExecuteOverride env governance subject s = .ok s') :
    Effect s ⟨env, .kycExecuteOverride governance subject⟩ s' := by
  unfold kycExecuteOverride at h
  simp only [mapErr_bind, failIf_bind, okOr_bind, getKycRecord_bind, U64.add_bind, not_lt] at h
  obtain ⟨_, hrole, request, hrequested, hdue, record, hfound, hterminal, -, h⟩ := h
  cases h
  exact .overridden env governance subject record request hrole hrequested hdue hfound
    (by simpa using hterminal)

/-- Every completed call has its effect. -/
theorem next_effect (h : next a s = .ok s') : Effect s a s' := by
  obtain ⟨env, op⟩ := a
  cases op with
  | generateComplianceReport did kind status score risk findings issuer days =>
    obtain ⟨r, hr, rfl⟩ := map_ok.mp h
    unfold generateComplianceReport at hr
    simp only [requireAuth_bind] at hr
    obtain ⟨-, hr⟩ := hr
    obtain ⟨-, -, hr⟩ := bind_ok.mp hr
    simp only [U64.mul_bind, U64.add_bind] at hr
    obtain ⟨-, -, -, hr⟩ := hr
    cases hr
    exact .reported _ _ _ rfl
  | verifyCredsCompliance caller =>
    obtain ⟨_, -, rfl⟩ := map_ok.mp h
    exact .reported _ s.report s.nextReportId rfl
  | createRiskAssessment assessor =>
    obtain ⟨r, hr, rfl⟩ := map_ok.mp h
    unfold createRiskAssessment at hr
    simp only [requireAuth_bind] at hr
    obtain ⟨-, hr⟩ := hr
    obtain ⟨-, -, hr⟩ := bind_ok.mp hr
    rw [U64.add_bind] at hr
    cases hr.2
    exact .reported _ s.report _ rfl
  | kycInit operator subject did => exact kycInit_effect h
  | kycTransition operator subject status => exact kycTransition_effect h
  | kycScheduleOverride governance subject =>
    obtain ⟨r, hr, rfl⟩ := map_ok.mp h
    exact kycScheduleOverride_effect hr
  | kycExecuteOverride governance subject => exact kycExecuteOverride_effect h
  | kycSetOperator admin operator isOperator => exact kycSetOperator_effect h

end ComplianceIntegration
