import StellAIverse.ComplianceIntegration.Effects

/-!
# Terminal KYC states are final

An override is scheduled for a record in a terminal state, and only its execution opens the
record again. `kyc_init` writes a new record over one that is there, since it looks for it
under another key: the state machine is kept exactly by the runs that do not use it so.
-/

namespace ComplianceIntegration

open Soroban

variable {s s' : State} {a : Action} {log : List (State × Action)} {subject : Address}

def statusOf (s : State) (subject : Address) : Option KycStatus :=
  (s.kycRecord.get? (.subject subject)).map (·.status)

/-- An override of the subject was scheduled in this status, two days before `due` or earlier. -/
def ScheduledFor (subject : Address) (status : KycStatus) (due : ℕ) (e : State × Action) : Prop :=
  (∃ governance, e.2.op = .kycScheduleOverride governance subject) ∧
    statusOf e.1 subject = some status ∧ e.2.env.timestamp + kycOverrideTimelockSecs ≤ due

/-- An override was scheduled, and since then the subject has had this status. -/
def InPeriod (subject : Address) (status : KycStatus) (due : ℕ) : List (State × Action) → Prop :=
  Since (ScheduledFor subject status due) fun e => statusOf e.1 subject ≠ some status

/-- What a call may do to a record that is there. -/
structure LawfulChange (log : List (State × Action)) (s : State) (a : Action) (subject : Address)
    (record record' : KycRecord) : Prop where
  terminal : isTerminalKycStatus record.status = true → record'.status ≠ record.status →
    (∃ governance, a.op = .kycExecuteOverride governance subject) ∧
      InPeriod subject record.status a.env.timestamp log
  moving : isTerminalKycStatus record.status = false → record'.status ≠ record.status →
    isValidKycTransition record.status record'.status = true ∧
      ∃ operator, a.op = .kycTransition operator subject record'.status ∧ operator ≠ subject ∧
        requireKycOperatorRole s operator = .ok ()
  expired : ∀ expiresAt, record.status = .pending → record.expiresAt = some expiresAt →
    expiresAt ≤ a.env.timestamp → record'.status ≠ .inReview

/-- Records stay, and change by the law only. -/
def Lawful (log : List (State × Action)) (s : State) (a : Action) (s' : State) : Prop :=
  ∀ subject record, s.kycRecord.get? (.subject subject) = some record →
    ∃ record', s'.kycRecord.get? (.subject subject) = some record' ∧
      LawfulChange log s a subject record record'

/-- Every call of a run was lawful when it was made. -/
def LawfulRun : List (State × Action) → State → Prop
  | [], _ => True
  | (s, a) :: log, s' => Lawful log s a s' ∧ LawfulRun log s

/-- `kyc_init` finds no record of the subject, or a pending one. -/
def Action.Initiates (s : State) (a : Action) : Prop :=
  ∀ subject ∈ a.op.initiated?, ∀ record ∈ s.kycRecord.get? (.subject subject),
    record.status = .pending

instance (s : State) (a : Action) : Decidable (a.Initiates s) :=
  inferInstanceAs (Decidable (∀ subject ∈ a.op.initiated?,
    ∀ record ∈ s.kycRecord.get? (.subject subject), record.status = .pending))

/-- Overrides are for records in a terminal state that they have been in since. -/
def Overrides (log : List (State × Action)) (s : State) : Prop :=
  ∀ subject request, s.kycOverride.get? subject = some request →
    ∃ status, isTerminalKycStatus status = true ∧ statusOf s subject = some status ∧
      InPeriod subject status request.executeAfter log

theorem statusOf_some {record : KycRecord}
    (h : s.kycRecord.get? (.subject subject) = some record) :
    statusOf s subject = some record.status := by
  rw [statusOf, h]
  rfl

theorem get?_putKycRecord (subject subject' : Address) (record : KycRecord) :
    (putKycRecord s subject record).kycRecord.get? (.subject subject') =
      if subject' = subject then some record else s.kycRecord.get? (.subject subject') := by
  rw [putKycRecord, Store.get?_set]
  simp only [RecordKey.subject.injEq]

theorem statusOf_putKycRecord_ne {subject' : Address} {record : KycRecord}
    (h : subject' ≠ subject) : statusOf (putKycRecord s subject record) subject' =
      statusOf s subject' := by
  unfold statusOf
  rw [get?_putKycRecord, if_neg h]

/-- A status that a call does not change goes on. -/
theorem InPeriod.later {status : KycStatus} {due : ℕ} (h : InPeriod subject status due log)
    (hstatus : statusOf s subject = some status) (a : Action) :
    InPeriod subject status due ((s, a) :: log) :=
  Since.later h fun hother => hother hstatus

theorem InPeriod.mono {status : KycStatus} {due due' : ℕ} (h : InPeriod subject status due log)
    (hdue : due ≤ due') : InPeriod subject status due' log := by
  obtain ⟨recent, e, old, hlog, ⟨hop, hstatus, htime⟩, hsince⟩ := h
  exact ⟨recent, e, old, hlog, ⟨hop, hstatus, htime.trans hdue⟩, hsince⟩

/-- A write to a record that is not in a terminal state concerns no override. -/
theorem Overrides.put (h : Overrides log s) (a : Action) {record : KycRecord}
    (hopen : ∀ old, s.kycRecord.get? (.subject subject) = some old →
      isTerminalKycStatus old.status = false) :
    Overrides ((s, a) :: log) (putKycRecord s subject record) := by
  intro subject' request hrequest
  obtain ⟨status, hterminal, hstatus, hperiod⟩ := h subject' request hrequest
  have hne : subject' ≠ subject := by
    rintro rfl
    obtain ⟨old, hfound, rfl⟩ := Option.map_eq_some_iff.mp hstatus
    rw [hopen old hfound] at hterminal
    cases hterminal
  exact ⟨status, hterminal, (statusOf_putKycRecord_ne hne).trans hstatus, hperiod.later hstatus a⟩

theorem terminal_of_valid {old new : KycStatus} (h : isValidKycTransition old new = true) :
    isTerminalKycStatus old = false := by
  cases old <;> cases new <;> revert h <;> decide

theorem Overrides.step (h : Overrides log s) (hinit : a.Initiates s) (heffect : Effect s a s') :
    Overrides ((s, a) :: log) s' := by
  have hkeep : ∀ subject request, s.kycOverride.get? subject = some request →
      ∃ status, isTerminalKycStatus status = true ∧ statusOf s subject = some status ∧
        InPeriod subject status request.executeAfter ((s, a) :: log) := by
    intro subject request hrequest
    obtain ⟨status, hterminal, hstatus, hperiod⟩ := h subject request hrequest
    exact ⟨status, hterminal, hstatus, hperiod.later hstatus a⟩
  cases heffect with
  | reported => exact hkeep
  | appointed => exact hkeep
  | initiated env operator subject did =>
    refine h.put _ fun old hold => ?_
    rw [hinit subject rfl old hold]
    rfl
  | moved env operator subject status record role other found unexpired valid =>
    refine h.put _ fun old hold => ?_
    cases found.symm.trans hold
    exact terminal_of_valid valid
  | scheduled env governance subject record role found terminal =>
    intro subject' request hrequest
    rw [Store.get?_set] at hrequest
    split at hrequest
    · rename_i hsame
      subst hsame
      cases hrequest
      have hstatus := statusOf_some found
      exact ⟨record.status, terminal, hstatus, Since.now ⟨⟨governance, rfl⟩, hstatus, le_rfl⟩⟩
    · exact hkeep subject' request hrequest
  | overridden env governance subject record request role requested due found terminal =>
    intro subject' request' hrequest
    rw [Store.get?_remove] at hrequest
    split at hrequest
    · cases hrequest
    · rename_i hne
      obtain ⟨status, hterminal, hstatus, hperiod⟩ := hkeep subject' request' hrequest
      exact ⟨status, hterminal, (statusOf_putKycRecord_ne hne).trans hstatus, hperiod⟩

theorem LawfulChange.same (record : KycRecord) : LawfulChange log s a subject record record where
  terminal _ hchanged := absurd rfl hchanged
  moving _ hchanged := absurd rfl hchanged
  expired _ hpending _ _ := by
    rw [hpending]
    decide

/-- A call that writes no record is lawful. -/
theorem Lawful.of_same (h : s'.kycRecord = s.kycRecord) : Lawful log s a s' :=
  fun _ record hfound => ⟨record, by rw [h]; exact hfound, .same record⟩

/-- A call that writes one record is lawful if the change of this record is. -/
theorem Lawful.of_put {record' : KycRecord}
    (h : ∀ record, s.kycRecord.get? (.subject subject) = some record →
      LawfulChange log s a subject record record')
    (hs' : s'.kycRecord = (putKycRecord s subject record').kycRecord) : Lawful log s a s' := by
  intro subject' record hfound
  rw [hs', get?_putKycRecord]
  split
  · rename_i hsame
    subst hsame
    exact ⟨record', rfl, h record hfound⟩
  · exact ⟨record, hfound, .same record⟩

theorem lawful_effect (h : Overrides log s) (hinit : a.Initiates s) (heffect : Effect s a s') :
    Lawful log s a s' := by
  cases heffect with
  | reported => exact .of_same rfl
  | appointed => exact .of_same rfl
  | scheduled => exact .of_same rfl
  | initiated env operator subject did =>
    refine .of_put (fun old hold => ?_) rfl
    have hpending := hinit subject rfl old hold
    refine ⟨fun hterminal => ?_, fun _ hchanged => absurd hpending.symm hchanged,
      fun _ _ _ _ => by simp⟩
    rw [hpending] at hterminal
    cases hterminal
  | moved env operator subject status record role other found unexpired valid =>
    refine .of_put (fun old hold => ?_) rfl
    cases found.symm.trans hold
    refine ⟨fun hterminal => ?_, fun _ _ => ⟨valid, operator, rfl, other, role⟩,
      fun expiresAt hpending hexpires hlate => ?_⟩
    · rw [terminal_of_valid valid] at hterminal
      cases hterminal
    · exact absurd (unexpired hpending expiresAt hexpires) (not_lt.mpr hlate)
  | overridden env governance subject record request role requested due found terminal =>
    refine .of_put (fun old hold => ?_) rfl
    cases found.symm.trans hold
    refine ⟨fun _ _ => ⟨⟨governance, rfl⟩, ?_⟩, fun hopen => ?_, fun _ _ _ _ => by simp⟩
    · obtain ⟨status, -, hstatus, hperiod⟩ := h subject request requested
      cases (statusOf_some found).symm.trans hstatus
      exact hperiod.mono due
    · rw [terminal] at hopen
      cases hopen

/-- `kyc_init` on a record that has left `Pending` is against the law. -/
theorem initiates_of_lawful (h : Lawful log s a s') (heffect : Effect s a s') :
    a.Initiates s := by
  intro subject hop record hfound
  obtain ⟨record', hfound', hchange⟩ := h subject record hfound
  have hpending : record'.status = .pending := by
    cases heffect with
    | initiated env operator' subject' did' =>
      cases hop
      rw [get?_putKycRecord, if_pos rfl] at hfound'
      cases hfound'
      rfl
    | reported _ _ _ other =>
      rw [other] at hop
      cases hop
    | _ => cases hop
  by_contra hleft
  have hchanged : record'.status ≠ record.status := fun hsame => hleft (hsame ▸ hpending)
  cases hterminal : isTerminalKycStatus record.status with
  | true =>
    obtain ⟨⟨governance, hexecute⟩, -⟩ := hchange.terminal hterminal hchanged
    rw [hexecute] at hop
    cases hop
  | false =>
    obtain ⟨-, operator', htransition, -⟩ := hchange.moving hterminal hchanged
    rw [htransition] at hop
    cases hop

/-- Whatever the roles and the ledger times: the KYC state machine is kept exactly in the runs
that use `kyc_init` for subjects without a record, or with a pending one, only. -/
theorem kyc_final {admin : Option Address} {governanceRole kycOperatorRole : List Address}
    (h : History next (fun _ _ _ => True) (deployed admin governanceRole kycOperatorRole) log s) :
    LawfulRun log s ↔ ∀ e ∈ log, e.2.Initiates e.1 := by
  have hall : (LawfulRun log s → ∀ e ∈ log, e.2.Initiates e.1) ∧
      ((∀ e ∈ log, e.2.Initiates e.1) → LawfulRun log s ∧ Overrides log s) := by
    induction h with
    | nil =>
      refine ⟨fun _ e he => ?_, fun _ => ⟨trivial, fun _ _ hrequest => ?_⟩⟩
      · cases he
      · cases hrequest
    | cons run _ done ih =>
      have heffect := next_effect done
      constructor
      · rintro ⟨hlawful, hrest⟩ e he
        rcases List.mem_cons.mp he with rfl | he
        · exact initiates_of_lawful hlawful heffect
        · exact ih.1 hrest e he
      · intro hinit
        have hlast := hinit _ List.mem_cons_self
        obtain ⟨hrest, hoverrides⟩ := ih.2 fun e he => hinit e (List.mem_cons_of_mem _ he)
        exact ⟨⟨lawful_effect hoverrides hlast heffect, hrest⟩, hoverrides.step hlast heffect⟩
  exact ⟨hall.1, fun hinit => (hall.2 hinit).1⟩

section Runs

def governor : Address := ⟨1⟩

def clerk : Address := ⟨2⟩

def client : Address := ⟨3⟩

/-- A call at a time, signed by everybody. -/
def calledAt (timestamp : ℕ) (op : Op) : Action := ⟨⟨timestamp, fun _ => true⟩, op⟩

def start : State := deployed (some governor) [governor] [clerk]

def verified : List Action :=
  [calledAt 0 (.kycInit clerk client "did:one"), calledAt 1 (.kycTransition clerk client .inReview),
    calledAt 2 (.kycTransition clerk client .verified)]

/-- A second `kyc_init`, with the same DID, makes a verified record pending. -/
theorem verified_reopened : ∃ log s s',
    History next (fun _ _ _ => True) start log s ∧ statusOf s client = some .verified ∧
    next (calledAt 3 (.kycInit clerk client "did:one")) s = .ok s' ∧
    statusOf s' client = some .pending ∧
    ¬ Lawful log s (calledAt 3 (.kycInit clerk client "did:one")) s' := by
  have h : After (fun r => statusOf r.2 client = some .verified ∧
      ¬ (calledAt 3 (.kycInit clerk client "did:one")).Initiates r.2 ∧
      After (fun s' => statusOf s' client = some .pending)
        (next (calledAt 3 (.kycInit clerk client "did:one")) r.2))
      (record next (fun _ _ _ => True) verified ([], start)) := by
    decide +kernel
  obtain ⟨⟨log, s⟩, hrec, hverified, hinit, h⟩ := h.exists_ok
  obtain ⟨s', hs', hpending⟩ := h.exists_ok
  exact ⟨log, s, s', record_history _ (fun _ _ _ _ _ => trivial) .nil hrec, hverified, hs',
    hpending, fun hlawful => hinit (initiates_of_lawful hlawful (next_effect hs'))⟩

/-- A verified record is opened by an override, two days after that was scheduled. -/
theorem kyc_final_overridden : ∃ log s, History next (fun _ _ _ => True) start log s ∧
    LawfulRun log s ∧ statusOf s client = some .pending := by
  have h : After (fun r => (∀ e ∈ r.1, e.2.Initiates e.1) ∧ statusOf r.2 client = some .pending)
      (record next (fun _ _ _ => True) (verified ++
        [calledAt 3 (.kycScheduleOverride governor client),
          calledAt 172803 (.kycExecuteOverride governor client)]) ([], start)) := by
    decide +kernel
  obtain ⟨⟨log, s⟩, hrec, hinit, hstatus⟩ := h.exists_ok
  have hrun : History next (fun _ _ _ => True) start log s :=
    record_history _ (fun _ _ _ _ _ => trivial) .nil hrec
  exact ⟨log, s, hrun, (kyc_final hrun).mpr hinit, hstatus⟩

end Runs

end ComplianceIntegration
