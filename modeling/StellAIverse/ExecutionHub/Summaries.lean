import StellAIverse.ExecutionHub.Workflows

/-!
# What is told of a workflow

The contract of the callback is told once how a workflow ended, when it ends. The initiator's
history tells the same as long as the summary is in it, unless the workflow ended by being too
late: that is not written there.
-/

namespace ExecutionHub

open Soroban

variable {s s' : State} {a : Action} {env : Host} {wf wf' : WorkflowInstance}
  {calls : List Call} {id k : ℕ} {initiator : Address} {log : List (State × Action)}

/-- A summary is of a workflow of the initiator, and says how that ended once it has. -/
def Tells (s : State) (initiator : Address) (summary : WorkflowSummary) : Prop :=
  ∃ wf, s.workflow.get? summary.workflowId = some wf ∧ wf.initiator = initiator ∧
    if wf.status.executable = true then summary.status = .pending
    else summary.status = wf.status ∧ summary.completedAt.isSome = true

/-- The summaries of an initiator's history are of different workflows, and right. -/
structure Told (s : State) (initiator : Address) : Prop where
  distinct : ((getWorkflowHistory s initiator).map (·.workflowId)).Nodup
  tells : ∀ summary ∈ getWorkflowHistory s initiator, Tells s initiator summary

/-- Steps are called in order and once, the end is final, the callback is made at the end and
not before, and the histories are right. -/
structure LifeCycle (log : List (State × Action)) (s : State) : Prop where
  ordered : ∀ id wf, s.workflow.get? id = some wf →
    (callsOf s id).filter (·.isStep) = executed wf wf.currentStep
  final : ∀ e ∈ log, ∀ id wf, e.1.workflow.get? id = some wf → wf.status.executable = false →
    s.workflow.get? id = some wf
  callback : ∀ id wf, s.workflow.get? id = some wf → (callsOf s id).filter (·.isCallback) =
    if wf.status.executable = true then [] else wf.final
  told : ∀ initiator, Told s initiator

/-- A workflow that is too late has no summary in its initiator's history any more, and a new
one takes nobody's number. -/
def Action.EndsTold (s : State) (a : Action) : Prop :=
  match a.op with
  | .createWorkflow .. => s.workflow.get? (s.workflowCounter.getD 0 + 1) = none
  | .executeWorkflowStep workflowId => ∀ wf ∈ s.workflow.get? workflowId,
    wf.deadline < a.env.timestamp →
      ∀ summary ∈ getWorkflowHistory s wf.initiator, summary.workflowId ≠ workflowId
  | _ => True

instance decidableEndsTold (s : State) : (a : Action) → Decidable (a.EndsTold s)
  | ⟨_, .createWorkflow ..⟩ => inferInstanceAs (Decidable (_ = none))
  | ⟨env, .executeWorkflowStep workflowId⟩ =>
    inferInstanceAs (Decidable (∀ wf ∈ s.workflow.get? workflowId, wf.deadline < env.timestamp →
      ∀ summary ∈ getWorkflowHistory s wf.initiator, summary.workflowId ≠ workflowId))
  | ⟨_, .initializeHub ..⟩ | ⟨_, .registerRule ..⟩ | ⟨_, .revokeRule ..⟩
  | ⟨_, .executeAction ..⟩ | ⟨_, .cancelWorkflow ..⟩ | ⟨_, .transferAdmin ..⟩ => .isTrue trivial

theorem Action.EndsTold.numbersNew (h : a.EndsTold s) : a.NumbersNew s := by
  intro initiator args hop
  unfold Action.EndsTold at h
  rw [hop] at h
  exact h

theorem executed_isStep (wf : WorkflowInstance) (k : ℕ) :
    ∀ call ∈ executed wf k, call.isStep = true := by
  intro call hcall
  obtain ⟨position, step, rfl⟩ := mem_executed hcall
  rfl

/-- A call is of one kind. -/
theorem Call.isStep_iff (call : Call) :
    call.isStep = true ↔ call.isRollback = false ∧ call.isCallback = false := by
  cases call <;> simp [Call.isStep, Call.isRollback, Call.isCallback]

theorem Traced.steps_eq (h : Traced wf calls) :
    calls.filter (·.isStep) = executed wf wf.currentStep := by
  have hsteps := List.filter_eq_self.mpr (executed_isStep wf wf.currentStep)
  cases h with
  | going => exact hsteps
  | ended undone final rollbacks completed =>
    have hundone : undone.filter (·.isStep) = [] := List.filter_eq_nil_iff.mpr fun call hcall => by
      rw [Call.isStep_iff, rollbacks call hcall]
      exact fun hother => Bool.noConfusion hother.1
    have hfinal : wf.final.filter (·.isStep) = [] := List.filter_eq_nil_iff.mpr fun call hcall => by
      rw [Call.isStep_iff, final_callback wf call hcall]
      exact fun hother => Bool.noConfusion hother.2
    rw [List.filter_append, List.filter_append, hsteps, hundone, hfinal, List.append_nil,
      List.append_nil]

theorem Traced.callbacks_eq (h : Traced wf calls) :
    calls.filter (·.isCallback) = if wf.status.executable = true then [] else wf.final := by
  have hsteps : (executed wf wf.currentStep).filter (·.isCallback) = [] :=
    List.filter_eq_nil_iff.mpr fun call hcall => by
      rw [executed_steps wf _ call hcall]
      exact Bool.false_ne_true
  cases h with
  | going executable =>
    rw [if_pos executable]
    exact hsteps
  | ended undone final rollbacks completed =>
    have hundone : undone.filter (·.isCallback) = [] :=
      List.filter_eq_nil_iff.mpr fun call hcall => by
        rw [Call.isCallback_rollback (rollbacks call hcall)]
        exact Bool.false_ne_true
    have hfinal := List.filter_eq_self.mpr (final_callback wf)
    rw [List.filter_append, List.filter_append, hsteps, hundone, hfinal, if_neg (by simp [final]),
      List.nil_append, List.nil_append]

/-- A write to a workflow that goes on leaves the others alone. -/
theorem Wrote.final {w : WorkflowInstance} {i : ℕ} (hwrote : Wrote s wf' calls s')
    (htracked : Tracked s) (hfound : s.workflow.get? i = some w)
    (hexecutable : w.status.executable = true) (hid : wf'.workflowId = w.workflowId)
    (hended : s.workflow.get? id = some wf) (hstatus : wf.status.executable = false) :
    s'.workflow.get? id = some wf := by
  rw [hwrote.workflow, if_neg, hended]
  intro hsame
  rw [hsame, hid, htracked.numbered i w hfound, hfound] at hended
  cases hended
  rw [hexecutable] at hstatus
  cases hstatus

theorem Effect.final (heffect : Effect s a s') (htracked : Tracked s) (hnew : a.NumbersNew s)
    (hended : s.workflow.get? id = some wf) (hstatus : wf.status.executable = false) :
    s'.workflow.get? id = some wf := by
  cases heffect with
  | aside _ _ _ _ workflows =>
    rw [workflows.workflow]
    exact hended
  | initialized => exact hended
  | acted => exact hended
  | created env initiator args deadline =>
    change (s.workflow.set _ _).get? id = some wf
    refine (Store.get?_set_ne _ _ fun hsame => ?_).trans hended
    rw [hsame] at hended
    exact absurd (hended.symm.trans (hnew initiator args rfl)) (Option.some_ne_none _)
  | expired _ _ _ _ found executable _ wrote =>
    exact wrote.final htracked found executable rfl hended hstatus
  | stepped _ _ _ _ _ found executable _ wrote =>
    exact wrote.final htracked found executable rfl hended hstatus
  | completed _ _ _ _ _ found executable _ wrote =>
    exact wrote.final htracked found executable rfl hended hstatus
  | cancelled _ _ _ _ _ _ found executable wrote =>
    exact wrote.final htracked found executable rfl hended hstatus

theorem updateFirst_ids (wf : WorkflowInstance) (now : ℕ) (history : List WorkflowSummary) :
    (updateFirst wf now history).map (·.workflowId) = history.map (·.workflowId) := by
  induction history with
  | nil => rfl
  | cons summary rest ih =>
    unfold updateFirst
    split
    · rfl
    · rw [List.map_cons, ih, List.map_cons]

/-- Only the summary of the workflow is changed. -/
theorem mem_updateFirst {wf : WorkflowInstance} {now : ℕ} {history : List WorkflowSummary}
    (hdistinct : (history.map (·.workflowId)).Nodup) {summary : WorkflowSummary}
    (h : summary ∈ updateFirst wf now history) :
    (summary.workflowId ≠ wf.workflowId ∧ summary ∈ history) ∨
      (summary.workflowId = wf.workflowId ∧ summary.status = wf.status ∧
        summary.completedAt = some now) := by
  induction history with
  | nil => cases h
  | cons first rest ih =>
    rw [List.map_cons, List.nodup_cons] at hdistinct
    unfold updateFirst at h
    split at h
    · rename_i hfirst
      rcases List.mem_cons.mp h with rfl | hrest
      · exact .inr ⟨hfirst, rfl, rfl⟩
      · refine .inl ⟨fun hsame => hdistinct.1 ?_, List.mem_cons_of_mem _ hrest⟩
        rw [hfirst, ← hsame]
        exact List.mem_map_of_mem hrest
    · rename_i hfirst
      rcases List.mem_cons.mp h with rfl | hrest
      · exact .inl ⟨hfirst, List.mem_cons_self⟩
      · rcases ih hdistinct.2 hrest with ⟨hne, hmem⟩ | hchanged
        · exact .inl ⟨hne, List.mem_cons_of_mem _ hmem⟩
        · exact .inr hchanged

theorem pushSummary_sublist (history : List WorkflowSummary) (summary : WorkflowSummary) :
    ∃ old, old.Sublist history ∧ pushSummary history summary = old ++ [summary] := by
  unfold pushSummary
  split
  · exact ⟨history.drop 1, List.drop_sublist 1 history, rfl⟩
  · exact ⟨history, .refl _, rfl⟩

theorem getWorkflowHistory_kept (h : s'.workflowHistory = s.workflowHistory)
    (initiator : Address) : getWorkflowHistory s' initiator = getWorkflowHistory s initiator := by
  rw [getWorkflowHistory, h, getWorkflowHistory]

theorem getWorkflowHistory_set {history : List WorkflowSummary} {owner : Address}
    (h : s'.workflowHistory = s.workflowHistory.set owner history) (initiator : Address) :
    getWorkflowHistory s' initiator =
      if initiator = owner then history else getWorkflowHistory s initiator := by
  unfold getWorkflowHistory
  rw [h, Store.get?_set]
  split <;> rfl

/-- A summary tells what it told, of a workflow that is as it was. -/
theorem Tells.kept {summary : WorkflowSummary} (h : Tells s initiator summary)
    (hworkflow : s'.workflow.get? summary.workflowId = s.workflow.get? summary.workflowId) :
    Tells s' initiator summary := by
  obtain ⟨wf, hfound, htells⟩ := h
  exact ⟨wf, hworkflow.trans hfound, htells⟩

theorem Tells.other {summary : WorkflowSummary} (h : Tells s initiator summary)
    (hwrote : Wrote s wf' calls s') (hne : summary.workflowId ≠ wf'.workflowId) :
    Tells s' initiator summary :=
  h.kept (by rw [hwrote.workflow, if_neg hne])

theorem Told.kept (h : Told s initiator) (hworkflow : s'.workflow = s.workflow)
    (hsummaries : s'.workflowHistory = s.workflowHistory) : Told s' initiator := by
  have hhistory := getWorkflowHistory_kept hsummaries initiator
  refine ⟨hhistory ▸ h.distinct, fun summary hsummary => ?_⟩
  rw [hhistory] at hsummary
  exact (h.tells summary hsummary).kept (by rw [hworkflow])

/-- A new workflow has a number that no summary has. -/
theorem Told.fresh (h : Told s initiator) (hnew : s.workflow.get? id = none) :
    ∀ summary ∈ getWorkflowHistory s initiator, summary.workflowId ≠ id := by
  rintro summary hsummary rfl
  obtain ⟨wf, hfound, -⟩ := h.tells summary hsummary
  exact absurd (hfound.symm.trans hnew) (Option.some_ne_none _)

/-- The new workflow comes last in the history of its initiator. -/
theorem Told.create (h : ∀ initiator, Told s initiator) {summary : WorkflowSummary}
    (hnew : s.workflow.get? wf.workflowId = none)
    (hworkflow : s'.workflow = s.workflow.set wf.workflowId wf)
    (hsummaries : s'.workflowHistory = s.workflowHistory.set wf.initiator
      (pushSummary (getWorkflowHistory s wf.initiator) summary))
    (hnumber : summary.workflowId = wf.workflowId)
    (hpending : summary.status = .pending) (hexecutable : wf.status.executable = true) :
    Told s' initiator := by
  have hold : ∀ summary ∈ getWorkflowHistory s initiator, Tells s' initiator summary := by
    intro summary hsummary
    refine ((h initiator).tells summary hsummary).kept ?_
    rw [hworkflow, Store.get?_set_ne _ _ ((h initiator).fresh hnew summary hsummary)]
  have hhistory := getWorkflowHistory_set hsummaries initiator
  split at hhistory
  · rename_i howner
    subst howner
    obtain ⟨old, hsublist, hpushed⟩ := pushSummary_sublist (getWorkflowHistory s wf.initiator)
      summary
    rw [hpushed] at hhistory
    constructor
    · rw [hhistory, List.map_append, List.nodup_append]
      refine ⟨(h _).distinct.sublist (hsublist.map _), List.nodup_singleton _, ?_⟩
      intro number hmem other hother hsame
      obtain ⟨first, hfirst, rfl⟩ := List.mem_map.mp hmem
      rw [List.map_singleton, List.mem_singleton, hnumber] at hother
      exact (h _).fresh hnew first (hsublist.subset hfirst) (hsame.trans hother)
    · intro told htold
      rw [hhistory] at htold
      rcases List.mem_append.mp htold with htold | htold
      · exact hold told (hsublist.subset htold)
      · rw [List.mem_singleton.mp htold]
        refine ⟨wf, ?_, rfl, ?_⟩
        · rw [hworkflow, hnumber, Store.get?_set_self]
        · rw [if_pos hexecutable]
          exact hpending
  · exact ⟨hhistory ▸ (h initiator).distinct, hhistory ▸ hold⟩

/-- A workflow goes on, or has no summary that could tell otherwise. -/
theorem Told.write (h : Told s initiator) (htracked : Tracked s)
    (hfound : s.workflow.get? id = some wf) (hexecutable : wf.status.executable = true)
    (hwrote : Wrote s wf' calls s') (hid : wf'.workflowId = wf.workflowId)
    (hinitiator : wf'.initiator = wf.initiator)
    (hsummaries : s'.workflowHistory = s.workflowHistory)
    (hgoes : wf'.status.executable = true ∨
      ∀ summary ∈ getWorkflowHistory s wf.initiator, summary.workflowId ≠ id) :
    Told s' initiator := by
  have hhistory := getWorkflowHistory_kept hsummaries initiator
  have hkey : wf'.workflowId = id := hid.trans (htracked.numbered id wf hfound)
  refine ⟨hhistory ▸ h.distinct, fun summary hsummary => ?_⟩
  rw [hhistory] at hsummary
  by_cases hsame : summary.workflowId = id
  · obtain ⟨found, hfound', rfl, htells⟩ := h.tells summary hsummary
    rw [hsame, hfound] at hfound'
    cases hfound'
    rcases hgoes with hgoes | hnone
    · refine ⟨wf', ?_, hinitiator, ?_⟩
      · rw [hwrote.workflow, if_pos (hsame.trans hkey.symm)]
      · rw [if_pos hgoes]
        rwa [if_pos hexecutable] at htells
    · exact absurd hsame (hnone summary hsummary)
  · exact (h.tells summary hsummary).other hwrote (hkey ▸ hsame)

/-- A workflow ends, and its summary tells it. -/
theorem Told.conclude (h : Told s initiator) (htracked : Tracked s)
    (hfound : s.workflow.get? id = some wf) (hwrote : Wrote s wf'.notified calls s')
    (hid : wf'.workflowId = wf.workflowId) (hinitiator : wf'.initiator = wf.initiator)
    (hsummaries : Summarized env wf' s s') (hended : wf'.status.executable = false) :
    Told s' initiator := by
  have hkey : wf'.workflowId = id := hid.trans (htracked.numbered id wf hfound)
  have hhistory := getWorkflowHistory_set hsummaries initiator
  split at hhistory
  · rename_i howner
    rw [← howner] at hhistory
    constructor
    · rw [hhistory, updateFirst_ids]
      exact h.distinct
    · intro summary hsummary
      rw [hhistory] at hsummary
      rcases mem_updateFirst h.distinct hsummary with ⟨hne, hold⟩ | ⟨hsame, hstatus, hdone⟩
      · exact (h.tells summary hold).other hwrote hne
      · refine ⟨wf'.notified, ?_, howner.symm, ?_⟩
        · exact (hwrote.workflow _).trans (if_pos hsame)
        · have hnotified : ¬ wf'.notified.status.executable = true := ne_true_of_eq_false hended
          rw [if_neg hnotified]
          exact ⟨hstatus, by rw [hdone, Option.isSome_some]⟩
  · rename_i hother
    refine ⟨hhistory ▸ h.distinct, fun summary hsummary => ?_⟩
    rw [hhistory] at hsummary
    refine (h.tells summary hsummary).other hwrote fun hsame => hother ?_
    obtain ⟨found, hfound', rfl, -⟩ := h.tells summary hsummary
    have hnumber : summary.workflowId = id := hsame.trans hkey
    rw [hnumber, hfound] at hfound'
    cases hfound'
    exact hinitiator.symm

theorem Effect.told (heffect : Effect s a s') (htracked : Tracked s)
    (hends : a.EndsTold s) (h : ∀ initiator, Told s initiator) (initiator : Address) :
    Told s' initiator := by
  cases heffect with
  | aside _ _ _ _ workflows => exact (h initiator).kept workflows.workflow workflows.workflowHistory
  | initialized => exact (h initiator).kept rfl rfl
  | acted => exact (h initiator).kept rfl rfl
  | created env creator args deadline =>
    exact Told.create h (hends.numbersNew creator args rfl) rfl rfl rfl rfl rfl
  | expired _ _ wf _ found executable late wrote summaries =>
    exact (h initiator).write htracked found executable wrote rfl rfl summaries
      (.inr (hends wf found late))
  | stepped _ _ _ _ _ found executable _ wrote summaries =>
    exact (h initiator).write htracked found executable wrote rfl rfl summaries (.inl rfl)
  | completed _ _ _ _ _ found _ _ wrote summaries =>
    exact (h initiator).conclude htracked found wrote rfl rfl summaries rfl
  | cancelled _ _ _ _ _ _ found _ wrote summaries =>
    exact (h initiator).conclude htracked found wrote rfl rfl summaries rfl

/-- What has ended stays, as long as no workflow is created in its place. -/
theorem history_final {ok : List (State × Action) → State → Action → Prop}
    (h : History next ok deployed log s) (hok : ∀ log s a, ok log s a → a.NumbersNew s) :
    ∀ e ∈ log, ∀ id wf, e.1.workflow.get? id = some wf → wf.status.executable = false →
      s.workflow.get? id = some wf := by
  induction h with
  | nil => exact fun _ he => by cases he
  | cons run admitted done ih =>
    intro e he id wf hfound hstatus
    have htracked := history_tracked run hok
    have hnew := hok _ _ _ admitted
    rcases List.mem_cons.mp he with rfl | he
    · exact (next_effect done).final htracked hnew hfound hstatus
    · exact (next_effect done).final htracked hnew (ih e he id wf hfound hstatus) hstatus

theorem history_told (h : History next (fun _ s a => a.EndsTold s) deployed log s) :
    ∀ initiator, Told s initiator := by
  induction h with
  | nil => exact fun _ => ⟨.nil, fun _ hsummary => by cases hsummary⟩
  | cons run admitted done ih =>
    have htracked := history_tracked run fun _ _ _ hends => hends.numbersNew
    exact (next_effect done).told htracked admitted ih

/-- In a run in which no workflow is told wrong when it is too late, the life cycle is kept in
every state. -/
theorem lifeCycle_kept (h : History next (fun _ s a => a.EndsTold s) deployed log s) :
    LifeCycle log s := by
  have htracked : Tracked s := history_tracked h fun _ _ _ hends => hends.numbersNew
  exact {
    ordered := fun id wf hfound => (htracked.traced id wf hfound).steps_eq
    final := history_final h fun _ _ _ hends => hends.numbersNew
    callback := fun id wf hfound => (htracked.traced id wf hfound).callbacks_eq
    told := history_told h }

section Samples

/-- Nothing is executed before the deadline, and the workflow fails after it: its summary still
says that it is pending. -/
theorem told_wrong : ∃ log s, History next (fun _ _ _ => True) deployed log s ∧
    ¬ LifeCycle log s := by
  have h : After (fun r => (∃ wf ∈ r.2.workflow.get? 1, wf.status = .failed) ∧
        ∃ summary ∈ getWorkflowHistory r.2 alice, summary.workflowId = 1 ∧
          summary.status = .pending)
      (record next (fun _ _ _ => True) [createPair, executeAt 11] ([], deployed)) := by
    decide +kernel
  obtain ⟨⟨log, s⟩, hrec, ⟨wf, hfound, hfailed⟩, summary, hsummary, hid, hpending⟩ := h.exists_ok
  refine ⟨log, s, record_run hrec, fun hcycle => ?_⟩
  obtain ⟨found, hfound', -, htells⟩ := (hcycle.told alice).tells summary hsummary
  rw [hid, hfound] at hfound'
  cases hfound'
  rw [hfailed, if_neg (by decide)] at htells
  rw [hpending] at htells
  cases htells.1

/-- A workflow that completes is told as completed. -/
theorem lifeCycle_kept_pair : ∃ log s,
    History next (fun _ s a => a.EndsTold s) deployed log s ∧ LifeCycle log s ∧
    s.calls = [.execStep 1 0 ⟨2⟩ 0 [], .execStep 1 1 ⟨3⟩ 0 [], .wfDone ⟨4⟩ 1 2] ∧
    (getWorkflowHistory s alice).map (fun summary => (summary.status, summary.completedAt)) =
      [(.completed, some 6)] := by
  have h : After (fun r =>
        r.2.calls = [.execStep 1 0 ⟨2⟩ 0 [], .execStep 1 1 ⟨3⟩ 0 [], .wfDone ⟨4⟩ 1 2] ∧
        (getWorkflowHistory r.2 alice).map (fun summary => (summary.status, summary.completedAt)) =
          [(.completed, some 6)])
      (record next (fun _ s a => a.EndsTold s) [createPair, executeAt 5, executeAt 6]
        ([], deployed)) := by
    decide +kernel
  obtain ⟨⟨log, s⟩, hrec, hcalls, htold⟩ := h.exists_ok
  have hrun : History next (fun _ s a => a.EndsTold s) deployed log s :=
    record_run hrec
  exact ⟨log, s, hrun, lifeCycle_kept hrun, hcalls, htold⟩

end Samples

end ExecutionHub
