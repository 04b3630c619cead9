import StellAIverse.Soroban.LazyWindow
import StellAIverse.ExecutionHub.Effects

/-!
# Actions are numbered, and metered

Executions get consecutive numbers, and the history of an agent holds its executions with
nonces that go up. The counter of an agent starts over a minute after it started: what was
counted before that may still lie within the last minute, and is not looked at.
-/

namespace ExecutionHub

open Soroban

variable {s s' : State} {a : Action} {log : List (State × Action)} {agentId : ℕ}

/-- The agent and the record of an execution. -/
def executionOf (e : State × Action) : Option (ℕ × ActionRecord) :=
  match e.2.op with
  | .executeAction agentId executor action parameters nonce =>
    match executeAction e.2.env agentId executor action parameters nonce e.1 with
    | .ok (executionId, _) => some (agentId, {
        executionId, action, executor, timestamp := e.2.env.timestamp, nonce })
    | .error _ => none
  | _ => none

/-- The executions of a run, the latest first. -/
def executions (log : List (State × Action)) : List (ℕ × ActionRecord) := log.filterMap executionOf

def executionsOf (agentId : ℕ) (log : List (State × Action)) : List ActionRecord :=
  ((executions log).filter (·.1 = agentId)).map (·.2)

/-- Numbers and nonces go up, and histories are complete. -/
structure ReplayProtected (log : List (State × Action)) (s : State) : Prop where
  ids : (executions log).reverse.map (·.2.executionId) = List.range' 1 (executions log).length
  history : ∀ agentId, historyOf s agentId = (executionsOf agentId log).reverse
  nonces : ∀ agentId, ((historyOf s agentId).map (·.nonce)).Pairwise (· < ·)

/-- No minute has more than a hundred executions of an agent. -/
def RateLimited (log : List (State × Action)) : Prop :=
  ∀ agentId t, (executionsOf agentId log).countP
    (fun x => t ≤ x.timestamp ∧ x.timestamp ≤ t + defaultRateLimitWindow) ≤ defaultRateLimitOps

/-- The counter at a time, before the call is counted. -/
def RateLimitData.at (now : ℕ) (data : RateLimitData) : RateLimitData :=
  if now - data.lastReset > defaultRateLimitWindow then ⟨now, 0⟩ else data

def rateAt (s : State) (agentId now : ℕ) : RateLimitData :=
  ((s.rateLimit.get? agentId).getD ⟨now, 0⟩).at now

/-- The executions of the last minute that the counter has forgotten. -/
def forgotten (log : List (State × Action)) (s : State) (agentId now : ℕ) : ℕ :=
  (executionsOf agentId log).countP fun x =>
    now ≤ x.timestamp + defaultRateLimitWindow ∧ x.timestamp < (rateAt s agentId now).lastReset

/-- The counter has room for a call and for the executions it has forgotten. -/
def Action.HasRoom (log : List (State × Action)) (s : State) (a : Action) : Prop :=
  ∀ x ∈ executionOf (s, a),
    forgotten log s x.1 a.env.timestamp + (rateAt s x.1 a.env.timestamp).count < defaultRateLimitOps

instance (log : List (State × Action)) (s : State) (a : Action) : Decidable (a.HasRoom log s) :=
  inferInstanceAs (Decidable (∀ x ∈ executionOf (s, a), _))

/-- Every call of a run had room when it was made. -/
def RoomyRun : List (State × Action) → Prop
  | [] => True
  | (s, a) :: log => a.HasRoom log s ∧ RoomyRun log

instance decidableRoomyRun : (log : List (State × Action)) → Decidable (RoomyRun log)
  | [] => .isTrue trivial
  | (_, _) :: log => @instDecidableAnd _ _ inferInstance (decidableRoomyRun log)

/-- The hub is initialised before it executes anything. -/
def Action.StartsActions (s : State) (a : Action) : Prop :=
  ∀ admin, a.op = .initializeHub admin → s.execCounter.getD 0 = 0

/-- A run of calls that come on time. -/
abbrev Run : List (State × Action) → State → Prop :=
  History next (fun log _ a => OnTime Action.time? log a) deployed

theorem executions_cons_none (log : List (State × Action)) (h : executionOf (s, a) = none) :
    executions ((s, a) :: log) = executions log :=
  List.filterMap_cons_none h

theorem executions_cons_some (log : List (State × Action)) {x : ℕ × ActionRecord}
    (h : executionOf (s, a) = some x) : executions ((s, a) :: log) = x :: executions log :=
  List.filterMap_cons_some h

theorem executionsOf_cons_some (log : List (State × Action)) {x : ℕ × ActionRecord}
    (h : executionOf (s, a) = some x) (agentId : ℕ) : executionsOf agentId ((s, a) :: log) =
      if x.1 = agentId then x.2 :: executionsOf agentId log else executionsOf agentId log := by
  unfold executionsOf
  rw [executions_cons_some log h, List.filter_cons]
  by_cases hagent : x.1 = agentId <;> simp [hagent]

/-- A call that is no execution is not in the log of executions. -/
theorem executionOf_none (h : ∀ agentId executor action parameters nonce,
    a.op ≠ .executeAction agentId executor action parameters nonce) :
    executionOf (s, a) = none := by
  unfold executionOf
  split
  · rename_i hop
    exact absurd hop (h _ _ _ _ _)
  · rfl

/-- An execution and what it found, against the others. -/
inductive Executed (s : State) (a : Action) (s' : State) : Prop
  | none (other : executionOf (s, a) = none) (nonce : s'.nonce = s.nonce)
      (history : s'.history = s.history) (rateLimit : s'.rateLimit = s.rateLimit)
      (execCounter : s'.execCounter.getD 0 = s.execCounter.getD 0)
  | some (agentId : ℕ) (x : ActionRecord) (data : RateLimitData)
      (execution : executionOf (s, a) = some (agentId, x))
      (executionId : x.executionId = s.execCounter.getD 0 + 1)
      (timestamp : x.timestamp = a.env.timestamp) (newer : getNonceInner s agentId < x.nonce)
      (metered : ((s.rateLimit.get? agentId).getD ⟨a.env.timestamp, 0⟩).meter a.env.timestamp
        defaultRateLimitOps defaultRateLimitWindow = .ok data)
      (nonce : s'.nonce = s.nonce.set agentId x.nonce)
      (history : s'.history = s.history.set agentId (historyOf s agentId ++ [x]))
      (rateLimit : s'.rateLimit = s.rateLimit.set agentId data)
      (execCounter : s'.execCounter = .some (s.execCounter.getD 0 + 1))

theorem executed_next (hstart : a.StartsActions s) (h : next a s = .ok s') : Executed s a s' := by
  have hquiet : ∀ {s'}, ActionsKept s s' → (∀ agentId executor action parameters nonce,
      a.op ≠ .executeAction agentId executor action parameters nonce) → Executed s a s' :=
    fun hkept hop => .none (executionOf_none hop) hkept.nonce hkept.history hkept.rateLimit
      (by rw [hkept.execCounter])
  cases next_effect h with
  | aside _ _ _ actions _ other => exact hquiet actions other
  | initialized env admin =>
    refine .none (executionOf_none fun _ _ _ _ _ hop => by cases hop) rfl rfl rfl ?_
    exact (hstart admin rfl).symm
  | acted env agentId executor action parameters nonce data newer metered =>
    obtain ⟨r, hr, -⟩ := map_ok.mp h
    obtain ⟨hid, -⟩ := executeAction_effect hr
    let x : ActionRecord := {
      executionId := s.execCounter.getD 0 + 1, action, executor, timestamp := env.timestamp, nonce }
    refine .some agentId x data ?_ rfl rfl newer metered rfl rfl rfl rfl
    unfold executionOf
    dsimp only
    rw [hr]
    dsimp only
    rw [hid]
  | created => exact hquiet ⟨rfl, rfl, rfl, rfl⟩ fun _ _ _ _ _ hop => by cases hop
  | expired _ _ _ _ _ _ _ wrote => exact hquiet wrote.actions fun _ _ _ _ _ hop => by cases hop
  | stepped _ _ _ _ _ _ _ _ wrote =>
    exact hquiet wrote.actions fun _ _ _ _ _ hop => by cases hop
  | completed _ _ _ _ _ _ _ _ wrote =>
    exact hquiet wrote.actions fun _ _ _ _ _ hop => by cases hop
  | cancelled _ _ _ _ _ _ _ _ wrote =>
    exact hquiet wrote.actions fun _ _ _ _ _ hop => by cases hop

/-- The counter and the nonces are those of the executions so far. -/
structure Numbered (log : List (State × Action)) (s : State) : Prop where
  counter : s.execCounter.getD 0 = (executions log).length
  nonce : ∀ agentId, ∀ x ∈ executionsOf agentId log, x.nonce ≤ getNonceInner s agentId
  replayProtected : ReplayProtected log s

theorem Numbered.step (h : Numbered log s) (hexecuted : Executed s a s') :
    Numbered ((s, a) :: log) s' := by
  obtain ⟨hcounter, hnonce, hids, hhistory, hnonces⟩ := h
  cases hexecuted with
  | none other nonce history rateLimit execCounter =>
    have hsame := executions_cons_none log other
    have hof : ∀ agentId, executionsOf agentId ((s, a) :: log) = executionsOf agentId log :=
      fun agentId => by rw [executionsOf, hsame, executionsOf]
    have hkept : ∀ agentId, historyOf s' agentId = historyOf s agentId :=
      fun agentId => by rw [historyOf, history, historyOf]
    refine ⟨by rw [hsame, execCounter, hcounter], fun agentId x hx => ?_, by rw [hsame, hids],
      fun agentId => by rw [hkept, hof, hhistory], fun agentId => ?_⟩
    · rw [getNonceInner, nonce]
      exact hnonce agentId x (hof agentId ▸ hx)
    · rw [hkept]
      exact hnonces agentId
  | some agentId x data execution executionId timestamp newer metered nonce history rateLimit
      execCounter =>
    have hlater := executions_cons_some log execution
    have hof := executionsOf_cons_some log execution
    have hrecords : ∀ other, historyOf s' other =
        if other = agentId then historyOf s agentId ++ [x] else historyOf s other := by
      intro other
      rw [historyOf, history, Store.get?_set]
      split <;> rfl
    refine ⟨?_, fun other y hy => ?_, ?_, fun other => ?_, fun other => ?_⟩
    · rw [execCounter, hlater, List.length_cons, ← hcounter]
      rfl
    · rw [getNonceInner, nonce, Store.get?_set]
      rw [hof] at hy
      split
      · rename_i hsame
        subst hsame
        rw [if_pos rfl] at hy
        rcases List.mem_cons.mp hy with rfl | hy
        · exact le_rfl
        · exact (hnonce other y hy).trans newer.le
      · rename_i hne
        rw [if_neg (Ne.symm hne)] at hy
        exact hnonce other y hy
    · rw [hlater, List.reverse_cons, List.map_append, hids, List.length_cons, List.range'_1_concat,
        List.map_singleton, executionId, hcounter, add_comm]
    · rw [hrecords, hof]
      split
      · rename_i hsame
        rw [if_pos hsame.symm, List.reverse_cons, hsame, hhistory]
      · rename_i hne
        rw [if_neg (Ne.symm hne), hhistory]
    · rw [hrecords]
      split
      · rw [List.map_append, List.map_singleton, List.pairwise_append]
        refine ⟨hnonces agentId, List.pairwise_singleton _ _, fun n hn m hm => ?_⟩
        obtain ⟨y, hy, rfl⟩ := List.mem_map.mp hn
        rw [List.mem_singleton.mp hm]
        rw [hhistory, List.mem_reverse] at hy
        exact (hnonce agentId y hy).trans_lt newer
      · exact hnonces other

/-- The executions of an agent as events that count one each. -/
def events (agentId : ℕ) (log : List (State × Action)) : List (ℕ × ℤ) :=
  (executionsOf agentId log).map fun x => (x.timestamp, 1)

def RateLimitData.window (data : RateLimitData) : Meter := ⟨data.lastReset, data.count⟩

theorem RateLimitData.window_at (now : ℕ) (data : RateLimitData) :
    (data.at now).window = data.window.roll defaultRateLimitWindow now := by
  unfold RateLimitData.at Meter.roll window
  split <;> rfl

/-- A call that passes is counted, and there was room for it. -/
theorem RateLimitData.meter_ok {now : ℕ} {data data' : RateLimitData}
    (h : data.meter now defaultRateLimitOps defaultRateLimitWindow = .ok data') :
    data'.window = data.window.spend defaultRateLimitWindow now 1 ∧
      (data.window.roll defaultRateLimitWindow now).used + 1 ≤ (defaultRateLimitOps : ℤ) := by
  unfold meter at h
  unfold Meter.spend Meter.roll window
  split at h
  · rename_i hpassed
    cases h
    rw [if_pos hpassed]
    refine ⟨rfl, ?_⟩
    change (0 : ℤ) + 1 ≤ 100
    decide
  · rename_i hwithin
    rw [if_neg hwithin]
    split at h
    · rename_i hroom
      cases h
      refine ⟨rfl, ?_⟩
      dsimp only
      omega
    · cases h

theorem rateLimited_iff : RateLimited log ↔ ∀ agentId x,
    volume (fun t => x ≤ t ∧ t ≤ x + defaultRateLimitWindow) (events agentId log) ≤
      (defaultRateLimitOps : ℤ) := by
  unfold RateLimited events
  simp only [volume_units, Nat.cast_le]

/-- The counters are the meters of the executions. -/
structure MeteredAgents (log : List (State × Action)) (s : State) : Prop where
  idle : ∀ agentId, s.rateLimit.get? agentId = none → executionsOf agentId log = []
  past : ∀ agentId, ∀ x ∈ executionsOf agentId log, x.timestamp ≤ clock Action.time? log
  metered : ∀ agentId data, s.rateLimit.get? agentId = some data →
    data.lastReset ≤ clock Action.time? log ∧
      Metered defaultRateLimitWindow defaultRateLimitOps (events agentId log) data.window

/-- A counter that has not been used is new. -/
theorem MeteredAgents.at (h : MeteredAgents log s) (agentId : ℕ) {now : ℕ}
    (hnow : clock Action.time? log ≤ now) :
    ((s.rateLimit.get? agentId).getD ⟨now, 0⟩).lastReset ≤ now ∧
      Metered defaultRateLimitWindow defaultRateLimitOps (events agentId log)
        ((s.rateLimit.get? agentId).getD ⟨now, 0⟩).window := by
  cases hdata : s.rateLimit.get? agentId with
  | none =>
    rw [events, h.idle agentId hdata]
    exact ⟨le_rfl, .new _ _ _⟩
  | some data =>
    obtain ⟨hreset, hmetered⟩ := h.metered agentId data hdata
    exact ⟨hreset.trans hnow, hmetered⟩

/-- What the last minute has: what the counter has forgotten, and what it counts. -/
theorem MeteredAgents.trailing (h : MeteredAgents log s) (agentId : ℕ) {now : ℕ}
    (hnow : clock Action.time? log ≤ now) :
    volume (fun t => now ≤ t + defaultRateLimitWindow) (events agentId log) =
      (forgotten log s agentId now + (rateAt s agentId now).count : ℕ) := by
  obtain ⟨hreset, hmetered⟩ := h.at agentId hnow
  rw [hmetered.trailing hreset, ← RateLimitData.window_at, events, volume_units, Nat.cast_add]
  rfl

theorem hasRoom_iff {x : ℕ × ActionRecord} (h : executionOf (s, a) = some x) :
    a.HasRoom log s ↔ forgotten log s x.1 a.env.timestamp +
      (rateAt s x.1 a.env.timestamp).count < defaultRateLimitOps := by
  unfold Action.HasRoom
  rw [h]
  simp only [Option.mem_def, Option.some.injEq, forall_eq']

theorem events_cons_some (log : List (State × Action)) {x : ℕ × ActionRecord}
    (h : executionOf (s, a) = some x) (agentId : ℕ) : events agentId ((s, a) :: log) =
      if x.1 = agentId then (x.2.timestamp, 1) :: events agentId log else events agentId log := by
  unfold events
  rw [executionsOf_cons_some log h]
  split <;> rfl

/-- An execution keeps the limit exactly if there was room for it. -/
theorem MeteredAgents.rateLimited_step (h : MeteredAgents log s) {x : ActionRecord}
    (hnow : clock Action.time? log ≤ a.env.timestamp)
    (hexecution : executionOf (s, a) = some (agentId, x)) (htime : x.timestamp = a.env.timestamp) :
    RateLimited ((s, a) :: log) ↔ RateLimited log ∧ a.HasRoom log s := by
  have hevents := events_cons_some log hexecution
  have hpast : ∀ e ∈ events agentId log, e.1 ≤ a.env.timestamp := by
    intro e he
    obtain ⟨y, hy, rfl⟩ := List.mem_map.mp he
    exact (h.past agentId y hy).trans hnow
  have hroom : a.HasRoom log s ↔
      volume (fun t => a.env.timestamp ≤ t + defaultRateLimitWindow) (events agentId log) + 1 ≤
        (defaultRateLimitOps : ℤ) := by
    rw [h.trailing agentId hnow, hasRoom_iff hexecution]
    exact_mod_cast Iff.rfl
  have hspread : (∀ t, volume (fun t' => t ≤ t' ∧ t' ≤ t + defaultRateLimitWindow)
        ((a.env.timestamp, 1) :: events agentId log) ≤ (defaultRateLimitOps : ℤ)) ↔ _ :=
    spread_cons (h.at agentId hnow).2.nonneg zero_le_one hpast
  rw [rateLimited_iff, rateLimited_iff, hroom]
  constructor
  · intro hall
    have hagent := hall agentId
    rw [hevents, if_pos rfl, htime] at hagent
    obtain ⟨hbefore, hfits⟩ := hspread.mp hagent
    refine ⟨fun other => ?_, hfits⟩
    by_cases hsame : agentId = other
    · exact hsame ▸ hbefore
    · have hother := hall other
      rwa [hevents, if_neg hsame] at hother
  · rintro ⟨hbefore, hfits⟩ other
    by_cases hsame : agentId = other
    · subst hsame
      rw [hevents, if_pos rfl, htime]
      exact hspread.mpr ⟨hbefore agentId, hfits⟩
    · rw [hevents, if_neg hsame]
      exact hbefore other

theorem MeteredAgents.step (h : MeteredAgents log s) (hontime : OnTime Action.time? log a)
    (hexecuted : Executed s a s') :
    MeteredAgents ((s, a) :: log) s' ∧
      (RateLimited ((s, a) :: log) ↔ RateLimited log ∧ a.HasRoom log s) := by
  have hclock : clock Action.time? log ≤ clock Action.time? ((s, a) :: log) := hontime.clock_le s
  cases hexecuted with
  | none other nonce history rateLimit =>
    have hof : ∀ agentId, executionsOf agentId ((s, a) :: log) = executionsOf agentId log :=
      fun agentId => by rw [executionsOf, executions_cons_none log other, executionsOf]
    refine ⟨⟨fun agentId hnone => ?_, fun agentId x hx => ?_, fun agentId data hdata => ?_⟩, ?_⟩
    · rw [hof]
      exact h.idle agentId (rateLimit ▸ hnone)
    · rw [hof] at hx
      exact (h.past agentId x hx).trans hclock
    · obtain ⟨hreset, hmetered⟩ := h.metered agentId data (rateLimit ▸ hdata)
      refine ⟨hreset.trans hclock, ?_⟩
      rw [events, hof]
      exact hmetered
    · have hroom : a.HasRoom log s := fun x hx => by
        rw [other] at hx
        cases hx
      simp only [RateLimited, hof, hroom, and_true]
  | some agentId x data execution executionId timestamp newer metered nonce history rateLimit
      execCounter =>
    have hnow : clock Action.time? log ≤ a.env.timestamp := hontime _ rfl
    have hof := executionsOf_cons_some log execution
    have hevents := events_cons_some log execution
    obtain ⟨hreset, hmetered⟩ := h.at agentId hnow
    obtain ⟨hspent, hfits⟩ := RateLimitData.meter_ok metered
    refine ⟨⟨fun other hnone => ?_, fun other y hy => ?_, fun other data' hdata' => ?_⟩,
      h.rateLimited_step hnow execution timestamp⟩
    · rw [rateLimit, Store.get?_set] at hnone
      split at hnone
      · cases hnone
      · rename_i hne
        rw [hof, if_neg (Ne.symm hne)]
        exact h.idle other hnone
    · rw [hof] at hy
      split at hy
      · rcases List.mem_cons.mp hy with rfl | hy
        · exact timestamp.le
        · exact (h.past other y hy).trans hclock
      · exact (h.past other y hy).trans hclock
    · rw [rateLimit, Store.get?_set] at hdata'
      split at hdata'
      · rename_i hsame
        subst hsame
        cases hdata'
        rw [hevents, if_pos rfl, timestamp, hspent]
        exact ⟨(congrArg Meter.start hspent).le.trans (Meter.roll_within hreset).1,
          hmetered.spend hreset zero_le_one hfits⟩
      · rename_i hne
        rw [hevents, if_neg (Ne.symm hne)]
        exact ⟨(h.metered other data' hdata').1.trans hclock, (h.metered other data' hdata').2⟩

theorem history_metered (h : Run log s) (hstart : ∀ e ∈ log, e.2.StartsActions e.1) :
    Numbered log s ∧ MeteredAgents log s ∧ (RateLimited log ↔ RoomyRun log) := by
  induction h with
  | nil =>
    refine ⟨⟨rfl, fun _ _ hx => ?_, rfl, fun _ => rfl, fun _ => .nil⟩,
      ⟨fun _ _ => rfl, fun _ _ hx => ?_, fun _ _ hdata => ?_⟩,
      iff_of_true (fun _ _ => Nat.zero_le _) trivial⟩
    · cases hx
    · cases hx
    · cases hdata
  | cons run admitted done ih =>
    obtain ⟨hnumbered, hmetered, hlimited⟩ := ih fun e he => hstart e (List.mem_cons_of_mem _ he)
    have hexecuted := executed_next (hstart _ List.mem_cons_self) done
    obtain ⟨hmetered', hstep⟩ := hmetered.step admitted hexecuted
    refine ⟨hnumbered.step hexecuted, hmetered', hstep.trans ?_⟩
    rw [hlimited, and_comm]
    rfl

/-- Executions are numbered and protected from replay in every run, and no minute has more than
a hundred of an agent exactly if the counter always had room for those it had forgotten. -/
theorem actions_metered (h : Run log s) (hstart : ∀ e ∈ log, e.2.StartsActions e.1) :
    ReplayProtected log s ∧ (RateLimited log ↔ RoomyRun log) := by
  obtain ⟨hnumbered, -, hlimited⟩ := history_metered h hstart
  exact ⟨hnumbered.replayProtected, hlimited⟩

section Samples

def ping (timestamp nonce : ℕ) : Action :=
  ⟨hostAt timestamp, .executeAction 1 alice "ping" [] nonce⟩

/-- Agent 1 pings at these times, with nonces from 1 on. -/
def pings (times : List ℕ) : List Action := times.zipIdx.map fun t => ping t.1 (t.2 + 1)

/-- A recorded run of pings is a run of executions. -/
theorem pings_run {times : List ℕ} (hrec : record next (fun log _ a => OnTime Action.time? log a)
      (pings times) ([], deployed) = .ok (log, s)) :
    Run log s ∧ (∀ e ∈ log, ∃ timestamp nonce, e.2 = ping timestamp nonce) ∧
      ∀ e ∈ log, e.2.StartsActions e.1 := by
  have hpings : ∀ e ∈ log, ∃ timestamp nonce, e.2 = ping timestamp nonce := by
    intro e he
    obtain ⟨t, -, ht⟩ := List.mem_map.mp (mem_of_record hrec e he)
    exact ⟨t.1, t.2 + 1, ht.symm⟩
  refine ⟨record_run hrec, hpings, fun e he admin hop => ?_⟩
  obtain ⟨timestamp, nonce, hping⟩ := hpings e he
  rw [hping] at hop
  cases hop

/-- A hundred calls fill the first minute, most of them at its end, and two more come a second
after it. -/
theorem minute_exceeded : ∃ log s, Run log s ∧
    (∀ e ∈ log, ∃ timestamp nonce, e.2 = ping timestamp nonce) ∧ ¬ RateLimited log := by
  obtain ⟨⟨log, s⟩, hrec, hcount⟩ := After.exists_ok
    (P := fun r => (historyOf r.2 1).countP (fun x => 60 ≤ x.timestamp ∧
      x.timestamp ≤ 60 + defaultRateLimitWindow) = 101)
    (r := record next (fun log _ a => OnTime Action.time? log a)
      (pings (0 :: (List.replicate 99 60 ++ [61, 61]))) ([], deployed))
    (by decide +kernel)
  obtain ⟨hrun, hpings, hstart⟩ := pings_run hrec
  refine ⟨log, s, hrun, hpings, fun hlimited => ?_⟩
  have hhistory := (history_metered hrun hstart).1.replayProtected.history 1
  have hminute := hlimited 1 60
  rw [← List.countP_reverse, ← hhistory, hcount] at hminute
  exact absurd hminute (by decide)

/-- Calls that are spread over two minutes stay within the limit. -/
theorem actions_metered_spread : ∃ log s, Run log s ∧ ReplayProtected log s ∧ RateLimited log ∧
    (historyOf s 1).map (·.executionId) = [1, 2, 3] := by
  have h : After (fun r => RoomyRun r.1 ∧ (historyOf r.2 1).map (·.executionId) = [1, 2, 3])
      (record next (fun log _ a => OnTime Action.time? log a) (pings [0, 60, 121])
        ([], deployed)) := by
    decide +kernel
  obtain ⟨⟨log, s⟩, hrec, hroomy, hids⟩ := h.exists_ok
  obtain ⟨hrun, -, hstart⟩ := pings_run hrec
  obtain ⟨hprotected, hlimited⟩ := actions_metered hrun hstart
  exact ⟨log, s, hrun, hprotected, hlimited.mpr hroomy, hids⟩

end Samples

end ExecutionHub
