import StellAIverse.Soroban.Run

/-!
# Runs that remember

Some laws speak about what happened before: who approved and did not revoke,
how much was deposited, when something was last executed. A history is a run
together with its log, the completed invocations with the states they found,
the latest first. What it admits may depend on the log.
-/

namespace Soroban

variable {σ α : Type}

/-- A run from `start` that left this log. -/
inductive History (next : α → σ → Result σ) (ok : List (σ × α) → σ → α → Prop) (start : σ) :
    List (σ × α) → σ → Prop
  | nil : History next ok start [] start
  | cons {log : List (σ × α)} {s s' : σ} {a : α} (run : History next ok start log s)
      (admitted : ok log s a) (done : next a s = .ok s') :
      History next ok start ((s, a) :: log) s'

namespace History

variable {next : α → σ → Result σ} {ok : List (σ × α) → σ → α → Prop} {start s : σ}
  {log : List (σ × α)}

/-- What every admitted invocation preserves of log and state, every history has. -/
theorem preserves {P : List (σ × α) → σ → Prop} (h : History next ok start log s)
    (hstart : P [] start)
    (step : ∀ log s a s', ok log s a → next a s = .ok s' → P log s → P ((s, a) :: log) s') :
    P log s := by
  induction h with
  | nil => exact hstart
  | cons _ admitted done ih => exact step _ _ _ _ admitted done ih

/-- What an invocation establishes and every later one keeps, holds after them. -/
theorem after {P : List (σ × α) → σ → Prop} {e : σ × α} {old recent : List (σ × α)}
    (h : History next ok start (recent ++ e :: old) s)
    (first : ∀ s', ok old e.1 e.2 → next e.2 e.1 = .ok s' → P [] s')
    (step : ∀ recent s a s', ok (recent ++ e :: old) s a → next a s = .ok s' → P recent s →
      P ((s, a) :: recent) s') :
    P recent s := by
  induction recent generalizing s with
  | nil =>
    cases h with
    | cons _ admitted done => exact first s admitted done
  | cons r recent ih =>
    cases h with
    | cons run admitted done => exact step _ _ _ _ admitted done (ih run)

/-- A history without its log is a run. -/
theorem steps {admits : σ → α → Prop} (h : History next ok start log s)
    (hok : ∀ log s a, ok log s a → admits s a) : Steps next admits start s := by
  induction h with
  | nil => exact .refl _
  | cons _ admitted done ih => exact ih.tail (hok _ _ _ admitted) done

/-- So is one whose log has admissible invocations only. -/
theorem steps_of_mem {admits : σ → α → Prop} (h : History next ok start log s)
    (hlog : ∀ e ∈ log, admits e.1 e.2) : Steps next admits start s := by
  induction h with
  | nil => exact .refl _
  | cons _ _ done ih =>
    obtain ⟨hlast, hlog⟩ := List.forall_mem_cons.mp hlog
    exact (ih hlog).tail hlast done

end History

/-- Something happened, and nothing that undoes it happened since. -/
def Since (did undoes : σ × α → Prop) (log : List (σ × α)) : Prop :=
  ∃ recent e old, log = recent ++ e :: old ∧ did e ∧ ∀ r ∈ recent, ¬ undoes r

namespace Since

variable {did undoes : σ × α → Prop} {e : σ × α} {log : List (σ × α)}

theorem now (h : did e) : Since did undoes (e :: log) :=
  ⟨[], e, log, rfl, h, fun _ hr => (by cases hr)⟩

theorem later (h : Since did undoes log) (he : ¬ undoes e) : Since did undoes (e :: log) := by
  obtain ⟨recent, e', old, rfl, hdid, hkept⟩ := h
  refine ⟨e :: recent, e', old, rfl, hdid, fun r hr => ?_⟩
  rcases List.mem_cons.mp hr with rfl | hr
  · exact he
  · exact hkept r hr

end Since

/-- Ledger time after a log: the time of the latest invocation that has one. -/
def clock (time : α → Option ℕ) : List (σ × α) → ℕ
  | [] => 0
  | e :: log => (time e.2).getD (clock time log)

theorem clock_cons (time : α → Option ℕ) (s : σ) (a : α) (log : List (σ × α)) :
    clock time ((s, a) :: log) = (time a).getD (clock time log) := rfl

/-- The invocation comes at the ledger time or later. -/
def OnTime (time : α → Option ℕ) (log : List (σ × α)) (a : α) : Prop :=
  ∀ t, time a = some t → clock time log ≤ t

instance (time : α → Option ℕ) (log : List (σ × α)) (a : α) : Decidable (OnTime time log a) :=
  inferInstanceAs (Decidable (∀ t ∈ time a, clock time log ≤ t))

/-- Along invocations that come on time the ledger time does not go back. -/
theorem OnTime.clock_le {time : α → Option ℕ} {log : List (σ × α)} {a : α}
    (h : OnTime time log a) (s : σ) : clock time log ≤ clock time ((s, a) :: log) := by
  rw [clock_cons]
  cases ht : time a with
  | none => exact Nat.le_refl _
  | some t => exact h t ht

/-- No invocation was later than the ledger time. -/
def Timed (time : α → Option ℕ) (log : List (σ × α)) : Prop :=
  ∀ e ∈ log, ∀ t, time e.2 = some t → t ≤ clock time log

theorem Timed.cons {time : α → Option ℕ} {log : List (σ × α)} {a : α} (h : Timed time log)
    (hontime : OnTime time log a) (s : σ) : Timed time ((s, a) :: log) := by
  intro e he t ht
  rcases List.mem_cons.mp he with rfl | he
  · rw [clock_cons, ht]
    exact le_rfl
  · exact (h e he t ht).trans (hontime.clock_le s)

/-- Execute a list of invocations and keep the log, stopping at the first one that
is not admitted. -/
def record (next : α → σ → Result σ) (ok : List (σ × α) → σ → α → Prop)
    [∀ log s a, Decidable (ok log s a)] : List α → List (σ × α) × σ → Result (List (σ × α) × σ)
  | [], h => .ok h
  | a :: rest, (log, s) =>
    if ok log s a then do
      let s' ← next a s
      record next ok rest ((s, a) :: log, s')
    else .error .unauthorized

theorem record_history {next : α → σ → Result σ} {ok ok' : List (σ × α) → σ → α → Prop}
    [∀ log s a, Decidable (ok log s a)] {start : σ} (calls : List α)
    (hok : ∀ a ∈ calls, ∀ log s, ok log s a → ok' log s a) {h h' : List (σ × α) × σ}
    (hrun : History next ok' start h.1 h.2) (hrec : record next ok calls h = .ok h') :
    History next ok' start h'.1 h'.2 := by
  induction calls generalizing h with
  | nil =>
    cases hrec
    exact hrun
  | cons a rest ih =>
    obtain ⟨log, s⟩ := h
    unfold record at hrec
    split at hrec
    · rename_i hadmitted
      obtain ⟨s', hs', hrest⟩ := bind_ok.mp hrec
      have hlater := fun b hb => hok b (List.mem_cons_of_mem a hb)
      exact ih hlater (.cons hrun (hok a List.mem_cons_self log s hadmitted) hs') hrest
    · cases hrec

/-- What is recorded is what was executed, the latest first. -/
theorem record_log {next : α → σ → Result σ} {ok : List (σ × α) → σ → α → Prop}
    [∀ log s a, Decidable (ok log s a)] (calls : List α) {h h' : List (σ × α) × σ}
    (hrec : record next ok calls h = .ok h') :
    h'.1.map (·.2) = calls.reverse ++ h.1.map (·.2) := by
  induction calls generalizing h with
  | nil =>
    cases hrec
    rfl
  | cons a rest ih =>
    obtain ⟨log, s⟩ := h
    unfold record at hrec
    split at hrec
    · obtain ⟨s', -, hrest⟩ := bind_ok.mp hrec
      rw [ih hrest, List.reverse_cons, List.append_assoc]
      rfl
    · cases hrec

theorem record_run {next : α → σ → Result σ} {ok : List (σ × α) → σ → α → Prop}
    [∀ log s a, Decidable (ok log s a)] {start s : σ} {log : List (σ × α)} {calls : List α}
    (hrec : record next ok calls ([], start) = .ok (log, s)) : History next ok start log s :=
  record_history calls (fun _ _ _ _ hadmitted => hadmitted) .nil hrec

theorem mem_of_record {next : α → σ → Result σ} {ok : List (σ × α) → σ → α → Prop}
    [∀ log s a, Decidable (ok log s a)] {start s : σ} {log : List (σ × α)} {calls : List α}
    (hrec : record next ok calls ([], start) = .ok (log, s)) : ∀ e ∈ log, e.2 ∈ calls := by
  intro e he
  have hlog : log.map (·.2) = calls.reverse ++ [] := record_log calls hrec
  rw [List.append_nil] at hlog
  have hmem : e.2 ∈ log.map (·.2) := List.mem_map_of_mem he
  rw [hlog] at hmem
  exact List.mem_reverse.mp hmem

/-- What is recorded is a history, also of invocations that are written as something shorter. -/
theorem record_map_history {next : α → σ → Result σ} {ok ok' : List (σ × α) → σ → α → Prop}
    [∀ log s a, Decidable (ok log s a)] {start s : σ} {log : List (σ × α)} {β : Type} {f : β → α}
    {ops : List β} (hrec : record next ok (ops.map f) ([], start) = .ok (log, s))
    (hok : ∀ e ∈ ops, ∀ log s, ok log s (f e) → ok' log s (f e)) :
    History next ok' start log s := by
  refine record_history _ (fun a ha log s hadmitted => ?_) .nil hrec
  obtain ⟨e, he, rfl⟩ := List.mem_map.mp ha
  exact hok e he log s hadmitted

end Soroban
