import StellAIverse.TokenVesting.Effects
import StellAIverse.Soroban.History

/-!
# The index of beneficiaries

The ids under a beneficiary are those of its schedules, each once, through any
re-assignment. This needs schedule ids to be new when they are given out, and
`initialize` starts the numbering again: a schedule created before it is later
overwritten, while its id stays in the index.
-/

namespace TokenVesting

open Soroban

variable {τ : Type} {tok : Token τ} {self : Address} {s s' : State τ} {a : Action τ}

/-- Reached from empty storage by invocations that `ok` admits. -/
def ReachableVia (tok : Token τ) (self : Address) (ok : State τ → Action τ → Prop)
    (s : State τ) : Prop :=
  ∃ tokens, Steps (next tok self) ok (deployed tokens) s

def Reachable (tok : Token τ) (self : Address) (s : State τ) : Prop :=
  ReachableVia tok self (fun _ _ => True) s

def Action.initializes : Action τ → Bool
  | .call _ (.initializeContract _) => true
  | _ => false

/-- `initialize` comes before the first schedule. -/
def Action.StartsEmpty (s : State τ) (a : Action τ) : Prop :=
  a.initializes = true → s.scheduleCounter = 0

instance (s : State τ) (a : Action τ) : Decidable (a.StartsEmpty s) :=
  inferInstanceAs (Decidable (_ → _))

/-- The ids given out so far. -/
def Numbered (s : State τ) : Prop :=
  ∀ id schedule, s.schedule.get? id = some schedule → id ≤ s.scheduleCounter

theorem Numbered.none (h : Numbered s) {id : ℕ} (hid : s.scheduleCounter < id) :
    s.schedule.get? id = none := by
  cases hk : s.schedule.get? id with
  | none => rfl
  | some schedule =>
    have := h id schedule hk
    omega

/-- A list holds the ids of the schedules of one beneficiary, each once. -/
def Lists (schedules : Store ℕ VestingSchedule) (beneficiary : Address) (ids : List ℕ) : Prop :=
  ids.Nodup ∧ ∀ id, id ∈ ids ↔
    ∃ schedule, schedules.get? id = some schedule ∧ schedule.beneficiary = beneficiary

structure Indexed (s : State τ) : Prop where
  numbered : Numbered s
  lists : ∀ beneficiary, Lists s.schedule beneficiary (beneficiaryScheduleIds s beneficiary)

section Lists

variable {schedules : Store ℕ VestingSchedule} {b : Address} {ids : List ℕ} {id : ℕ}
  {schedule schedule' : VestingSchedule}

/-- A schedule that keeps its beneficiary keeps its place. -/
theorem Lists.rewrite (h : Lists schedules b ids) (hk : schedules.get? id = some schedule)
    (hsame : schedule'.beneficiary = schedule.beneficiary) :
    Lists (schedules.set id schedule') b ids := by
  refine ⟨h.1, fun id' => ?_⟩
  rw [h.2 id', Store.get?_set]
  by_cases he : id' = id
  · simp [he, hk, hsame]
  · rw [if_neg he]

/-- The list, apart from one id. -/
def ListsBut (id : ℕ) (schedules : Store ℕ VestingSchedule) (b : Address) (ids : List ℕ) : Prop :=
  ids.Nodup ∧ ∀ id', id' ∈ ids ↔ id' ≠ id ∧
    ∃ schedule, schedules.get? id' = some schedule ∧ schedule.beneficiary = b

theorem Lists.erase (h : Lists schedules b ids) : ListsBut id schedules b (ids.erase id) :=
  ⟨h.1.erase id, fun id' => by rw [h.1.mem_erase_iff, h.2 id']⟩

theorem Lists.without (h : Lists schedules b ids) (hid : id ∉ ids) :
    ListsBut id schedules b ids := by
  have herase : ListsBut id schedules b (ids.erase id) := h.erase
  rw [List.erase_of_not_mem hid] at herase
  exact herase

theorem ListsBut.append (h : ListsBut id schedules b ids) (hnew : schedule'.beneficiary = b) :
    Lists (schedules.set id schedule') b (ids ++ [id]) := by
  refine ⟨?_, fun id' => ?_⟩
  · rw [← List.concat_eq_append]
    exact (List.nodup_concat _ _).mpr ⟨fun hid => ((h.2 id).mp hid).1 rfl, h.1⟩
  · rw [List.mem_append, List.mem_singleton, h.2 id', Store.get?_set]
    by_cases he : id' = id
    · simp [he, hnew]
    · simp [he]

theorem ListsBut.other (h : ListsBut id schedules b ids) (hnew : schedule'.beneficiary ≠ b) :
    Lists (schedules.set id schedule') b ids := by
  refine ⟨h.1, fun id' => ?_⟩
  rw [h.2 id', Store.get?_set]
  by_cases he : id' = id
  · simp [he, hnew]
  · simp [he]

end Lists

theorem ids_set (s : State τ) (b b' : Address) (ids : List ℕ) :
    ((s.beneficiarySchedules.set b ids).get? b').getD [] =
      if b' = b then ids else beneficiaryScheduleIds s b' := by
  rw [Store.get?_set]
  split <;> rfl

/-- Writing a schedule without touching its beneficiary. -/
theorem Indexed.rewrite (hi : Indexed s) {id : ℕ} {schedule schedule' : VestingSchedule}
    (hk : s.schedule.get? id = some schedule)
    (hsame : schedule'.beneficiary = schedule.beneficiary) (tokens : τ) (lock : Bool)
    (events : List Event) :
    Indexed { s with
      schedule := s.schedule.set id schedule', tokens, reentrancyLock := lock, events } :=
  ⟨Store.forall_set hi.numbered (hi.numbered id schedule hk), fun b => (hi.lists b).rewrite hk hsame⟩

/-- Tokens, lock and events are no part of the index. -/
theorem Indexed.frame (hi : Indexed s) (tokens : τ) (lock : Bool) (events : List Event) :
    Indexed { s with tokens, reentrancyLock := lock, events } :=
  ⟨hi.numbered, hi.lists⟩

theorem Indexed.stored (hi : Indexed s) (terms : Terms) (now : ℕ) (funder token beneficiary : Address)
    (amount : ℤ) : Indexed (stored terms now funder token s beneficiary amount) := by
  have hnew : ∀ b, s.scheduleCounter + 1 ∉ beneficiaryScheduleIds s b := by
    intro b hmem
    obtain ⟨schedule, hk, -⟩ := ((hi.lists b).2 _).mp hmem
    rw [hi.numbered.none (Nat.lt_succ_self _)] at hk
    cases hk
  refine ⟨Store.forall_set (fun id schedule hk => ?_) le_rfl, fun b => ?_⟩
  · have := hi.numbered id schedule hk
    simp only [TokenVesting.stored]
    omega
  · have hbut := (hi.lists b).without (hnew b)
    simp only [TokenVesting.stored, beneficiaryScheduleIds]
    rw [ids_set]
    split
    · rename_i he
      subst he
      exact hbut.append rfl
    · rename_i hne
      exact hbut.other (Ne.symm hne)

theorem Indexed.storedAll (hi : Indexed s) (terms : Terms) (now : ℕ) (funder token : Address)
    (entries : List (Address × ℤ)) : Indexed (storedAll terms now funder token entries s) := by
  induction entries generalizing s with
  | nil => exact hi
  | cons e rest ih => exact ih (hi.stored terms now funder token e.1 e.2)

theorem Claims.indexed {now : ℕ} {beneficiary : Address}
    (h : Claims tok self now beneficiary s s') (hi : Indexed s) : Indexed s' := by
  induction h with
  | refl => exact hi
  | tail _ hstep ih =>
    cases hstep with
    | mk id schedule tokens found =>
      refine ih.rewrite found ?_ tokens false _
      rfl

/-- Re-assignment, to whomever. -/
theorem Indexed.moved (hi : Indexed s) {id : ℕ} {schedule retimed : VestingSchedule}
    {newBeneficiary : Option Address} (hk : s.schedule.get? id = some schedule)
    (hnew : retimed.beneficiary = newBeneficiary.getD schedule.beneficiary) (b : Address) :
    Lists (s.schedule.set id retimed) b
      (beneficiaryScheduleIds (moveBeneficiarySchedule s schedule id newBeneficiary) b) := by
  cases newBeneficiary with
  | none => exact (hi.lists b).rewrite hk hnew
  | some target =>
    have hbut : ListsBut id s.schedule b
        (beneficiaryScheduleIds (removeBeneficiarySchedule s schedule.beneficiary id) b) := by
      simp only [removeBeneficiarySchedule, beneficiaryScheduleIds]
      rw [ids_set]
      split
      · rename_i he
        subst he
        exact (hi.lists schedule.beneficiary).erase
      · rename_i hne
        refine (hi.lists b).without fun hmem => ?_
        obtain ⟨found, hfound, howner⟩ := ((hi.lists b).2 id).mp hmem
        obtain rfl : schedule = found := Option.some.inj (hk.symm.trans hfound)
        exact hne howner.symm
    simp only [moveBeneficiarySchedule, addBeneficiarySchedule, beneficiaryScheduleIds]
    rw [ids_set]
    split
    · rename_i he
      subst he
      exact hbut.append hnew
    · rename_i hne
      exact hbut.other fun he => hne (he.symm.trans hnew)

theorem indexed_step (hi : Indexed s) (ha : a.StartsEmpty s) (h : Effect tok self s a s') :
    Indexed s' := by
  cases h with
  | initializeContract _ admin =>
    refine ⟨fun id schedule hk => ?_, hi.lists⟩
    have hle := hi.numbered id schedule hk
    have hzero := ha rfl
    rw [hzero] at hle
    exact hle
  | creates env _ funder token terms entries tokens batch =>
    have hstart := hi.frame tokens false s.events
    have hend := hstart.storedAll terms env.timestamp funder token entries
    exact hend.frame _ _ _
  | claims _ _ _ s₁ batch _ claims => exact (claims.indexed hi).frame _ _ _
  | earlyWithdraw _ _ _ _ _ _ _ found =>
    refine hi.rewrite found ?_ _ _ _
    rfl
  | modifySchedule _ _ id changes schedule _ _ _ _ _ retimed found _ _ _ retimed_eq =>
    refine ⟨Store.forall_set hi.numbered (hi.numbered id schedule found), fun b => ?_⟩
    exact hi.moved found (by rw [retimed_eq]) b
  | increaseScheduleAmount _ _ _ _ _ _ _ found =>
    refine hi.rewrite found ?_ _ _ _
    rfl
  | revokeSchedule _ _ _ _ _ _ _ found =>
    refine hi.rewrite found ?_ _ _ _
    rfl
  | transfers tokens => exact ⟨hi.numbered, hi.lists⟩

theorem indexed_deployed (tokens : τ) : Indexed (deployed tokens) :=
  ⟨fun _ _ hk => (by cases hk), fun b =>
    ⟨List.nodup_nil, fun id => by simp [deployed, beneficiaryScheduleIds]⟩⟩

/-- In every run that initializes before it creates schedules, the index of each
beneficiary holds exactly the ids of its schedules, each once. -/
theorem index_exact (hs : ReachableVia tok self (fun s a => a.StartsEmpty s) s)
    (beneficiary : Address) :
    (beneficiaryScheduleIds s beneficiary).Nodup ∧
      ∀ id, id ∈ beneficiaryScheduleIds s beneficiary ↔
        ∃ schedule, s.schedule.get? id = some schedule ∧ schedule.beneficiary = beneficiary := by
  obtain ⟨tokens, hrun⟩ := hs
  have hindexed : Indexed s := by
    refine hrun.preserves (P := Indexed) ?_ (indexed_deployed tokens)
    intro s a s' ha hn hi
    exact indexed_step hi ha (next_effect hn)
  exact hindexed.lists beneficiary

namespace Sample

def contract : Address := ⟨0⟩

def admin : Address := ⟨1⟩

def usdc : Address := ⟨2⟩

def alice : Address := ⟨3⟩

def bob : Address := ⟨4⟩

def carol : Address := ⟨5⟩

def env (timestamp : ℕ) : Env := ⟨timestamp, fun _ => true⟩

def start : State Balances := deployed (Balances.issue [(usdc, carol, 10 ^ 6)])

/-- Invocations, each at its ledger time. -/
def calls (ops : List (ℕ × Op)) : List (Action Balances) := ops.map fun e => .call (env e.1) e.2

def run (ops : List (ℕ × Op)) : Result (State Balances) :=
  execute (next asset contract) (calls ops) start

/-- Vesting from 100 to 200 with a cliff at 120. -/
def terms : Terms := ⟨100, 20, 100, true, true, 1000⟩

/-- Only a new beneficiary. -/
def reassigned (beneficiary : Address) : Changes := ⟨some beneficiary, none, none, none, none, none⟩

end Sample

section Runs

open Sample

/-- A batch with a repeated beneficiary, and a schedule that goes away and comes
back. -/
def cycled : List (ℕ × Op) := [
  (0, .initializeContract admin),
  (0, .createSchedulesBatch carol usdc [alice, alice, bob] [10, 20, 30] terms),
  (5, .modifySchedule admin 1 (reassigned bob)),
  (6, .modifySchedule admin 1 (reassigned alice)),
  (7, .modifySchedule admin 2 (reassigned alice))]

theorem index_exact_cycled :
    ∃ s, ReachableVia asset contract (fun s a => a.StartsEmpty s) s ∧
      beneficiaryScheduleIds s alice = [1, 2] ∧
      ∀ id, id ∈ [1, 2] ↔
        ∃ schedule, s.schedule.get? id = some schedule ∧ schedule.beneficiary = alice := by
  have h : After (fun h => beneficiaryScheduleIds h.2 alice = [1, 2])
      (record (next asset contract) (fun _ s a => a.StartsEmpty s) (calls cycled) ([], start)) := by
    decide +kernel
  obtain ⟨⟨log, s⟩, hrec, hids⟩ := h.exists_ok
  have hrun : History (next asset contract) (fun _ s a => a.StartsEmpty s) start log s :=
    record_run hrec
  have hvia : ReachableVia asset contract (fun s a => a.StartsEmpty s) s :=
    ⟨_, hrun.steps fun _ _ _ ha => ha⟩
  have hexact := (index_exact hvia alice).2
  simp only at hids
  rw [hids] at hexact
  exact ⟨s, hvia, hids, hexact⟩

/-- The second schedule takes the number of the first. -/
def renumbered : List (ℕ × Op) := [
  (0, .createSchedule carol usdc alice 10 terms),
  (0, .initializeContract admin),
  (0, .createSchedule carol usdc alice 20 terms)]

theorem index_renumbered :
    ¬ ∀ (s : State Balances) (beneficiary : Address), Reachable asset contract s →
      (beneficiaryScheduleIds s beneficiary).Nodup ∧
      ∀ id, id ∈ beneficiaryScheduleIds s beneficiary ↔
        ∃ schedule, s.schedule.get? id = some schedule ∧ schedule.beneficiary = beneficiary := by
  have h : After (fun s => beneficiaryScheduleIds s alice = [1, 1]) (run renumbered) := by
    decide +kernel
  obtain ⟨s, hs, hids⟩ := h.exists_ok
  intro hall
  have hreach : Reachable asset contract s := ⟨_, execute_steps _ (fun _ _ _ => trivial) hs⟩
  obtain ⟨hnodup, -⟩ := hall s alice hreach
  rw [hids] at hnodup
  exact absurd hnodup (by decide)

end Runs

end TokenVesting
