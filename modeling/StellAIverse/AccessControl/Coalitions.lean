import StellAIverse.AccessControl.Contract
import StellAIverse.Soroban.Delegation

/-!
# What coalitions can do to roles

The administering roles form chains. A coalition can do anything to a role if a
member holds a role further up its chain, and nothing at all otherwise.
-/

namespace AccessControl

open Soroban

/-- Holders and administering roles; before initialization there are none. -/
def State.hierarchy (s : State) : Hierarchy Role Address where
  holds role account := hasRole s role account = true
  admin role := (s.roleAdmin.get? role).getD .admin

/-- Only members authorized the call. -/
def By (A : Set Address) (a : Env × Op) : Prop := ∀ x, a.1.authorized x = true → x ∈ A

/-- A run of calls that only members authorized. -/
def RunBy (A : Set Address) : State → State → Prop := Steps next fun _ => By A

/-- A member holds the role that administers this one, or one further up the chain. -/
def Reaches (A : Set Address) (s : State) (role : Role) : Prop :=
  ∃ n, ∃ a ∈ A, hasRole s (s.hierarchy.admin^[n] (s.hierarchy.admin role)) a = true

variable {A : Set Address} {a : Env × Op} {s s' : State} {role q : Role}
  {account sender : Address}

/-- Every role has an administering role. -/
structure Initialized (s : State) : Prop where
  flag : s.initialized.isSome = true
  administered : ∀ role, s.roleAdmin.get? role = some (s.hierarchy.admin role)

theorem initializeContract_initialized {env : Env} {admin : Address}
    (h : initializeContract env admin s = .ok s') : Initialized s' := by
  unfold initializeContract at h
  obtain ⟨-, h⟩ := failIf_bind.mp h
  obtain ⟨-, h⟩ := requireAuth_bind.mp h
  cases h
  refine ⟨rfl, fun role => ?_⟩
  simp only [State.hierarchy, setMember_roleAdmin, Store.get?_foldl_set, mem_allRoles, if_true,
    Option.getD_some]

/-- What a call of an administrator is to the hierarchy. -/
theorem admin_act {env : Env} (hi : Initialized s) (hauth : env.authorized sender = true)
    (hby : ∀ x, env.authorized x = true → x ∈ A)
    (hadmin : ∃ r, s.roleAdmin.get? role = some r ∧ hasRole s r sender = true)
    (hsame : ∀ r, r ≠ role → s.hierarchy.Same s'.hierarchy r) :
    s.hierarchy.Act A s'.hierarchy := by
  obtain ⟨r, hr, hholds⟩ := hadmin
  obtain rfl := Option.some.inj (hr.symm.trans (hi.administered role))
  exact ⟨role, ⟨sender, hby sender hauth, hholds⟩, hsame⟩

/-- A membership that was written leaves the other roles alone. -/
theorem setMember_same (value : Bool) (hq : q ≠ role) :
    s.hierarchy.Same (if hasRole s role account = !value then setMember role account value s
      else s).hierarchy q := by
  constructor
  · intro x
    simp only [State.hierarchy, hasRole_written, hq, false_and, if_false]
  · unfold State.hierarchy
    split <;> simp

theorem setMember_keeps (value : Bool) (hi : Initialized s) :
    Initialized (if hasRole s role account = !value then setMember role account value s
      else s) := by
  constructor
  · split
    · rw [setMember_initialized, hi.flag]
    · exact hi.flag
  · intro r
    have hr := hi.administered r
    unfold State.hierarchy at hr ⊢
    split <;> simpa using hr

/-- In an initialized state every completed call is an act on one role. -/
theorem next_act (hi : Initialized s) (hby : By A a) (h : next a s = .ok s') :
    Initialized s' ∧ s.hierarchy.Act A s'.hierarchy := by
  obtain ⟨env, op⟩ := a
  cases op with
  | initializeContract admin =>
    obtain ⟨hfresh, -⟩ := failIf_bind.mp h
    exact absurd hi.flag hfresh
  | grantRole role account sender =>
    obtain ⟨hauth, h⟩ := requireAuth_bind.mp h
    obtain ⟨hadmin, h⟩ := requireRoleAdmin_bind.mp h
    have hs' : s' = if hasRole s role account = !true then setMember role account true s
        else s := by
      simp only [Bool.not_true]
      split at h <;> simp_all
    subst hs'
    exact ⟨setMember_keeps true hi,
      admin_act hi hauth hby hadmin fun r hr => setMember_same true hr⟩
  | revokeRole role account sender =>
    obtain ⟨hauth, h⟩ := requireAuth_bind.mp h
    obtain ⟨hadmin, h⟩ := requireRoleAdmin_bind.mp h
    have hs' : s' = if hasRole s role account = !false then setMember role account false s
        else s := by
      simp only [Bool.not_false]
      split at h <;> simp_all
    subst hs'
    exact ⟨setMember_keeps false hi,
      admin_act hi hauth hby hadmin fun r hr => setMember_same false hr⟩
  | setRoleAdmin role adminRole sender =>
    obtain ⟨hauth, h⟩ := requireAuth_bind.mp h
    obtain ⟨hadmin, h⟩ := requireRoleAdmin_bind.mp h
    cases h
    refine ⟨⟨hi.flag, fun r => ?_⟩, admin_act hi hauth hby hadmin fun r hr => ⟨fun _ => Iff.rfl, ?_⟩⟩
    · have hr := hi.administered r
      simp only [State.hierarchy, Store.get?_set] at hr ⊢
      split
      · rfl
      · exact hr
    · simp only [State.hierarchy, Store.get?_set, hr, if_false]

/-- Before initialization no role has an administering role, so nothing else can be called. -/
def Uninitialized (s : State) : Prop :=
  s.initialized = none ∧ ∀ role, s.roleAdmin.get? role = none

theorem next_uninitialized (hu : Uninitialized s) (h : next a s = .ok s') : Initialized s' := by
  obtain ⟨env, op⟩ := a
  cases op with
  | initializeContract admin => exact initializeContract_initialized h
  | _ =>
    obtain ⟨-, h⟩ := requireAuth_bind.mp h
    obtain ⟨⟨r, hr, -⟩, -⟩ := requireRoleAdmin_bind.mp h
    rw [hu.2] at hr
    cases hr

/-- Every state in which `initialize` completed has an administering role for every role. -/
theorem initialized_of_run (h : Steps next (fun _ _ => True) deployed s)
    (hflag : s.initialized.isSome = true) : Initialized s := by
  have hs : Uninitialized s ∨ Initialized s := by
    refine h.preserves (P := fun s => Uninitialized s ∨ Initialized s)
      (fun s a s' _ hn hs => ?_) (.inl ⟨rfl, fun _ => rfl⟩)
    rcases hs with hu | hi
    · exact .inr (next_uninitialized hu hn)
    · exact .inr (next_act (A := Set.univ) hi (fun _ _ => trivial) hn).1
  rcases hs with hu | hi
  · rw [hu.1] at hflag
    cases hflag
  · exact hi

/-- Runs of a coalition that reaches no role above leave the role and all above it alone. -/
theorem runBy_frozen (hi : Initialized s) (hr : ¬ Reaches A s role) (h : RunBy A s s') :
    Initialized s' ∧ Hierarchy.Frozen s.hierarchy s'.hierarchy role := by
  refine h.preserves (P := fun t => Initialized t ∧ s.hierarchy.Frozen t.hierarchy role) ?_
    ⟨hi, Hierarchy.Frozen.refl _ _⟩
  intro t a t' hby hn ⟨ht, hf⟩
  obtain ⟨ht', hact⟩ := next_act ht hby hn
  exact ⟨ht', hf.act hr hact⟩

/-- The environment of a call that one account authorized. -/
def signedBy (x : Address) : Env := ⟨0, fun y => y = x⟩

theorem by_signedBy {x : Address} (hx : x ∈ A) (op : Op) : By A (signedBy x, op) := by
  intro y hy
  rw [of_decide_eq_true hy]
  exact hx

theorem requireRoleAdmin_of_holds (hi : Initialized s)
    (hholds : s.hierarchy.holds (s.hierarchy.admin role) sender) :
    requireRoleAdmin s role sender = .ok () := by
  unfold requireRoleAdmin failIf
  rw [hi.administered role]
  simp only [okOr, ok_bind]
  have hrole : hasRole s (s.hierarchy.admin role) sender = true := hholds
  simp [hrole]

/-- An administrator writes any membership of its role. -/
theorem exists_setMember (hi : Initialized s) (hs : sender ∈ A)
    (hholds : s.hierarchy.holds (s.hierarchy.admin role) sender) (account : Address)
    (value : Bool) :
    ∃ s', RunBy A s s' ∧ Initialized s' ∧ s' =
      if hasRole s role account = !value then setMember role account value s else s := by
  have hcheck := requireRoleAdmin_of_holds hi hholds
  have hauth : requireAuth (signedBy sender) sender = .ok () := if_pos (decide_eq_true rfl)
  refine ⟨_, ?_, setMember_keeps value hi, rfl⟩
  cases value with
  | true =>
    refine (Steps.refl s).tail (by_signedBy hs (.grantRole role account sender)) ?_
    simp only [next, invoke, grantRole, hauth, hcheck, ok_bind, Bool.not_true]
    split <;> rfl
  | false =>
    refine (Steps.refl s).tail (by_signedBy hs (.revokeRole role account sender)) ?_
    simp only [next, invoke, revokeRole, hauth, hcheck, ok_bind, Bool.not_false]
    split <;> rfl

theorem exists_setRoleAdmin (hi : Initialized s) (hs : sender ∈ A)
    (hholds : s.hierarchy.holds (s.hierarchy.admin role) sender) (adminRole : Role) :
    RunBy A s { s with roleAdmin := s.roleAdmin.set role adminRole } := by
  refine (Steps.refl s).tail (by_signedBy hs (.setRoleAdmin role adminRole sender)) ?_
  have hauth : requireAuth (signedBy sender) sender = .ok () := if_pos (decide_eq_true rfl)
  simp only [next, invoke, setRoleAdmin, hauth, requireRoleAdmin_of_holds hi hholds, ok_bind]

theorem hierarchy_grant (s : State) (q : Role) (x : Address) :
    (if hasRole s q x = !true then setMember q x true s else s).hierarchy =
      s.hierarchy.grant q x := by
  unfold State.hierarchy Hierarchy.grant
  congr 1
  · funext r y
    rw [hasRole_written]
    by_cases hkey : r = q ∧ y = x <;> simp [hkey]
  · funext r
    split <;> simp

/-- A coalition that reaches a role from above can come to administer it. -/
theorem runBy_administers (hi : Initialized s) (hr : Reaches A s role) :
    ∃ s', RunBy A s s' ∧ Initialized s' ∧
      ∃ x ∈ A, s'.hierarchy.holds (s'.hierarchy.admin role) x := by
  have hclimb := Hierarchy.climb
    (P := fun h => ∃ s', RunBy A s s' ∧ Initialized s' ∧ s'.hierarchy = h) ?_
    (show s.hierarchy.Rules A role from hr) ⟨s, .refl s, hi, rfl⟩
  · obtain ⟨h, ⟨s', hrun, hi', rfl⟩, -, hx⟩ := hclimb
    exact ⟨s', hrun, hi', hx⟩
  · rintro h q x ⟨t, hrun, ht, rfl⟩ hx hholds
    obtain ⟨t', hstep, ht', rfl⟩ := exists_setMember ht hx hholds x true
    exact ⟨_, hrun.trans hstep, ht', hierarchy_grant t q x⟩

theorem exists_hasRole (hi : Initialized s) (hr : Reaches A s role) (account : Address)
    (value : Bool) : ∃ s', RunBy A s s' ∧ hasRole s' role account = value := by
  obtain ⟨t, hclimb, ht, x, hx, hholds⟩ := runBy_administers hi hr
  obtain ⟨t', hstep, -, rfl⟩ := exists_setMember ht hx hholds account value
  refine ⟨_, hclimb.trans hstep, ?_⟩
  rw [hasRole_written]
  exact if_pos ⟨rfl, rfl⟩

/-- A coalition with a member in a role above can give the role any member, take it
from any member and put any role in charge of it. Without such a member, no run of it changes who
holds the role or which role administers it. -/
theorem coalition_power (A : Set Address) {s : State}
    (hrun : Steps next (fun _ _ => True) deployed s) (hflag : s.initialized.isSome = true)
    (role : Role) :
    (Reaches A s role →
      (∀ account value, ∃ s', RunBy A s s' ∧ hasRole s' role account = value) ∧
      ∀ adminRole, ∃ s', RunBy A s s' ∧ getRoleAdmin s' role = .ok adminRole) ∧
    (¬ Reaches A s role → ∀ s', RunBy A s s' →
      (∀ account, hasRole s' role account = hasRole s role account) ∧
        getRoleAdmin s' role = getRoleAdmin s role) := by
  have hi := initialized_of_run hrun hflag
  constructor
  · intro hr
    constructor
    · exact exists_hasRole hi hr
    · intro adminRole
      obtain ⟨t, hclimb, ht, x, hx, hholds⟩ := runBy_administers hi hr
      refine ⟨_, hclimb.trans (exists_setRoleAdmin ht hx hholds adminRole), ?_⟩
      unfold getRoleAdmin
      rw [Store.get?_set_self]
      rfl
  · intro hr s' h
    obtain ⟨hi', hf⟩ := runBy_frozen hi hr h
    refine ⟨fun account => Bool.eq_iff_iff.mpr (hf.same.1 account), ?_⟩
    unfold getRoleAdmin
    rw [hi'.administered, hi.administered, hf.same.2]

/-- The initial admin holds what is above every role; a minter alone changes nothing. -/
theorem coalition_power_minter :
    ∃ s, Steps next (fun _ _ => True) deployed s ∧ s.initialized.isSome = true ∧
      (∃ s', RunBy {⟨1⟩} s s' ∧ hasRole s' .governance ⟨7⟩ = true) ∧
      ∀ s', RunBy {⟨2⟩} s s' → hasRole s' .governance ⟨7⟩ = false := by
  obtain ⟨s, hs, hflag, hone, htwo, hnot, hadmin⟩ := After.exists_ok
    (P := fun s => s.initialized.isSome = true ∧ hasRole s .admin ⟨1⟩ = true ∧
      hasRole s .admin ⟨2⟩ = false ∧ hasRole s .governance ⟨7⟩ = false ∧
      ∀ role ∈ allRoles, s.roleAdmin.get? role = some .admin)
    (r := execute next [(signedBy ⟨1⟩, .initializeContract ⟨1⟩),
      (signedBy ⟨1⟩, .grantRole .minter ⟨2⟩ ⟨1⟩)] deployed) (by decide)
  have hrun : Steps next (fun _ _ => True) deployed s := execute_steps _ (fun _ _ _ => trivial) hs
  have habove : ∀ n, s.hierarchy.admin^[n] (s.hierarchy.admin .governance) = .admin := by
    intro n
    have hall : ∀ role, s.hierarchy.admin role = .admin := fun role => by
      simp [State.hierarchy, hadmin role (mem_allRoles role)]
    cases n with
    | zero => exact hall _
    | succ n => rw [Function.iterate_succ_apply', hall]
  refine ⟨s, hrun, hflag, ?_, ?_⟩
  · have hreach : Reaches {⟨1⟩} s .governance := ⟨0, ⟨1⟩, rfl, by rw [habove, hone]⟩
    exact ((coalition_power {⟨1⟩} hrun hflag .governance).1 hreach).1 ⟨7⟩ true
  · have hreach : ¬ Reaches {⟨2⟩} s .governance := by
      rintro ⟨n, x, rfl, hx⟩
      rw [habove, htwo] at hx
      cases hx
    intro s' h
    rw [((coalition_power {⟨2⟩} hrun hflag .governance).2 hreach s' h).1 ⟨7⟩, hnot]

end AccessControl
