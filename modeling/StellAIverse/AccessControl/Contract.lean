import StellAIverse.Soroban.Run
import StellAIverse.Soroban.Store
import StellAIverse.Soroban.Token

/-!
# The access control contract

Roles, their holders, and for every role the role that administers it. Other
contracts ask `hasRole`. Events are left out.
-/

namespace AccessControl

open Soroban

inductive Role where
  | admin | minter | burner | pauser | governance
  deriving DecidableEq, Repr

inductive AccessControlError where
  | alreadyInitialized | unauthorized | invalidRole

def AccessControlError.code : AccessControlError → ℕ
  | alreadyInitialized => 1
  | unauthorized => 2
  | invalidRole => 3

instance : Coe AccessControlError Fault := ⟨fun e => .contract e.code⟩

structure State where
  initialized : Option Bool
  member : Store (Role × Address) Bool
  roleAdmin : Store Role Role

def deployed : State := ⟨none, .empty, .empty⟩

def allRoles : List Role := [.admin, .minter, .burner, .pauser, .governance]

theorem mem_allRoles (role : Role) : role ∈ allRoles := by cases role <;> decide

def hasRole (s : State) (role : Role) (account : Address) : Bool :=
  (s.member.get? (role, account)).isSome

def getRoleAdmin (s : State) (role : Role) : Result Role :=
  okOr (s.roleAdmin.get? role) AccessControlError.invalidRole

def requireRoleAdmin (s : State) (role : Role) (sender : Address) : Result Unit := do
  let adminRole ← okOr (s.roleAdmin.get? role) AccessControlError.invalidRole
  failIf (hasRole s adminRole sender = false) AccessControlError.unauthorized

def setMember (role : Role) (account : Address) (value : Bool) (s : State) : State :=
  if value = true then { s with member := s.member.set (role, account) true }
  else { s with member := s.member.remove (role, account) }

def initializeContract (env : Env) (admin : Address) (s : State) : Result State := do
  failIf (s.initialized.isSome = true) AccessControlError.alreadyInitialized
  requireAuth env admin
  let s := { s with
    initialized := some true
    roleAdmin := allRoles.foldl (fun admins role => admins.set role .admin) s.roleAdmin }
  .ok (setMember .admin admin true s)

def grantRole (env : Env) (role : Role) (account sender : Address) (s : State) :
    Result State := do
  requireAuth env sender
  requireRoleAdmin s role sender
  if hasRole s role account = false then .ok (setMember role account true s) else .ok s

def revokeRole (env : Env) (role : Role) (account sender : Address) (s : State) :
    Result State := do
  requireAuth env sender
  requireRoleAdmin s role sender
  if hasRole s role account = true then .ok (setMember role account false s) else .ok s

def setRoleAdmin (env : Env) (role adminRole : Role) (sender : Address) (s : State) :
    Result State := do
  requireAuth env sender
  requireRoleAdmin s role sender
  .ok { s with roleAdmin := s.roleAdmin.set role adminRole }

inductive Op where
  | initializeContract (admin : Address)
  | grantRole (role : Role) (account sender : Address)
  | revokeRole (role : Role) (account sender : Address)
  | setRoleAdmin (role adminRole : Role) (sender : Address)

def invoke (env : Env) (op : Op) (s : State) : Result State :=
  match op with
  | .initializeContract admin => initializeContract env admin s
  | .grantRole role account sender => grantRole env role account sender s
  | .revokeRole role account sender => revokeRole env role account sender s
  | .setRoleAdmin role adminRole sender => setRoleAdmin env role adminRole sender s

def next (a : Env × Op) (s : State) : Result State := invoke a.1 a.2 s

section Lemmas

variable {env : Env} {s s' : State} {role q : Role} {account sender : Address}

theorem hasRole_setMember (value : Bool) (x : Address) :
    hasRole (setMember role account value s) q x =
      if q = role ∧ x = account then value else hasRole s q x := by
  unfold hasRole setMember
  cases value with
  | true =>
    simp only [if_true, Store.get?_set, Prod.mk.injEq]
    split <;> rfl
  | false =>
    simp only [Bool.false_eq_true, if_false, Store.get?_remove, Prod.mk.injEq]
    split <;> rfl

@[simp] theorem setMember_initialized (value : Bool) :
    (setMember role account value s).initialized = s.initialized := by
  unfold setMember
  split <;> rfl

@[simp] theorem setMember_roleAdmin (value : Bool) :
    (setMember role account value s).roleAdmin = s.roleAdmin := by
  unfold setMember
  split <;> rfl

/-- Granting and revoking write what they were asked for, whether or not it was so already. -/
theorem hasRole_written (value : Bool) (x : Address) :
    hasRole (if hasRole s role account = !value then setMember role account value s else s) q x =
      if q = role ∧ x = account then value else hasRole s q x := by
  by_cases h : hasRole s role account = !value
  · rw [if_pos h, hasRole_setMember]
  · rw [if_neg h]
    split
    · rename_i hkey
      rw [hkey.1, hkey.2]
      simpa using h
    · rfl

theorem requireRoleAdmin_bind {β : Type} {f : Unit → Result β} {r : β} :
    (requireRoleAdmin s role sender >>= f) = .ok r ↔
      (∃ adminRole, s.roleAdmin.get? role = some adminRole ∧ hasRole s adminRole sender = true) ∧
        f () = .ok r := by
  unfold requireRoleAdmin
  cases hget : s.roleAdmin.get? role with
  | none => simp [okOr, bind, Except.bind]
  | some adminRole =>
    simp only [okOr, ok_bind, failIf_bind, Option.some.injEq, exists_eq_left', Bool.not_eq_false]

end Lemmas

end AccessControl
