import RealtimeChat.Basic

/-! Roles and permissions.

A role's grants are written as those of the tier below plus its own, as in the
source; the bit mask there is a list here.
-/

set_option autoImplicit false

namespace RealtimeChat.Security

inductive Role where
  | user
  | moderator
  | admin
  | superAdmin
  deriving DecidableEq, Repr

def Role.rank : Role → Nat
  | .user => 0
  | .moderator => 1
  | .admin => 2
  | .superAdmin => 3

def defaultRole : Role := .user

def Role.toString : Role → String
  | .user => "user"
  | .moderator => "moderator"
  | .admin => "admin"
  | .superAdmin => "super_admin"

def parseRole (name : String) : Option Role :=
  if name = "user" then some .user
  else if name = "moderator" then some .moderator
  else if name = "admin" then some .admin
  else if name = "super_admin" then some .superAdmin
  else none

theorem parseRole_toString (role : Role) : parseRole role.toString = some role := by
  cases role <;> rfl

inductive Permission where
  | deleteAnyMessage
  | editAnyMessage
  | viewAnyConversation
  | manageGroups
  | banUsers
  | manageUsers
  | manageRoles
  | viewSessions
  | revokeSessions
  | viewAuditLogs
  | viewSystemMetrics
  | manageFeatureFlags
  deriving DecidableEq, Repr

def Permission.toString : Permission → String
  | .deleteAnyMessage => "message.delete_any"
  | .editAnyMessage => "message.edit_any"
  | .viewAnyConversation => "conversation.view_any"
  | .manageGroups => "group.manage"
  | .banUsers => "user.ban"
  | .manageUsers => "user.manage"
  | .manageRoles => "user.manage_roles"
  | .viewSessions => "session.view"
  | .revokeSessions => "session.revoke"
  | .viewAuditLogs => "audit.view"
  | .viewSystemMetrics => "system.metrics"
  | .manageFeatureFlags => "system.feature_flags"

def userGrants : List Permission := []

def moderatorGrants : List Permission :=
  userGrants ++ [.deleteAnyMessage, .editAnyMessage, .manageGroups]

def adminGrants : List Permission :=
  moderatorGrants ++ [.viewAnyConversation, .banUsers, .manageUsers, .viewSessions, .revokeSessions,
    .viewAuditLogs, .viewSystemMetrics]

def superAdminGrants : List Permission := adminGrants ++ [.manageRoles, .manageFeatureFlags]

def roleGrants : Role → List Permission
  | .user => userGrants
  | .moderator => moderatorGrants
  | .admin => adminGrants
  | .superAdmin => superAdminGrants

def hasPermission (role : Role) (permission : Permission) : Bool := permission ∈ roleGrants role

/-- The comparison lets a role through that is the actor's own. -/
def canAssignRole (actor target : Role) : Bool :=
  hasPermission actor .manageRoles && target.rank ≤ actor.rank

theorem hasPermission_manageRoles {role : Role} : hasPermission role .manageRoles = true ↔ role = .superAdmin := by
  cases role <;> decide

/-- `require_permission` once the role is known. -/
def requirePermission (role : Role) (permission : Permission) : Result Unit :=
  if hasPermission role permission then .ok ()
  else .error ⟨.authorization, "Insufficient permissions",
    "required=" ++ permission.toString ++ " role=" ++ role.toString⟩

end RealtimeChat.Security
