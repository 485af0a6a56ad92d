import Wardnet.Common.Dns
import Wardnet.Common.Error

/-!
# Callers

Who makes a call, and the check that it is an admin.
-/

namespace Wardnet

inductive UserRole
  | admin
  | member
  deriving DecidableEq

inductive AuthContext
  | user (id : Uuid) (role : UserRole)
  | device (mac : Text)
  | anonymous
  deriving DecidableEq

def AuthContext.isAdmin : AuthContext → Bool
  | .user _ role => role = .admin
  | .device _ | .anonymous => false

def requireAdmin (caller : AuthContext) : Except AppError Unit :=
  ensure caller.isAdmin (.forbidden "admin privileges required")

end Wardnet
