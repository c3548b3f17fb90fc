import ControlPlane.Node.Coordination

/-!
# The record of the master

When a master starts it writes its own record. A failure is reported as a chain of texts: what
was tried, what went wrong, and the causes of that.
-/

set_option autoImplicit false

namespace ControlPlane.Bootstrap

/-- The texts of a failed start. -/
def chain (key : String) (e : CoordinationError) : String :=
  String.intercalate ": " (("failed to upsert master node " ++ key) :: e.message :: e.causes)

/-- Writes the record of the master. -/
def run (key hostname : String) : Attempt String Node :=
  .of (Directory.upsertMaster { key, hostname }) (chain key)

end ControlPlane.Bootstrap
