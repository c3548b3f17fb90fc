import ControlPlane.ErrorCode

/-!
# Stream errors

What can go wrong on a stream, in the registry of streams, and in the routing of messages between
them. The end of a stream by its peer or by cancellation is no failure.
-/

set_option autoImplicit false

namespace ControlPlane

inductive StreamError where
  | closed
  | cancelled
  | transport (reason : String)
  | codec (reason : String)
deriving DecidableEq, Repr

namespace StreamError

def message : StreamError → String
  | .closed => "Stream closed"
  | .cancelled => "Stream cancelled"
  | .transport reason => "Transport error: " ++ reason
  | .codec reason => "Frame decode error: " ++ reason

/-- The stream was ended on purpose. -/
def isCancellation : StreamError → Bool
  | .closed | .cancelled => true
  | .transport _ | .codec _ => false

end StreamError

/-- Nothing is registered under the key. -/
inductive RegistryError where
  | notFound (key : String)
deriving DecidableEq, Repr

def RegistryError.message : RegistryError → String
  | .notFound key => "No subscription for key " ++ key

/-- Why a message was not routed, or the loop that routes messages ended. -/
inductive RoutingError where
  | subscribeNotFound (destination : String)
  | writeFailed (destination : String) (e : StreamError)
  | transport (e : StreamError)
deriving DecidableEq, Repr

namespace RoutingError

def message : RoutingError → String
  | .subscribeNotFound key => "No subscription for destination " ++ key
  | .writeFailed key e => "Write to " ++ key ++ " failed: " ++ e.message
  | .transport e => "Stream receive failed: " ++ e.message

def code : RoutingError → ErrorCode
  | .subscribeNotFound _ => .subscribeNotFound
  | .writeFailed .. | .transport _ => .internalError

instance : Coded RoutingError := ⟨code, message⟩

end RoutingError
end ControlPlane
