import ControlPlane.Envelope.Basic

/-!
# JSON of envelopes

Envelopes as JSON objects in which every field has to be given, byte strings as arrays of
numbers, and the names of codes, methods and kinds.
-/

set_option autoImplicit false

namespace ControlPlane

open Json Json.Format

/-- A byte string is written as the array of its octets. -/
def Bytes.format : Format Bytes := list uint8

def Kind.format : Format Kind := cases all title

def ErrorCode.format : Format ErrorCode := cases all title

def ResponseCode.format : Format ResponseCode := cases all title

def StreamCode.format : Format StreamCode := cases all title

def DelegateMethod.format : Format DelegateMethod := cases all title

def Request.layout : Layout Request where
  blank := {}
  isStrict := true
  fields := [
    field "node_key" string (·.nodeKey) fun a r => { r with nodeKey := a },
    field "data" Bytes.format (·.data) fun a r => { r with data := a }]

def Response.layout : Layout Response where
  blank := {}
  isStrict := true
  fields := [
    field "code" ResponseCode.format (·.code) fun a r => { r with code := a },
    field "error_code" int32 (·.errorCode) fun a r => { r with errorCode := a },
    field "message" string (·.message) fun a r => { r with message := a },
    field "data" Bytes.format (·.data) fun a r => { r with data := a }]

def StreamMessage.layout : Layout StreamMessage where
  blank := {}
  isStrict := true
  fields := [
    field "code" int32 (·.code) fun a m => { m with code := a },
    field "node_key" string (·.nodeKey) fun a m => { m with nodeKey := a },
    field "key" string (·.key) fun a m => { m with key := a },
    field "from" string (·.sender) fun a m => { m with sender := a },
    field "to" string (·.receiver) fun a m => { m with receiver := a },
    field "data" Bytes.format (·.data) fun a m => { m with data := a }]

def DelegateMessage.layout : Layout DelegateMessage where
  blank := {}
  isStrict := true
  fields := [
    field "model_id" int32 (·.modelId) fun a m => { m with modelId := a },
    field "method" int32 (·.method) fun a m => { m with method := a },
    field "data" Bytes.format (·.data) fun a m => { m with data := a }]

end ControlPlane
