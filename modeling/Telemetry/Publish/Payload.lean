import Telemetry.Error

/-!
# Payloads

What a publisher hands to a sender, and what the sender answers.
-/

namespace Telemetry

/-- A body with the number of records in it, and where and how it is to be sent. -/
structure Payload where
  uri : Option String
  headers : List (String × String)
  contentType : Option String
  records : Nat
  body : String
deriving DecidableEq, Repr

namespace Payload

/-- A body and nothing else. -/
def new (body : String) (records : Nat) : Payload := ⟨none, [], none, records, body⟩

/-- The payload with an address. -/
def withUri (p : Payload) (uri : String) : Payload := { p with uri := some uri }

/-- The payload with one more header. -/
def withHeader (p : Payload) (name value : String) : Payload :=
  { p with headers := p.headers ++ [(name, value)] }

/-- The payload with a content type. -/
def withContentType (p : Payload) (contentType : String) : Payload :=
  { p with contentType := some contentType }

/-- The value of the first header with a name, in which upper and lower case of the letters from a
to z do not differ. -/
def header? (p : Payload) (name : String) : Option String :=
  (p.headers.find? fun h => h.1.toLower == name.toLower).map (·.2)

end Payload

/-- What a service answered to a payload. -/
structure Response where
  code : Nat
  body : String
deriving DecidableEq, Repr

/-- Whether the payload was accepted: its code is one of the two hundreds. -/
def Response.isSuccess (r : Response) : Bool := decide (200 ≤ r.code ∧ r.code ≤ 299)

/-- How a send ends: with a response, or because of the transport. -/
abbrev Answer := Except SendError Response

end Telemetry
