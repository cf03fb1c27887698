import TopicSink.Act

namespace TopicSink

structure Response where
  status : Json
  body : Json

namespace Response

def toJson (r : Response) : Json := .obj [("statusCode", r.status), ("body", r.body)]

/-- What a failure says, and the rejected documents that it tells of. -/
structure Detail where
  text : Text
  failures : Option (List Json)

def Detail.members (d : Detail) : Members :=
  ("detail", .str d.text) :: match d.failures with
    | some fs => [("failures", .arr fs)]
    | none => []

def failureBody (message : Text) (detail : Option Detail) : Json :=
  .obj (("error", .str message) :: (detail.map Detail.members).getD [])

def ofMessage {σ : Type} (logger : Text) (status : Json) (message : Text) : Act σ Response := do
  Act.log ⟨.error, logger, .ok message, none⟩
  pure ⟨status, failureBody message none⟩

/-- Responds to a fault and logs it. The response needs the message of the fault, the log line does
not. -/
def ofFault {σ : Type} (logger : Text) (status : Json) (message : Text) (f : Fault) :
    Act σ Response := do
  Act.log (.ofFault logger message f)
  let text ← Act.ofExcept f.told
  pure ⟨status, failureBody message (some ⟨text, f.failures⟩)⟩

end Response

end TopicSink
