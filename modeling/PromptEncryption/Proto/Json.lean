import PromptEncryption.Proto.Messages
import PromptEncryption.Support.Python

/-!
# Proto — the messages as JSON

`json` and `google.protobuf.json_format`, as both ends use them, are a parameter (`JsonFormat`).
`JsonFormat.Inverse` is what an exchange relies on: what one end encodes the other decodes.
-/

namespace PromptEncryption
open Python

abbrev parseError : ExcClass := .derived "ParseError" (.derived "Error" .exception)

/-- The JSON text of values, and the JSON form of the messages. -/
structure JsonFormat where
  /-- `json.loads`, at a string. -/
  loads : String → Except Exc Json
  /-- `json.loads`, at bytes. -/
  loadsBytes : Bytes → Except Exc Json
  /-- `json.dumps(…).encode("utf-8")`. -/
  dumps : Json → Bytes
  /-- `MessageToJson`, at a request. -/
  requestToJson : AttestConnectionRequest → Bytes
  /-- `ParseDict(…, AttestConnectionRequest(), ignore_unknown_fields=True)`. -/
  parseRequest : Dict → Except Exc AttestConnectionRequest
  /-- `MessageToDict`, at a response. -/
  responseToDict : AttestConnectionResponse → Dict
  /-- `ParseDict(…, AttestConnectionResponse(), ignore_unknown_fields=True)`. -/
  parseResponse : Json → Except Exc AttestConnectionResponse
  /-- `AttestConnectionResponse.FromString`. -/
  responseFromString : Bytes → Except Exc AttestConnectionResponse

/-- A format that decodes nothing, for runs in which nothing is decoded. -/
instance : Inhabited JsonFormat where
  default :=
    { loads := fun _ => .error ⟨.jsonDecodeError, []⟩
      loadsBytes := fun _ => .error ⟨.jsonDecodeError, []⟩
      dumps := fun _ => []
      requestToJson := fun _ => []
      parseRequest := fun _ => .error ⟨parseError, []⟩
      responseToDict := fun _ => []
      parseResponse := fun _ => .error ⟨parseError, []⟩
      responseFromString := fun _ => .error ⟨parseError, []⟩ }

/-- Encoding and decoding are inverse on the exchange's messages. -/
structure JsonFormat.Inverse (J : JsonFormat) (request : AttestConnectionRequest)
    (response : AttestConnectionResponse) : Prop where
  /-- The request's text is non-empty UTF-8 for an object that parses back to the request. -/
  request_text : ∃ text d, J.requestToJson request ≠ [] ∧
    Bytes.decodeUtf8 (J.requestToJson request) = some text ∧ J.loads text = .ok (.dict d) ∧
    J.parseRequest d = .ok request
  /-- The response's text loads to the dictionary it was made of, which parses back to it. -/
  response_text :
    J.loadsBytes (J.dumps (.dict (J.responseToDict response))) =
      .ok (.dict (J.responseToDict response))
  response_dict : J.parseResponse (.dict (J.responseToDict response)) = .ok response

end PromptEncryption
