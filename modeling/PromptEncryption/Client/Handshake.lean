import PromptEncryption.Proto.Json
import PromptEncryption.Client.Validator

/-!
# Client — the attestation exchange

`_process_attestation_response` and the body of `_perform_attestation_handshake`
(`client/connection.py`), as functions of what the server answers: the request for a nonce, and
what the client makes of the HTTP response to it.

* `exchange_eq_ok`: the exchange succeeds exactly where the response parses, the keying material
  is exported and `validate` returns.
-/

namespace PromptEncryption.Client
open Python

/-- What the client reads of an HTTP response; `data` is its body, if it can be read. -/
structure HttpResponse where
  data : Except Exc Bytes
  status : Nat
  contentType : Option String

/-- `attestation_req`. -/
def attestationRequest (nonce : Bytes) : AttestConnectionRequest where
  requiredVerifierType := [.gca]
  nonce := nonce

/-- `_process_attestation_response`. -/
def processAttestationResponse (J : JsonFormat) (response : HttpResponse) :
    Except Exc AttestConnectionResponse :=
  wrapAs .exception
    (fun _ => ⟨attestationHandshakeError, [.text "Connection error reading response"]⟩) do
      let responseBody ← response.data
      raiseIf (response.status ≠ 200) ⟨attestationHandshakeError,
        [.text "Server returned ", .str (.int response.status), .text " during attestation: ",
          .bytes responseBody]⟩
      let json ← isIn "application/json" (.str (response.contentType.getD ""))
      if json then
        let jsonDict ← J.loadsBytes responseBody
        J.parseResponse jsonDict
      else J.responseFromString responseBody

/-- The `try` of `_perform_attestation_handshake`, from the response on, at the exporter of the
connection's socket. -/
def exchange (J : JsonFormat) (v : AttestationValidator)
    (ekmExporter : Nat → Bytes → Bytes → Except Exc Bytes) (nonce : Bytes)
    (received : Except Exc HttpResponse) : Except Exc Unit :=
  wrapAs .osError
    (fun _ => ⟨attestationHandshakeError, [.text "Network error during attestation"]⟩) do
      let response ← received
      let attestResp ← processAttestationResponse J response
      let tlsEkm ← ekmExporter EKM_LENGTH EKM_LABEL nonce
      validate v attestResp tlsEkm none

/-- **The exchange succeeds exactly where what was received is accepted.** -/
theorem exchange_eq_ok {J : JsonFormat} {v : AttestationValidator}
    {ekmExporter : Nat → Bytes → Bytes → Except Exc Bytes} {nonce : Bytes}
    {received : Except Exc HttpResponse} :
    exchange J v ekmExporter nonce received = .ok () ↔
      ∃ response attestResp tlsEkm, received = .ok response ∧
        processAttestationResponse J response = .ok attestResp ∧
        ekmExporter EKM_LENGTH EKM_LABEL nonce = .ok tlsEkm ∧
        validate v attestResp tlsEkm none = .ok () := by
  simp only [exchange, wrapAs_eq_ok, bind_eq_ok]
  constructor
  · rintro ⟨response, h₁, attestResp, h₂, tlsEkm, h₃, h₄⟩
    exact ⟨response, attestResp, tlsEkm, h₁, h₂, h₃, h₄⟩
  · rintro ⟨response, attestResp, tlsEkm, h₁, h₂, h₃, h₄⟩
    exact ⟨response, h₁, attestResp, h₂, tlsEkm, h₃, h₄⟩

/-- A JSON response of status 200. -/
theorem processAttestationResponse_json {J : JsonFormat} {body : Bytes} {json : Json}
    {attestResp : AttestConnectionResponse} (hload : J.loadsBytes body = .ok json)
    (hparse : J.parseResponse json = .ok attestResp) :
    processAttestationResponse J ⟨.ok body, 200, some "application/json"⟩ = .ok attestResp := by
  rw [processAttestationResponse, wrapAs_eq_ok]
  simp only [bind_eq_ok, exists_unit, raiseIf_eq_ok, Except.ok.injEq, exists_eq_left']
  have hjson : isIn "application/json" (.str "application/json") = .ok true := rfl
  refine ⟨fun h => h rfl, true, hjson, ?_⟩
  rw [if_pos rfl]
  exact bind_eq_ok.mpr ⟨json, hload, hparse⟩

/-- What decoding a response raises is derived from `Exception`. -/
structure DecodesOrdinarily (J : JsonFormat) : Prop where
  loadsBytes : ∀ b, Raises .exception (J.loadsBytes b)
  parseResponse : ∀ d, Raises .exception (J.parseResponse d)
  responseFromString : ∀ b, Raises .exception (J.responseFromString b)

theorem processAttestationResponse_raises {J : JsonFormat} (h : DecodesOrdinarily J)
    {response : HttpResponse} (hdata : Raises .exception response.data) :
    Raises .exception (processAttestationResponse J response) := by
  refine .wrapAs (.bind hdata fun body => .bind (.raiseIf rfl) fun _ => .bind .isIn fun json => ?_)
    fun _ _ => rfl
  split
  · exact .bind (h.loadsBytes body) fun _ => h.parseResponse _
  · exact h.responseFromString body

end PromptEncryption.Client
