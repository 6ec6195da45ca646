import NtsTimeServer.Lib.CString
import NtsTimeServer.Lib.Interaction
import NtsTimeServer.Model.DeviceConfig

/-!
# What the issuance of a certificate calls

Outside of `acme_client.c` and `cloudflare_client.c`: the HTTP client, the heap, the tasks, PSA, the NVS
namespace `acme`, and the two functions of `acme_client.c` that have models of their own.
-/

namespace NtsTimeServer.Model
open Lib

inductive HttpMethod
  | get | head | post | delete
  deriving DecidableEq, Repr

structure HttpRequest where
  method : HttpMethod
  url : Bytes
  headers : List (Bytes × Bytes)
  body : Option Bytes
  deriving DecidableEq, Repr

inductive HttpEvent
  | onHeader (key value : Bytes)
  | onData (data : Bytes)
  deriving DecidableEq, Repr

structure HttpAnswer where
  /-- whether there is a client -/
  client : Bool
  /-- `esp_http_client_set_method`, `_set_header` and `_set_post_field`, up to the first that fails -/
  setters : EspErr
  /-- `esp_http_client_perform`, if the setters succeed -/
  perform : EspErr
  /-- `esp_http_client_get_status_code` -/
  status : Int
  /-- while it is performed -/
  events : List HttpEvent

/-- A result of NVS; `ESP_ERR_NVS_NOT_FOUND` is not `ESP_ERR_NOT_FOUND`. -/
abbrev NvsResult := { err : EspErr // err ≠ .notFound }

inductive NvsAnswer (α : Type)
  | found (value : α)
  | notFound
  | failed (err : NvsResult) (fails : err.val ≠ .ok)

inductive IssuanceCall
  | calloc
  | taskCreate
  | taskDelay (milliseconds : Nat)
  | http (request : HttpRequest)
  /-- `psa_hash_compute` -/
  | sha256 (data : Bytes)
  /-- `psa_generate_key` and `psa_export_key` -/
  | generateKey
  /-- `psa_import_key` and `psa_export_public_key` -/
  | publicKey (privateKey : Bytes)
  /-- `psa_import_key` and `psa_sign_hash` -/
  | signHash (privateKey digest : Bytes)
  /-- `acme_storage_init` -/
  | storageInit
  | nvsOpen
  | nvsGetBlob (name : String)
  | nvsGetStr (name : String)
  | nvsSetBlob (name : String) (value : Bytes)
  | nvsSetStr (name : String) (value : Bytes)
  | nvsCommit
  /-- `build_csr_der` -/
  | buildCsr (hostname privateKey publicKey : Bytes)
  /-- `store_certificate_material` -/
  | storeCertificate (production : Bool) (hostname privateKey pem : Bytes)
  deriving DecidableEq, Repr

@[reducible] def IssuanceCall.Answer : IssuanceCall → Type
  | .calloc | .taskCreate => Bool
  | .taskDelay _ => Unit
  | .http _ => HttpAnswer
  | .sha256 _ | .generateKey | .publicKey _ | .signHash _ _ => Option Bytes
  | .storageInit => EspErr
  | .nvsOpen | .nvsSetBlob _ _ | .nvsSetStr _ _ | .nvsCommit => NvsResult
  | .nvsGetBlob _ | .nvsGetStr _ => NvsAnswer Bytes
  | .buildCsr _ _ _ => EspErr × Bytes
  | .storeCertificate _ _ _ _ => EspErr

abbrev Issuance (α : Type) := Interaction IssuanceCall IssuanceCall.Answer α

abbrev IssuanceHistory := Interaction.History IssuanceCall IssuanceCall.Answer

namespace Issuance
open Interaction

abbrev calloc : Issuance Bool := ask IssuanceCall.calloc
abbrev taskCreate : Issuance Bool := ask IssuanceCall.taskCreate
abbrev taskDelay (milliseconds : Nat) : Issuance Unit := ask (IssuanceCall.taskDelay milliseconds)
abbrev http (request : HttpRequest) : Issuance HttpAnswer := ask (IssuanceCall.http request)
abbrev sha256 (data : Bytes) : Issuance (Option Bytes) := ask (IssuanceCall.sha256 data)
abbrev generateKey : Issuance (Option Bytes) := ask IssuanceCall.generateKey
abbrev publicKey (privateKey : Bytes) : Issuance (Option Bytes) := ask (IssuanceCall.publicKey privateKey)
abbrev signHash (privateKey digest : Bytes) : Issuance (Option Bytes) := ask (IssuanceCall.signHash privateKey digest)
abbrev storageInit : Issuance EspErr := ask IssuanceCall.storageInit
abbrev nvsOpen : Issuance NvsResult := ask IssuanceCall.nvsOpen
abbrev nvsGetBlob (name : String) : Issuance (NvsAnswer Bytes) := ask (IssuanceCall.nvsGetBlob name)
abbrev nvsGetStr (name : String) : Issuance (NvsAnswer Bytes) := ask (IssuanceCall.nvsGetStr name)
abbrev nvsSetBlob (name : String) (value : Bytes) : Issuance NvsResult := ask (IssuanceCall.nvsSetBlob name value)
abbrev nvsSetStr (name : String) (value : Bytes) : Issuance NvsResult := ask (IssuanceCall.nvsSetStr name value)
abbrev nvsCommit : Issuance NvsResult := ask IssuanceCall.nvsCommit
abbrev buildCsr (hostname privateKey publicKey : Bytes) : Issuance (EspErr × Bytes) :=
  ask (IssuanceCall.buildCsr hostname privateKey publicKey)
abbrev storeCertificate (production : Bool) (hostname privateKey pem : Bytes) : Issuance EspErr :=
  ask (IssuanceCall.storeCertificate production hostname privateKey pem)

end Issuance

/-- `snprintf` into `size` bytes; none where the text does not fit. -/
def printed (size : Nat) (text : Bytes) : Option Bytes := if text.length ≥ size then none else some text

end NtsTimeServer.Model
