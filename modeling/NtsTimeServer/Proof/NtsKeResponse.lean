import NtsTimeServer.Lib.Memory
import NtsTimeServer.Proof.Cookie
import NtsTimeServer.Proof.NtsKeRequest

namespace NtsTimeServer.Proof
open Model Lib

structure Written (records : List Record) (response : KeResponse) : Prop where
  capacity : response.buffer.length = ntsKeResponseMax
  length : response.used = (encodeRecords records).length
  fits : response.used ≤ ntsKeResponseMax
  bytes : response.buffer.take response.used = encodeRecords records

theorem wireType_eq {type : Nat} (small : type < 0x8000) (critical : Bool) (body : Bytes) :
    (if critical then type &&& 0x7FFF ||| 0x8000 else type &&& 0x7FFF) =
      Record.tag ⟨critical, type, body⟩ := by
  have masked : type &&& 0x7FFF = type := by
    rw [Nat.and_two_pow_sub_one_eq_mod _ 15, Nat.mod_eq_of_lt small]
  have set : type ||| 0x8000 = 0x8000 + type := by
    rw [Nat.or_comm]
    exact (Nat.two_pow_add_eq_or_of_lt (i := 15) small 1).symm
  rw [masked, set, Record.tag]
  cases critical with
  | false => simp
  | true => rfl

theorem appendRecord_room {response : KeResponse} {type : Nat} (small : type < 0x8000) (critical : Bool)
    {body : Bytes} (short : body.length ≤ 65535)
    (room : response.used + (4 + body.length) ≤ response.buffer.length) :
    appendRecord response type critical body = (.ok (), {
      buffer := writeAt response.buffer response.used (Record.encode ⟨critical, type, body⟩)
      used := response.used + (4 + body.length) }) := by
  have within : response.used ≤ response.buffer.length := by omega
  rw [appendRecord, if_neg (by omega), if_neg (by omega)]
  simp only [wireType_eq small critical body]
  rw [writeAt_writeAt within (by rw [beBytes_length]), writeAt_writeAt within (by simp), List.append_assoc,
    Nat.add_assoc]
  rfl

theorem appendRecord_full {response : KeResponse} {type : Nat} {critical : Bool} {body : Bytes}
    (full : response.buffer.length < response.used + (4 + body.length)) :
    ∃ err, appendRecord response type critical body = (.error err, response) := by
  rw [appendRecord]
  split
  · exact ⟨_, rfl⟩
  · rw [if_pos (by omega)]
    exact ⟨_, rfl⟩

theorem Written.append {records : List Record} {response : KeResponse} (written : Written records response)
    (record : Record) (small : record.type < 0x8000)
    (room : (encodeRecords (records ++ [record])).length ≤ ntsKeResponseMax) :
    ∃ next, appendRecord response record.type record.critical record.body = (.ok (), next) ∧
      Written (records ++ [record]) next := by
  obtain ⟨capacity, length, fits, bytes⟩ := written
  have longer : (encodeRecords (records ++ [record])).length =
      response.used + (4 + record.body.length) := by
    simp [length]
  have max : ntsKeResponseMax = 4096 := rfl
  have inside : response.used + record.encode.length ≤ response.buffer.length := by
    rw [Record.encode_length]
    omega
  have short : record.body.length ≤ 65535 := by omega
  refine ⟨_, appendRecord_room small record.critical short (by omega), ?_, longer.symm, ?_, ?_⟩
  · exact (writeAt_length inside).trans capacity
  · exact longer ▸ room
  · have taken := @take_writeAt _ record.encode _ (capacity ▸ fits : response.used ≤ _)
    rw [Record.encode_length, bytes] at taken
    rw [encodeRecords_append, encodeRecords_cons, encodeRecords_nil, List.append_nil]
    exact taken

theorem Written.refused {records : List Record} {response : KeResponse} (written : Written records response)
    {record : Record} (full : ¬(encodeRecords (records ++ [record])).length ≤ ntsKeResponseMax) :
    ∃ err, appendRecord response record.type record.critical record.body = (.error err, response) := by
  apply appendRecord_full
  rw [written.capacity, written.length]
  simp at full
  omega

theorem written_nothing {buffer : Bytes} (capacity : buffer.length = ntsKeResponseMax) :
    Written [] ⟨buffer, 0⟩ := ⟨capacity, rfl, Nat.zero_le _, rfl⟩

def errorRecords (code : Nat) : List Record :=
  [⟨true, ntsKeRecordError, beBytes 2 code⟩, endRecord]

theorem buildErrorResponse_written {response : KeResponse}
    (capacity : response.buffer.length = ntsKeResponseMax) (code : Nat) :
    Written (errorRecords code) (buildErrorResponse code response).2 := by
  obtain ⟨first, appended, written⟩ := (written_nothing capacity).append
    ⟨true, ntsKeRecordError, beBytes 2 code⟩ (by simp [ntsKeRecordError])
    (by simp [ntsKeResponseMax])
  obtain ⟨last, ended, written⟩ := written.append endRecord (by decide)
    (by simp [ntsKeResponseMax])
  rw [buildErrorResponse]
  simp only [appended, ended]
  exact written

/-! ## Cookies -/

def cookieRecord (cookie : Bytes) : Record := ⟨false, ntsKeRecordNewCookie, cookie⟩

variable {aead : Aead} {env : KeEnv}

def Created (aead : Aead) (env : KeEnv) (keys : CookieKeys) (indices : List Nat) (cookies : List Bytes) :
    Prop := indices.map (env.cookie aead keys) = cookies.map .ok

theorem created_cons {keys : CookieKeys} {index : Nat} {indices : List Nat} {cookies : List Bytes} :
    Created aead env keys (index :: indices) cookies ↔ ∃ cookie rest, cookies = cookie :: rest ∧
      env.cookie aead keys index = .ok cookie ∧ Created aead env keys indices rest := by
  rw [Created, List.map_cons]
  cases cookies with
  | nil => simp
  | cons cookie rest => simp [Created]

inductive Built (wanted : List Record → Prop) : KeResult → Prop
  | written {records : List Record} {next : KeResponse} : wanted records → Written records next →
      Built wanted (.ok (), next)
  | failed {err : EspErr} {next : KeResponse} :
      (∀ records, wanted records → ¬(encodeRecords records).length ≤ ntsKeResponseMax) →
      next.buffer.length = ntsKeResponseMax → Built wanted (.error err, next)

theorem Built.congr {wanted wanted' : List Record → Prop} {result : KeResult} (built : Built wanted result)
    (same : ∀ records, wanted records ↔ wanted' records) : Built wanted' result := by
  rwa [← funext fun records => propext (same records)]

theorem appendCookieRecords_built {keys : CookieKeys} {remaining : Nat}
    (few : remaining ≤ ntsKeCookieCount) {records : List Record} {response : KeResponse}
    (written : Written records response) :
    Built (fun all => ∃ cookies,
        Created aead env keys (List.range' (ntsKeCookieCount - remaining) remaining) cookies ∧
        all = records ++ cookies.map cookieRecord)
      (appendCookieRecords aead env keys remaining response) := by
  induction remaining generalizing records response with
  | zero => exact .written ⟨[], rfl, (List.append_nil _).symm⟩ written
  | succ remaining ih =>
      have next : ntsKeCookieCount - (remaining + 1) + 1 = ntsKeCookieCount - remaining := by omega
      rw [appendCookieRecords, List.range'_succ, next]
      simp only [created_cons]
      cases created : env.cookie aead keys (ntsKeCookieCount - (remaining + 1)) with
      | error err =>
          refine .failed ?_ written.capacity
          rintro all ⟨_, ⟨cookie, rest, -, made, -⟩, -⟩
          cases made
      | ok cookie =>
          have small : (cookieRecord cookie).type < 0x8000 := show ntsKeRecordNewCookie < 0x8000 by decide
          by_cases room : (encodeRecords (records ++ [cookieRecord cookie])).length ≤ ntsKeResponseMax
          · obtain ⟨appended, done, written⟩ := written.append _ small room
            simp only [cookieRecord] at done
            simp only [done]
            refine (ih (by omega) written).congr fun all => ?_
            constructor
            · rintro ⟨rest, made, rfl⟩
              exact ⟨cookie :: rest, ⟨cookie, rest, rfl, rfl, made⟩, by simp⟩
            · rintro ⟨_, ⟨_, rest, rfl, made, others⟩, rfl⟩
              cases made
              exact ⟨rest, others, by simp⟩
          · obtain ⟨err, full⟩ := written.refused room
            simp only [cookieRecord] at full
            simp only [full]
            refine .failed ?_ written.capacity
            rintro all ⟨_, ⟨_, rest, rfl, made, -⟩, rfl⟩ fits
            cases made
            rw [List.map_cons, List.append_cons, encodeRecords_append, List.length_append] at fits
            exact room (Nat.le_of_add_right_le fits)

/-! ## The response -/

def successRecords (cookies : List Bytes) : List Record :=
  ⟨true, ntsKeRecordNextProtocol, [0x00, 0x00]⟩ :: ⟨false, ntsKeRecordAeadAlgorithm, [0x00, 0x0F]⟩ ::
    (cookies.map cookieRecord ++ [endRecord])

structure Success (aead : Aead) (env : KeEnv) (keys : CookieKeys) (cookies : List Bytes) : Prop where
  exported : env.exportC2s = some keys.c2sKey ∧ env.exportS2c = some keys.s2cKey
  metadata : ∃ generated, (ntsCookieGenerateKeys env.generate.1 env.generate.2
      ntsKeCookieLifetimeSeconds).1 = .ok generated ∧
    keys = { generated with c2sKey := keys.c2sKey, s2cKey := keys.s2cKey }
  created : Created aead env keys (List.range ntsKeCookieCount) cookies

theorem cookieKeys_ok_iff {keys : CookieKeys} :
    env.cookieKeys = .ok keys ↔
      (env.exportC2s = some keys.c2sKey ∧ env.exportS2c = some keys.s2cKey) ∧
      ∃ generated, (ntsCookieGenerateKeys env.generate.1 env.generate.2
          ntsKeCookieLifetimeSeconds).1 = .ok generated ∧
        keys = { generated with c2sKey := keys.c2sKey, s2cKey := keys.s2cKey } := by
  rw [KeEnv.cookieKeys]
  cases env.exportC2s with
  | none => simp
  | some c2sKey =>
      cases env.exportS2c with
      | none => simp
      | some s2cKey =>
          cases (ntsCookieGenerateKeys env.generate.1 env.generate.2 ntsKeCookieLifetimeSeconds).1 with
          | error err => simp
          | ok generated =>
              simp only [Except.ok.injEq, Option.some.injEq]
              constructor
              · rintro rfl
                exact ⟨⟨rfl, rfl⟩, generated, rfl, rfl⟩
              · rintro ⟨⟨rfl, rfl⟩, _, rfl, same⟩
                exact same.symm

theorem Success.cookieKeys {keys : CookieKeys} {cookies : List Bytes}
    (success : Success aead env keys cookies) : env.cookieKeys = .ok keys :=
  cookieKeys_ok_iff.mpr ⟨success.exported, success.metadata⟩

theorem created_unique {keys : CookieKeys} {indices : List Nat} {cookies cookies' : List Bytes}
    (created : Created aead env keys indices cookies) (created' : Created aead env keys indices cookies') :
    cookies = cookies' :=
  List.map_injective_iff.mpr (fun _ _ => Except.ok.inj) (created.symm.trans created')

theorem Success.unique {keys keys' : CookieKeys} {cookies cookies' : List Bytes}
    (success : Success aead env keys cookies) (success' : Success aead env keys' cookies') :
    keys = keys' ∧ cookies = cookies' := by
  obtain rfl := Except.ok.inj (success.cookieKeys.symm.trans success'.cookieKeys)
  exact ⟨rfl, created_unique success.created success'.created⟩

theorem buildSuccessResponse_built {response : KeResponse}
    (capacity : response.buffer.length = ntsKeResponseMax) :
    Built (fun all => ∃ keys cookies, Success aead env keys cookies ∧ all = successRecords cookies)
      (buildSuccessResponse aead env response) := by
  rw [buildSuccessResponse]
  cases made : env.cookieKeys with
  | error err =>
      refine .failed ?_ capacity
      rintro _ ⟨keys, cookies, success, -⟩
      rw [success.cookieKeys] at made
      cases made
  | ok keys =>
      obtain ⟨first, appended, written⟩ := (written_nothing capacity).append
        ⟨true, ntsKeRecordNextProtocol, [0x00, 0x00]⟩ (by decide) (by decide)
      obtain ⟨second, appended', written⟩ := written.append
        ⟨false, ntsKeRecordAeadAlgorithm, [0x00, 0x0F]⟩ (by decide) (by decide)
      have cookiesBuilt := @appendCookieRecords_built aead env keys _ le_rfl _ _ written
      rw [Nat.sub_self, ← List.range_eq_range'] at cookiesBuilt
      have split (cookies : List Bytes) : successRecords cookies =
          ([⟨true, ntsKeRecordNextProtocol, [0x00, 0x00]⟩] ++
            [⟨false, ntsKeRecordAeadAlgorithm, [0x00, 0x0F]⟩]) ++ cookies.map cookieRecord ++
              [endRecord] := rfl
      simp only [appended, appended']
      revert cookiesBuilt
      generalize appendCookieRecords aead env keys ntsKeCookieCount second = result
      intro cookiesBuilt
      cases cookiesBuilt with
      | written wanted written =>
          obtain ⟨cookies, created, rfl⟩ := wanted
          have success : Success aead env keys cookies :=
            ⟨(cookieKeys_ok_iff.mp made).1, (cookieKeys_ok_iff.mp made).2, created⟩
          by_cases room : (encodeRecords (successRecords cookies)).length ≤ ntsKeResponseMax
          · rw [split] at room
            obtain ⟨last, ended, written⟩ := written.append _ (by decide) room
            simp only [ended]
            exact .written ⟨keys, cookies, success, split cookies⟩ written
          · have full := room
            rw [split] at full
            obtain ⟨err, ended⟩ := written.refused full
            simp only [ended]
            refine .failed ?_ written.capacity
            rintro _ ⟨keys', cookies', success', rfl⟩
            obtain ⟨-, rfl⟩ := success.unique success'
            exact room
      | failed short capacity =>
          refine .failed ?_ capacity
          rintro _ ⟨keys', cookies, success, rfl⟩ fits
          obtain rfl := Except.ok.inj (success.cookieKeys.symm.trans made)
          rw [split, encodeRecords_append, List.length_append] at fits
          exact short _ ⟨cookies, success.created, rfl⟩ (Nat.le_of_add_right_le fits)

theorem cookie_created {keys : CookieKeys} {index : Nat} {cookie : Bytes}
    (created : env.cookie aead keys index = .ok cookie) :
    cookie.length = ntsCookieLen ∧ ∃ master nonce, sealCookie aead master keys nonce = .ok cookie := by
  obtain ⟨ring, -, -, sealed⟩ := ntsCookieCreate_ok (Prod.ext created rfl)
  exact ⟨sealCookie_length sealed, ring.active, _, sealed⟩

theorem created_each {keys : CookieKeys} {indices : List Nat} {cookies : List Bytes}
    (created : Created aead env keys indices cookies) :
    ∀ cookie ∈ cookies, ∃ index, env.cookie aead keys index = .ok cookie := by
  intro cookie member
  have listed : (.ok cookie : Except EspErr Bytes) ∈ indices.map (env.cookie aead keys) :=
    created ▸ List.mem_map_of_mem member
  obtain ⟨index, -, same⟩ := List.mem_map.mp listed
  exact ⟨index, same⟩

theorem Success.length {keys : CookieKeys} {cookies : List Bytes}
    (success : Success aead env keys cookies) : cookies.length = ntsKeCookieCount := by
  have lengths := congrArg List.length success.created
  simpa using lengths.symm

theorem encodeRecords_cookies_length {cookies : List Bytes}
    (lengths : ∀ cookie ∈ cookies, cookie.length = ntsCookieLen) :
    (encodeRecords (cookies.map cookieRecord)).length = cookies.length * (4 + ntsCookieLen) := by
  induction cookies with
  | nil => simp
  | cons cookie cookies ih =>
      obtain ⟨first, others⟩ := List.forall_mem_cons.mp lengths
      rw [List.map_cons, encodeRecords_cons, List.length_append, Record.encode_length, ih others,
        List.length_cons, Nat.succ_mul, Nat.add_comm, cookieRecord, first]

theorem Success.fits {keys : CookieKeys} {cookies : List Bytes}
    (success : Success aead env keys cookies) :
    (encodeRecords (successRecords cookies)).length ≤ ntsKeResponseMax := by
  have lengths : ∀ cookie ∈ cookies, cookie.length = ntsCookieLen := by
    intro cookie member
    obtain ⟨index, created⟩ := created_each success.created cookie member
    exact (cookie_created created).1
  have total := encodeRecords_cookies_length lengths
  rw [success.length] at total
  simp only [successRecords, encodeRecords_cons, encodeRecords_append, List.length_append,
    Record.encode_length, total]
  decide

inductive Answers (aead : Aead) (env : KeEnv) : EspErr × Bytes → List Record → Prop
  | unread {err : EspErr} {request : Bytes} : err ≠ .ok →
      Answers aead env (err, request) (errorRecords ntsKeErrorBadRequest)
  | badRequest {request : Bytes} : (parseRequest request).1 = .invalidResponse →
      Answers aead env (.ok, request) (errorRecords ntsKeErrorBadRequest)
  | unrecognizedCritical {request : Bytes} : (parseRequest request).1 = .notSupported →
      Answers aead env (.ok, request) (errorRecords ntsKeErrorUnrecognizedCritical)
  | failed {request : Bytes} : (parseRequest request).1 = .ok →
      (∀ keys cookies, ¬Success aead env keys cookies) →
      Answers aead env (.ok, request) (errorRecords ntsKeErrorInternalServer)
  | served {request : Bytes} {keys : CookieKeys} {cookies : List Bytes} :
      (parseRequest request).1 = .ok → Success aead env keys cookies → cookies.length = 8 →
      (∀ cookie ∈ cookies, ∃ master nonce, sealCookie aead master keys nonce = .ok cookie) →
      Answers aead env (.ok, request) (successRecords cookies)

theorem keRespond_answers (read : EspErr × Bytes) {response : KeResponse}
    (capacity : response.buffer.length = ntsKeResponseMax) :
    ∃ records, Written records (keRespond aead env read response) ∧ Answers aead env read records := by
  obtain ⟨err, request⟩ := read
  by_cases ok : err = .ok
  · subst ok
    by_cases accepted : (parseRequest request).1 = .ok
    · have built := @buildSuccessResponse_built aead env _ capacity
      simp only [keRespond, if_true, accepted]
      revert built
      generalize buildSuccessResponse aead env response = result
      intro built
      cases built with
      | written wanted written =>
          obtain ⟨keys, cookies, success, rfl⟩ := wanted
          refine ⟨_, written, .served accepted success success.length fun cookie member => ?_⟩
          obtain ⟨index, created⟩ := created_each success.created cookie member
          exact (cookie_created created).2
      | failed short capacity =>
          refine ⟨_, buildErrorResponse_written capacity _, .failed accepted fun keys cookies success => ?_⟩
          exact short _ ⟨keys, cookies, success, rfl⟩ success.fits
    · have names := parseRequest_namesError accepted
      simp only [keRespond, if_true, if_neg accepted]
      cases parsed : parseRequest request with
      | mk err state =>
          rw [parsed] at names
          cases names with
          | badRequest state =>
              exact ⟨_, buildErrorResponse_written capacity _, .badRequest (by rw [parsed])⟩
          | unrecognizedCritical state =>
              exact ⟨_, buildErrorResponse_written capacity _,
                .unrecognizedCritical (by rw [parsed])⟩
  · refine ⟨_, ?_, .unread ok⟩
    rw [keRespond, if_neg ok]
    exact buildErrorResponse_written capacity _

theorem written_sent {records : List Record} {response : KeResponse} (written : Written records response)
    (nonempty : records ≠ []) :
    (if response.used > 0 then some (response.buffer.take response.used) else none) =
      some (encodeRecords records) := by
  have positive : response.used > 0 := by
    rw [written.length]
    obtain ⟨record, rest, rfl⟩ := List.exists_cons_of_ne_nil nonempty
    rw [encodeRecords_cons, List.length_append, Record.encode_length]
    omega
  rw [if_pos positive, written.bytes]

theorem Answers.ne_nil {read : EspErr × Bytes} {records : List Record}
    (answers : Answers aead env read records) : records ≠ [] := by
  cases answers <;> exact List.cons_ne_nil _ _

theorem response_all_or_nothing (aead : Aead) (env : KeEnv) (reads : List TlsRead)
    (buffer : KeResponseBuffer) {read : EspErr × Bytes}
    (done : tlsReadRequest ntsKeRequestMax [] reads = some read) :
    ∃ records, handleClient aead env reads buffer = some (some (encodeRecords records)) ∧
      Answers aead env read records ∧ (encodeRecords records).length ≤ 4096 := by
  obtain ⟨records, written, answers⟩ := @keRespond_answers aead env read _
    (show (⟨buffer.bytes, 0⟩ : KeResponse).buffer.length = _ from buffer.length)
  refine ⟨records, ?_, answers, ?_⟩
  · rw [handleClient, done, Option.map_some]
    exact congrArg some (written_sent written answers.ne_nil)
  · rw [← written.length]
    exact written.fits

def keCookieEnv : CookieEnv :=
  ⟨⟨false, some 2000, randomBytes 6, .saved⟩, false, some 2000, fixedNonce, (fixedKey, fixedKey)⟩

def keyringLost : KeEnv where
  exportC2s := some fixedKey
  exportS2c := some fixedKey
  generate := (some (newKeyring 1000 (randomBytes 1)), keCookieEnv)
  create index := (if index < 3 then some (newKeyring 1000 (randomBytes 1)) else none, keCookieEnv)

def zeroBuffer : KeResponseBuffer := ⟨List.replicate 4096 0, List.length_replicate⟩

theorem keyringLost_answered :
    ∃ records, handleClient keyedAead keyringLost [.received smallRequest] zeroBuffer =
        some (some (encodeRecords records)) ∧
      Answers keyedAead keyringLost (.ok, smallRequest) records ∧
      (encodeRecords records).length ≤ 4096 :=
  response_all_or_nothing keyedAead keyringLost [.received smallRequest] zeroBuffer (by decide +kernel)

end NtsTimeServer.Proof
