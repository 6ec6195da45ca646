import NtsTimeServer.Model.NtpAuth
import NtsTimeServer.Proof.Cookie

namespace NtsTimeServer.Proof
open Model Lib

theorem readBe16_drop (bytes : Bytes) (offset past : Nat) :
    readBe16 (bytes.drop offset) past = readBe16 bytes (offset + past) := by
  rw [readBe16, readBe16, readBe, readBe, List.drop_drop]

theorem collectFields_framed {packet : Bytes} {offset : Nat} (framed : Framed (packet.drop offset))
    (fuel : Nat) (fields : RequestFields) :
    collectFields packet (fuel + 1) offset fields =
      match collectField fields offset (headField (packet.drop offset)) with
      | .error err => .error err
      | .ok fields => collectFields packet fuel (offset + readBe16 (packet.drop offset) 2) fields := by
  obtain ⟨header, least, aligned, fits⟩ := framed
  rw [List.length_drop] at header fits
  rw [readBe16_drop] at least aligned fits
  rw [collectFields, if_neg (by omega), if_neg (by omega)]
  dsimp only
  rw [if_neg (by omega), headField, readBe16_drop, readBe16_drop, List.drop_drop]
  rfl

theorem framed_of_collectFields {packet : Bytes} {fuel offset : Nat} {fields result : RequestFields}
    (more : offset < packet.length)
    (collected : collectFields packet (fuel + 1) offset fields = .ok result) :
    Framed (packet.drop offset) := by
  rw [collectFields, if_neg (by omega)] at collected
  split at collected
  · cases collected
  rename_i header
  dsimp only at collected
  split at collected
  · cases collected
  rename_i framing
  refine ⟨?_, ?_, ?_, ?_⟩ <;> simp only [readBe16_drop, List.length_drop] <;> omega

theorem collectFields_encodeFields {packet : Bytes} {fuel offset : Nat} {list : List Field}
    (wellFormed : ∀ field ∈ list, field.WellFormed) (rest : packet.drop offset = encodeFields list)
    (enough : packet.length - offset < fuel) (fields : RequestFields) :
    collectFields packet fuel offset fields = foldFields collectField offset fields list := by
  induction list generalizing fuel offset fields with
  | nil =>
      obtain ⟨fuel, rfl⟩ := Nat.exists_eq_succ_of_ne_zero (by omega : fuel ≠ 0)
      rw [collectFields, if_pos (List.drop_eq_nil_iff.mp rest), foldFields]
  | cons field list ih =>
      obtain ⟨wellFormedField, wellFormed⟩ := List.forall_mem_cons.mp wellFormed
      obtain ⟨fuel, rfl⟩ := Nat.exists_eq_succ_of_ne_zero (by omega : fuel ≠ 0)
      rw [encodeFields_cons] at rest
      have framed : Framed (packet.drop offset) := rest ▸ field.framed wellFormedField _
      have length : (packet.drop offset).length = packet.length - offset := List.length_drop
      rw [collectFields_framed framed, rest, headField_encode wellFormedField,
        field.readLength wellFormedField, ← Field.encode_length, foldFields]
      rw [rest, List.length_append, Field.encode_length] at length
      cases collectField fields offset field with
      | error err => rfl
      | ok fields =>
          refine ih wellFormed ?_ ?_ fields
          · rw [← List.drop_drop, rest]
            exact List.drop_left' rfl
          · rw [Field.encode_length]
            omega

theorem fields_of_collectFields {packet : Bytes} {fuel offset : Nat} {fields result : RequestFields}
    (collected : collectFields packet fuel offset fields = .ok result) :
    ∃ list, (∀ field ∈ list, Field.WellFormed field) ∧ packet.drop offset = encodeFields list := by
  induction fuel generalizing offset fields with
  | zero => cases collected
  | succ fuel ih =>
      by_cases ended : packet.length ≤ offset
      · exact ⟨[], by simp, List.drop_eq_nil_iff.mpr ended⟩
      · have framed := framed_of_collectFields (not_le.mp ended) collected
        rw [collectFields_framed framed] at collected
        split at collected
        · cases collected
        · obtain ⟨list, wellFormed, rest⟩ := ih collected
          refine ⟨headField (packet.drop offset) :: list,
            List.forall_mem_cons.mpr ⟨headField_wellFormed framed, wellFormed⟩, ?_⟩
          rw [encodeFields_cons, ← rest, ← List.drop_drop, framed.split]

def bodies (type : Nat) (fields : List Field) : List Bytes :=
  (fields.filter fun field => field.type = type).map Field.body

theorem mem_bodies {type : Nat} {fields : List Field} {body : Bytes} :
    body ∈ bodies type fields ↔ ∃ field ∈ fields, field.type = type ∧ field.body = body := by
  simp [bodies, and_assoc]

theorem bodies_append (type : Nat) (first second : List Field) :
    bodies type (first ++ second) = bodies type first ++ bodies type second := by
  simp [bodies, List.filter_append]

theorem bodies_cons_same {type : Nat} {field : Field} (same : field.type = type) (fields : List Field) :
    bodies type (field :: fields) = field.body :: bodies type fields := by
  simp [bodies, same]

theorem bodies_append_same {type : Nat} {field : Field} (same : field.type = type)
    (fields : List Field) : bodies type (fields ++ [field]) = bodies type fields ++ [field.body] := by
  rw [bodies_append, bodies_cons_same same]
  rfl

theorem bodies_append_other {type : Nat} {field : Field} (other : field.type ≠ type)
    (fields : List Field) : bodies type (fields ++ [field]) = bodies type fields := by
  rw [bodies_append]
  simp [bodies, other]

theorem take_append_singleton {α : Type*} (list : List α) (element : α) (count : Nat) :
    (list ++ [element]).take count =
      if (list.take count).length < count then list.take count ++ [element] else list.take count := by
  rw [List.length_take]
  split
  · have short : list.length < count := by omega
    have grown : (list ++ [element]).length ≤ count := by
      rwa [List.length_append, List.length_singleton]
    rw [List.take_of_length_le grown, List.take_of_length_le short.le]
  · rw [List.take_append_of_le_length (by omega)]

structure Collected (past : List Field) (fields : RequestFields) : Prop where
  uid : bodies ntsEfUniqueIdentifier past = fields.uid.toList
  uidLength : ∀ uid ∈ fields.uid, 32 ≤ uid.length ∧ uid.length ≤ ntsNtpMaxUidLen
  cookie : bodies ntsEfCookie past = fields.cookie.toList
  placeholders : fields.placeholderLengths =
    ((bodies ntsEfCookiePlaceholder past).map List.length).take ntsNtpMaxPlaceholders
  auth : fields.auth = none

theorem noFields_collected : Collected [] noFields :=
  ⟨rfl, nofun, rfl, rfl, rfl⟩

theorem collectField_collected {past : List Field} {fields result : RequestFields} {offset : Nat}
    {field : Field} (collected : Collected past fields) (other : field.type ≠ ntsEfAuthenticator)
    (taken : collectField fields offset field = .ok result) : Collected (past ++ [field]) result := by
  obtain ⟨uid, uidLength, cookie, placeholders, auth⟩ := collected
  rw [collectField, if_neg (by simp [auth])] at taken
  split at taken
  · rename_i isUid
    split at taken <;> cases taken
    rename_i accepted
    have fresh : fields.uid = none := by simpa using fun some => accepted (Or.inl some)
    refine ⟨?_, ?_, ?_, ?_, auth⟩
    · rw [bodies_append_same isUid, uid, fresh]
      rfl
    · rintro _ ⟨⟩
      omega
    · rwa [bodies_append_other (by rw [isUid]; decide)]
    · rwa [bodies_append_other (by rw [isUid]; decide)]
  rename_i notUid
  split at taken
  · rename_i isCookie
    split at taken <;> cases taken
    rename_i accepted
    have fresh : fields.cookie = none := by simpa using fun some => accepted (Or.inl some)
    refine ⟨?_, uidLength, ?_, ?_, auth⟩
    · rwa [bodies_append_other notUid]
    · rw [bodies_append_same isCookie, cookie, fresh]
      rfl
    · rwa [bodies_append_other (by rw [isCookie]; decide)]
  rename_i notCookie
  rw [← bodies_append_other notUid past] at uid
  rw [← bodies_append_other notCookie past] at cookie
  split at taken
  · rename_i isPlaceholder
    have grown := bodies_append_same isPlaceholder past
    split at taken <;> cases taken <;> rename_i room <;> refine ⟨uid, uidLength, cookie, ?_, auth⟩
    · rw [grown, List.map_append, List.map_singleton, take_append_singleton, ← placeholders, if_pos room]
    · rw [grown, List.map_append, List.map_singleton, take_append_singleton, ← placeholders, if_neg room]
  rename_i notPlaceholder
  rw [← bodies_append_other notPlaceholder past] at placeholders
  cases taken
  exact ⟨uid, uidLength, cookie, placeholders, auth⟩

theorem foldFields_collected {past list : List Field} {fields result : RequestFields} {offset : Nat}
    (collected : Collected past fields) (none : ∀ field ∈ list, field.type ≠ ntsEfAuthenticator)
    (taken : foldFields collectField offset fields list = .ok result) :
    Collected (past ++ list) result := by
  induction list generalizing past offset fields with
  | nil =>
      cases taken
      rwa [List.append_nil]
  | cons field rest ih =>
      obtain ⟨notAuth, none⟩ := List.forall_mem_cons.mp none
      obtain ⟨mid, step, taken⟩ := foldFields_cons_ok.mp taken
      have later := ih (collectField_collected collected notAuth step) none taken
      rwa [List.append_assoc, List.singleton_append] at later

theorem eq_none_of_length_le {value : Option Bytes} {body : Bytes} {rest : List Bytes}
    (few : (value.toList ++ body :: rest).length ≤ 1) : value = none := by
  cases value with
  | none => rfl
  | some first => simp at few

structure Collectable (list : List Field) : Prop where
  uniqueIds : (bodies ntsEfUniqueIdentifier list).length ≤ 1
  uniqueId : ∀ uid ∈ bodies ntsEfUniqueIdentifier list, 32 ≤ uid.length ∧ uid.length ≤ ntsNtpMaxUidLen
  cookies : (bodies ntsEfCookie list).length ≤ 1
  cookie : ∀ cookie ∈ bodies ntsEfCookie list, cookie.length ≠ 0 ∧ cookie.length ≤ ntsCookieMaxLen

theorem collectField_ok {past : List Field} {fields : RequestFields} {offset : Nat} {field : Field}
    {rest : List Field} (collected : Collected past fields)
    (collectable : Collectable (past ++ field :: rest)) :
    ∃ result, collectField fields offset field = .ok result := by
  obtain ⟨uniqueIds, uniqueId, cookies, cookie⟩ := collectable
  rw [bodies_append] at uniqueIds uniqueId cookies cookie
  rw [collectField, if_neg (by simp [collected.auth])]
  split
  · rename_i isUid
    rw [bodies_cons_same isUid] at uniqueIds uniqueId
    have length := uniqueId field.body (by simp)
    rw [collected.uid] at uniqueIds
    rw [eq_none_of_length_le uniqueIds, if_neg (by
      simp only [Option.isSome_none, Bool.false_eq_true, false_or]; omega)]
    exact ⟨_, rfl⟩
  split
  · rename_i isCookie
    rw [bodies_cons_same isCookie] at cookies cookie
    have length := cookie field.body (by simp)
    rw [collected.cookie] at cookies
    rw [eq_none_of_length_le cookies, if_neg (by
      simp only [Option.isSome_none, Bool.false_eq_true, false_or]; omega)]
    exact ⟨_, rfl⟩
  split
  · split <;> exact ⟨_, rfl⟩
  · split <;> exact ⟨_, rfl⟩

theorem foldFields_ok {past list : List Field} {fields : RequestFields} {offset : Nat}
    (collected : Collected past fields) (none : ∀ field ∈ list, field.type ≠ ntsEfAuthenticator)
    (collectable : Collectable (past ++ list)) :
    ∃ result, foldFields collectField offset fields list = .ok result := by
  induction list generalizing past offset fields with
  | nil => exact ⟨fields, rfl⟩
  | cons field rest ih =>
      obtain ⟨notAuth, none⟩ := List.forall_mem_cons.mp none
      obtain ⟨mid, step⟩ := collectField_ok collected collectable
      obtain ⟨result, later⟩ := ih 
        (collectField_collected collected notAuth step) none (by simpa using collectable)
      exact ⟨result, foldFields_cons_ok.mpr ⟨mid, step, later⟩⟩

/-! ## The first authenticator and what follows it -/

theorem collectField_authenticator {fields : RequestFields} (open' : fields.auth = none)
    {field : Field} (authenticator : field.type = ntsEfAuthenticator) (offset : Nat) :
    collectField fields offset field = .ok { fields with auth := some (offset, field.body) } := by
  rw [collectField, if_neg (by simp [open']), authenticator]
  rfl

theorem foldFields_passes {fields : RequestFields} (seen : fields.auth.isSome = true)
    (offset : Nat) (list : List Field) : foldFields collectField offset fields list = .ok fields := by
  induction list generalizing offset with
  | nil => rfl
  | cons field rest ih =>
      rw [foldFields, collectField, if_pos seen]
      exact ih _

theorem split_first {list : List Field} {type : Nat} (some : ∃ field ∈ list, field.type = type) :
    ∃ before field after, list = before ++ field :: after ∧ field.type = type ∧
      ∀ field ∈ before, Field.type field ≠ type := by
  induction list with
  | nil => simp at some
  | cons head rest ih =>
      by_cases first : head.type = type
      · exact ⟨[], head, rest, rfl, first, by simp⟩
      · have later : ∃ field ∈ rest, field.type = type := by
          obtain ⟨field, mem, same⟩ := some
          rcases List.mem_cons.mp mem with rfl | mem
          · exact absurd same first
          · exact ⟨field, mem, same⟩
        obtain ⟨before, field, after, rfl, same, others⟩ := ih later
        exact ⟨head :: before, field, after, rfl, same, List.forall_mem_cons.mpr ⟨first, others⟩⟩

structure Layout where
  header : Bytes
  before : List Field
  authenticator : Field
  after : List Field

def Layout.associatedData (layout : Layout) : Bytes := layout.header ++ encodeFields layout.before

def Layout.packet (layout : Layout) : Bytes :=
  layout.associatedData ++ (layout.authenticator.encode ++ encodeFields layout.after)

structure Layout.WellFormed (layout : Layout) : Prop where
  header : layout.header.length = ntpHeaderLen
  before : ∀ field ∈ layout.before, field.WellFormed ∧ field.type ≠ ntsEfAuthenticator
  authenticator : layout.authenticator.WellFormed ∧ layout.authenticator.type = ntsEfAuthenticator
  after : ∀ field ∈ layout.after, field.WellFormed

theorem Layout.WellFormed.collectFields {layout : Layout} (wellFormed : layout.WellFormed) :
    collectFields layout.packet layout.packet.length ntpHeaderLen noFields =
      (foldFields collectField ntpHeaderLen noFields layout.before).map fun fields =>
        { fields with auth := some (layout.associatedData.length, layout.authenticator.body) } := by
  have rest : layout.packet.drop ntpHeaderLen =
      encodeFields (layout.before ++ layout.authenticator :: layout.after) := by
    rw [Layout.packet, Layout.associatedData, List.append_assoc, List.drop_left' wellFormed.header,
      encodeFields_append, encodeFields_cons]
  have fields : ∀ field ∈ layout.before ++ layout.authenticator :: layout.after,
      field.WellFormed := by
    simp only [List.forall_mem_append, List.forall_mem_cons]
    exact ⟨fun field mem => (wellFormed.before field mem).1, wellFormed.authenticator.1,
      wellFormed.after⟩
  have nonempty : ntpHeaderLen < layout.packet.length := by
    simp only [Layout.packet, Layout.associatedData, List.length_append, wellFormed.header,
      Field.encode_length]
    omega
  rw [collectFields_encodeFields fields rest (Nat.sub_lt (by omega) (by decide)), foldFields_append]
  cases taken : foldFields collectField ntpHeaderLen noFields layout.before with
  | error err => rfl
  | ok collected =>
      have none := (foldFields_collected noFields_collected
        (fun field mem => (wellFormed.before field mem).2) taken).auth
      have offset : ntpHeaderLen + (encodeFields layout.before).length =
          layout.associatedData.length := by
        rw [Layout.associatedData, List.length_append, wellFormed.header]
      simp only [Except.bind, foldFields, collectField_authenticator none wellFormed.authenticator.2]
      rw [foldFields_passes rfl, offset]
      rfl

/-! ## Accepted requests -/

variable {aead : Aead} {store store' : Option Keyring} {env : CookieEnv}

structure Locals where
  uid : Bytes
  cookie : Bytes
  placeholderLengths : List Nat
  authOffset : Nat
  authBody : Bytes
  nonce : Bytes
  ciphertext : Bytes

structure Accepts (aead : Aead) (store : Option Keyring) (env : CookieEnv) (packet : Bytes)
    (context : NtsNtpAuthContext) (store' : Option Keyring) (locals : Locals) : Prop where
  least : ntpHeaderLen ≤ packet.length
  most : packet.length ≤ ntsNtpMaxPacketSize
  collected : collectFields packet packet.length ntpHeaderLen noFields = .ok ⟨some locals.uid,
    some locals.cookie, locals.placeholderLengths, some (locals.authOffset, locals.authBody)⟩
  parts : authenticatorParts locals.authBody = .ok (locals.nonce, locals.ciphertext)
  unpacked : ntsCookieUnpack aead store env locals.cookie = (.ok context.keys, store')
  decrypted : aead.decrypt context.keys.c2sKey.bytes (packet.take locals.authOffset) locals.nonce
    locals.ciphertext = .ok []
  context : context = ⟨uniqueIdOf locals.uid, locals.uid.length,
    locals.placeholderLengths.count locals.cookie.length, packet.length, context.keys, true⟩

theorem accepts_of_verified {packet : Bytes} {context : NtsNtpAuthContext}
    (verified : ntsNtpAuthVerifyRequest aead store env packet = (.ok context, store')) :
    ∃ locals, Accepts aead store env packet context store' locals := by
  unfold ntsNtpAuthVerifyRequest at verified
  split at verified
  · cases verified
  rename_i size
  split at verified
  · cases verified
  · rename_i uid cookie placeholderLengths authOffset authBody collected
    split at verified
    · cases verified
    rename_i nonce ciphertext parts
    split at verified
    · cases verified
    rename_i keys after unpacked
    split at verified
    · cases verified
    rename_i plaintext decrypted
    split at verified <;> cases verified
    rename_i empty
    obtain rfl := List.eq_nil_of_length_eq_zero (not_not.mp empty)
    exact ⟨⟨uid, cookie, placeholderLengths, authOffset, authBody, nonce, ciphertext⟩, by omega,
      by omega, collected, parts, unpacked, decrypted, rfl⟩
  · cases verified

variable {packet : Bytes} {context : NtsNtpAuthContext} {locals : Locals}

theorem Accepts.verified (accepts : Accepts aead store env packet context store' locals) :
    ntsNtpAuthVerifyRequest aead store env packet = (.ok context, store') := by
  have least := accepts.least
  have most := accepts.most
  rw [ntsNtpAuthVerifyRequest, if_neg (by omega), accepts.collected]
  simp only [accepts.parts, accepts.unpacked, accepts.decrypted]
  rw [if_neg (by simp), ← accepts.context]

structure Layout.Found (layout : Layout) (locals : Locals) : Prop where
  wellFormed : layout.WellFormed
  collected : Collected layout.before
    ⟨some locals.uid, some locals.cookie, locals.placeholderLengths, none⟩
  folded : foldFields collectField ntpHeaderLen noFields layout.before =
    .ok ⟨some locals.uid, some locals.cookie, locals.placeholderLengths, none⟩
  offset : locals.authOffset = layout.associatedData.length
  body : locals.authBody = layout.authenticator.body

theorem Accepts.layout (accepts : Accepts aead store env packet context store' locals) :
    ∃ layout : Layout, layout.packet = packet ∧ layout.Found locals := by
  have least := accepts.least
  obtain ⟨list, wellFormed, rest⟩ := fields_of_collectFields accepts.collected
  have folded := accepts.collected
  have enough : packet.length - ntpHeaderLen < packet.length :=
    Nat.sub_lt (Nat.lt_of_lt_of_le (by decide) least) (by decide)
  rw [collectFields_encodeFields wellFormed rest enough] at folded
  have authenticated : ∃ field ∈ list, field.type = ntsEfAuthenticator := by
    by_contra none
    simp only [not_exists, not_and] at none
    cases (foldFields_collected noFields_collected none folded).auth
  obtain ⟨before, authenticator, after, rfl, isAuthenticator, others⟩ := split_first authenticated
  simp only [List.forall_mem_append, List.forall_mem_cons] at wellFormed
  let layout : Layout := ⟨packet.take ntpHeaderLen, before, authenticator, after⟩
  have same : layout.packet = packet := by
    rw [Layout.packet, Layout.associatedData, List.append_assoc, ← encodeFields_cons,
      ← encodeFields_append, ← rest, List.take_append_drop]
  have layoutWellFormed : layout.WellFormed :=
    ⟨by rw [List.length_take, min_eq_left least],
      fun field mem => ⟨wellFormed.1 field mem, others field mem⟩,
      ⟨wellFormed.2.1, isAuthenticator⟩, wellFormed.2.2⟩
  have collected := accepts.collected
  rw [← same, layoutWellFormed.collectFields] at collected
  cases taken : foldFields collectField ntpHeaderLen noFields before with
  | error err =>
      rw [taken] at collected
      cases collected
  | ok fields =>
      have passed := foldFields_collected noFields_collected others taken
      have none := passed.auth
      rw [taken] at collected
      obtain ⟨uid, cookie, placeholderLengths, auth⟩ := fields
      cases none
      simp only [Except.map, Except.ok.injEq, RequestFields.mk.injEq, Option.some.injEq,
        Prod.mk.injEq] at collected
      obtain ⟨rfl, rfl, rfl, offset, body⟩ := collected
      exact ⟨layout, same, layoutWellFormed, passed, taken, offset.symm, body.symm⟩

/-- Everything the context is made of is in front of the first authenticator, which protects it
under the key of the cookie. -/
structure Layout.Authenticates (aead : Aead) (store : Option Keyring) (env : CookieEnv)
    (layout : Layout) (context : NtsNtpAuthContext) : Prop where
  wellFormed : layout.WellFormed
  uniqueId : ∃ uid, bodies ntsEfUniqueIdentifier layout.before = [uid] ∧ 32 ≤ uid.length ∧
    uid.length ≤ ntsNtpMaxUidLen ∧ context.uniqueId = uniqueIdOf uid ∧
    context.uniqueIdLen = uid.length
  cookie : ∃ cookie, bodies ntsEfCookie layout.before = [cookie] ∧
    (ntsCookieUnpack aead store env cookie).1 = .ok context.keys ∧
    context.validPlaceholders = (((bodies ntsEfCookiePlaceholder layout.before).map
      List.length).take ntsNtpMaxPlaceholders).count cookie.length
  decrypts : ∃ nonce ciphertext,
    authenticatorParts layout.authenticator.body = .ok (nonce, ciphertext) ∧
      aead.decrypt context.keys.c2sKey.bytes layout.associatedData nonce ciphertext = .ok []

theorem Accepts.authenticates {layout : Layout}
    (accepts : Accepts aead store env layout.packet context store' locals)
    (found : layout.Found locals) : layout.Authenticates aead store env context := by
  have length := found.collected.uidLength locals.uid rfl
  have associated : layout.packet.take locals.authOffset = layout.associatedData := by
    rw [found.offset, Layout.packet, List.take_left' rfl]
  have parts := accepts.parts
  have decrypted := accepts.decrypted
  rw [found.body] at parts
  rw [associated] at decrypted
  refine ⟨found.wellFormed, ⟨locals.uid, found.collected.uid, length.1, length.2, ?_, ?_⟩,
    ⟨locals.cookie, found.collected.cookie, by rw [accepts.unpacked], ?_⟩,
    locals.nonce, locals.ciphertext, parts, decrypted⟩
  · rw [accepts.context]
  · rw [accepts.context]
  · rw [accepts.context, ← found.collected.placeholders]

theorem uniqueIdOf_take {uid : Bytes} (fits : uid.length ≤ ntsNtpMaxUidLen) :
    (uniqueIdOf uid).bytes.take uid.length = uid := by
  rw [uniqueIdOf, List.take_take, min_eq_left fits, List.take_left' rfl]

theorem Accepts.replaceAfter {layout : Layout}
    (accepts : Accepts aead store env layout.packet context store' locals)
    (found : layout.Found locals) {after : List Field} (wellFormed : ∀ field ∈ after, Field.WellFormed field)
    (size : { layout with after := after }.packet.length ≤ ntsNtpMaxPacketSize) :
    Accepts aead store env { layout with after := after }.packet
      { context with requestLength := { layout with after := after }.packet.length } store' locals := by
  let replaced : Layout := { layout with after := after }
  have replacedWellFormed : replaced.WellFormed :=
    ⟨found.wellFormed.header, found.wellFormed.before, found.wellFormed.authenticator, wellFormed⟩
  have associated : replaced.packet.take locals.authOffset = layout.packet.take locals.authOffset := by
    rw [found.offset]
    exact (List.take_left' rfl).trans (List.take_left' rfl).symm
  have collected := replacedWellFormed.collectFields
  rw [show replaced.before = layout.before from rfl, found.folded,
    show replaced.associatedData = layout.associatedData from rfl, ← found.offset,
    show replaced.authenticator = layout.authenticator from rfl, ← found.body] at collected
  refine ⟨?_, size, collected, accepts.parts, accepts.unpacked, associated ▸ accepts.decrypted, ?_⟩
  · have header := found.wellFormed.header
    simp only [Layout.packet, Layout.associatedData, List.length_append]
    omega
  · conv_lhs => rw [accepts.context]

theorem verified_request_is_authenticated
    (verified : ntsNtpAuthVerifyRequest aead store env packet = (.ok context, store')) :
    ∃ layout : Layout, layout.packet = packet ∧ layout.Authenticates aead store env context ∧
      ∀ after : List Field, (∀ field ∈ after, field.WellFormed) →
        ntsNtpAuthVerifyRequest aead store env { layout with after := after }.packet =
          if { layout with after := after }.packet.length ≤ ntsNtpMaxPacketSize then
            (.ok { context with requestLength := { layout with after := after }.packet.length }, store')
          else (.error .invalidArg, store) := by
  obtain ⟨locals, accepts⟩ := accepts_of_verified verified
  obtain ⟨layout, rfl, found⟩ := accepts.layout
  refine ⟨layout, rfl, accepts.authenticates found, fun after wellFormed => ?_⟩
  split
  · rename_i size
    exact (accepts.replaceAfter found wellFormed size).verified
  · rename_i size
    exact if_pos (Or.inr (not_le.mp size))

def sampleRing : Keyring := newKeyring 1000 (randomBytes 1)

def sampleKeys : CookieKeys := ⟨fixedKey, fixedKey, 1, 1000, 87400⟩

def sampleCookie : Bytes :=
  (sealCookie keyedAead sampleRing.active sampleKeys fixedNonce).toOption.getD []

def sampleFields : List Field :=
  [⟨ntsEfUniqueIdentifier, List.replicate 32 9⟩, ⟨ntsEfCookie, sampleCookie⟩,
    ⟨ntsEfCookiePlaceholder, List.replicate 128 0⟩]

def sampleTag : Bytes := (keyedAead.encrypt fixedKey.bytes
  (List.replicate 48 0 ++ encodeFields sampleFields) fixedNonce.bytes []).toOption.getD []

def sampleRequest : Bytes := List.replicate 48 0 ++ encodeFields (sampleFields ++
  [⟨ntsEfAuthenticator, beBytes 2 16 ++ beBytes 2 16 ++ fixedNonce.bytes ++ sampleTag⟩])

def sampleEnv : CookieEnv :=
  ⟨⟨false, some 2000, randomBytes 2, .saved⟩, false, some 2000, fixedNonce, (fixedKey, fixedKey)⟩

def sampleContext : NtsNtpAuthContext :=
  ⟨uniqueIdOf (List.replicate 32 9), 32, 1, 388, sampleKeys, true⟩

theorem sampleRequest_verified :
    ntsNtpAuthVerifyRequest keyedAead (some sampleRing) sampleEnv sampleRequest =
      (.ok sampleContext, some sampleRing) := by decide +kernel

theorem sampleRequest_is_authenticated : ∃ layout : Layout, layout.packet = sampleRequest ∧
    layout.Authenticates keyedAead (some sampleRing) sampleEnv sampleContext :=
  (verified_request_is_authenticated sampleRequest_verified).imp fun _ holds => ⟨holds.1, holds.2.1⟩

end NtsTimeServer.Proof
