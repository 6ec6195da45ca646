import NtsTimeServer.Model.NtpServer
import NtsTimeServer.Model.Gnss
import NtsTimeServer.Proof.AuthResponse

namespace NtsTimeServer.Proof
open Model Lib

@[simp] theorem timestampBytes_length (timestamp : NtpTimestamp) :
    (timestampBytes timestamp).length = 8 := by
  simp [timestampBytes]

@[simp] theorem ntpPacketBytes_length (packet : NtpPacketFields) :
    (ntpPacketBytes packet).length = 48 := by
  simp [ntpPacketBytes]

theorem timestampBytes_readTimestamp {data : Bytes} {offset : Nat} (within : offset + 8 ≤ data.length) :
    timestampBytes (readTimestamp data offset) = window data offset 8 := by
  rw [window_add data offset 4 4, window_readBe (by omega), window_readBe (by omega)]
  rfl

def Carries (datagram : Bytes) (packet : NtpPacketFields) : Prop :=
  datagram.take 48 = ntpPacketBytes packet

section

variable {datagram : Bytes} {packet : NtpPacketFields}

theorem Carries.byteAt (carries : Carries datagram packet) {offset : Nat} (within : offset < 48) :
    byteAt datagram offset = Lib.byteAt (ntpPacketBytes packet) offset := by
  rw [← carries, Lib.byteAt, Lib.byteAt, List.getD_eq_getElem?_getD, List.getD_eq_getElem?_getD,
    List.getElem?_take, if_pos within]

theorem Carries.mode (carries : Carries datagram packet) :
    Lib.byteAt datagram 0 % 8 = packet.mode % 8 := by
  rw [carries.byteAt (by decide)]
  simp only [ntpPacketBytes, Lib.byteAt, List.cons_append, List.getD_cons_zero, UInt8.toNat_ofNat']
  omega

theorem Carries.version (carries : Carries datagram packet) :
    Lib.byteAt datagram 0 / 8 % 8 = packet.version % 8 := by
  rw [carries.byteAt (by decide)]
  simp only [ntpPacketBytes, Lib.byteAt, List.cons_append, List.getD_cons_zero, UInt8.toNat_ofNat']
  omega

theorem Carries.stratum (carries : Carries datagram packet) (fits : packet.stratum < 256) :
    Lib.byteAt datagram 1 = packet.stratum := by
  rw [carries.byteAt (by decide)]
  simp only [ntpPacketBytes, Lib.byteAt, List.cons_append, List.getD_cons_succ, List.getD_cons_zero,
    UInt8.toNat_ofNat']
  omega

theorem Carries.window (carries : Carries datagram packet) {offset count : Nat}
    (within : offset + count ≤ 48) :
    Lib.window datagram offset count = Lib.window (ntpPacketBytes packet) offset count := by
  rw [← carries, window_take within]

theorem ntpPacketBytes_split (packet : NtpPacketFields) : ∃ first : Bytes, first.length = 24 ∧
    ntpPacketBytes packet = first ++ (timestampBytes packet.originTimestamp ++
      (timestampBytes packet.receiveTimestamp ++ timestampBytes packet.transmitTimestamp)) := by
  let octets := [UInt8.ofNat (packet.leapIndicator % 4 * 64 + packet.version % 8 * 8 + packet.mode % 8),
    UInt8.ofNat packet.stratum, 6, UInt8.ofNat (packet.precision % 256).toNat]
  refine ⟨octets ++ (beBytes 4 packet.rootDelay ++ (beBytes 4 packet.rootDispersion ++
    (beBytes 4 packet.referenceId ++ timestampBytes packet.referenceTimestamp))), ?_, ?_⟩
  · simp [octets]
  · simp [ntpPacketBytes, octets]

theorem Carries.origin (carries : Carries datagram packet) :
    Lib.window datagram 24 8 = timestampBytes packet.originTimestamp := by
  obtain ⟨first, length, split⟩ := ntpPacketBytes_split packet
  rw [carries.window (by decide), split, window_append_right _ (by omega), length]
  exact window_append_left (timestampBytes packet.originTimestamp) _

theorem Carries.receive (carries : Carries datagram packet) :
    Lib.window datagram 32 8 = timestampBytes packet.receiveTimestamp := by
  obtain ⟨first, length, split⟩ := ntpPacketBytes_split packet
  rw [carries.window (by decide), split, window_append_right _ (by omega), length,
    window_append_right _ (by simp), timestampBytes_length]
  exact window_append_left (timestampBytes packet.receiveTimestamp) _

theorem Carries.transmit (carries : Carries datagram packet) :
    Lib.window datagram 40 8 = timestampBytes packet.transmitTimestamp := by
  obtain ⟨first, length, split⟩ := ntpPacketBytes_split packet
  rw [carries.window (by decide), split, window_append_right _ (by omega), length,
    window_append_right _ (by simp), timestampBytes_length, window_append_right _ (by simp),
    timestampBytes_length]
  exact List.take_of_length_le (by simp)

end

theorem ntpPacketBuild_take (outBuffer : Bytes) (packet : NtpPacketFields) :
    (ntpPacketBuild outBuffer packet).take 48 = ntpPacketBytes packet := by
  rw [ntpPacketBuild, ← ntpPacketBytes_length packet]
  exact take_writeAt_zero _ _

theorem ntpPacketParse_some {datagram : Bytes} {request : NtpPacketFields}
    (parsed : ntpPacketParse datagram = some request) : 48 ≤ datagram.length ∧
      request.mode = byteAt datagram 0 % 8 ∧ request.version = byteAt datagram 0 / 8 % 8 ∧
      timestampBytes request.transmitTimestamp = window datagram 40 8 := by
  unfold ntpPacketParse at parsed
  split at parsed
  · cases parsed
  rename_i long
  cases parsed
  have size : 48 ≤ datagram.length := not_lt.mp long
  exact ⟨size, rfl, rfl, timestampBytes_readTimestamp size⟩

theorem requestPresentFrom_encodeFields {packet : Bytes} {fuel offset : Nat} {list : List Field}
    (wellFormed : ∀ field ∈ list, field.WellFormed) (rest : packet.drop offset = encodeFields list)
    (enough : packet.length - offset < fuel) :
    requestPresentFrom packet fuel offset = list.any fun field => isNtsType field.type := by
  have size : packet.length - offset = (encodeFields list).length := by rw [← rest, List.length_drop]
  induction list generalizing fuel offset with
  | nil =>
      obtain ⟨fuel, rfl⟩ := Nat.exists_eq_succ_of_ne_zero (by omega : fuel ≠ 0)
      rw [requestPresentFrom, if_pos (by rw [size]; decide)]
      rfl
  | cons field list ih =>
      obtain ⟨wellFormedField, wellFormed⟩ := List.forall_mem_cons.mp wellFormed
      obtain ⟨fuel, rfl⟩ := Nat.exists_eq_succ_of_ne_zero (by omega : fuel ≠ 0)
      rw [encodeFields_cons] at rest size
      rw [List.length_append, Field.encode_length] at size
      have type : readBe16 packet offset = field.type := by
        have read := field.readType wellFormedField (encodeFields list)
        rwa [← rest, readBe16_drop] at read
      have length : readBe16 packet (offset + 2) = 4 + field.body.length := by
        have read := field.readLength wellFormedField (encodeFields list)
        rwa [← rest, readBe16_drop] at read
      have aligned := wellFormedField.aligned
      have later : packet.drop (offset + (4 + field.body.length)) = encodeFields list := by
        rw [← List.drop_drop, rest]
        exact List.drop_left' field.encode_length
      rw [requestPresentFrom, if_neg (by omega)]
      dsimp only
      rw [type, length, if_neg (show ¬(4 + field.body.length < 4 ∨ (4 + field.body.length) % 4 ≠ 0 ∨
        4 + field.body.length > packet.length - offset) by omega),
        ih wellFormed later (by omega) (by omega), List.any_cons]
      cases isNtsType field.type <;> rfl

theorem present_of_verified {aead : Aead} {store store' : Option Keyring} {env : CookieEnv}
    {packet : Bytes} {context : NtsNtpAuthContext}
    (verified : ntsNtpAuthVerifyRequest aead store env packet = (.ok context, store')) :
    ntsNtpAuthRequestPresent packet = true := by
  obtain ⟨locals, accepts⟩ := accepts_of_verified verified
  obtain ⟨list, wellFormed, rest⟩ := fields_of_collectFields accepts.collected
  obtain ⟨layout, rfl, found⟩ := accepts.layout
  have header := found.wellFormed.header
  have fields : encodeFields list =
      encodeFields (layout.before ++ layout.authenticator :: layout.after) := by
    rw [← rest, Layout.packet, Layout.associatedData, List.append_assoc, List.drop_left' header,
      encodeFields_append, encodeFields_cons]
  have all : ∀ field ∈ layout.before ++ layout.authenticator :: layout.after, field.WellFormed := by
    simp only [List.forall_mem_append, List.forall_mem_cons]
    exact ⟨fun field mem => (found.wellFormed.before field mem).1, found.wellFormed.authenticator.1,
      found.wellFormed.after⟩
  have longer : ntpHeaderLen < layout.packet.length := by
    simp only [Layout.packet, Layout.associatedData, List.length_append, Field.encode_length, header]
    omega
  rw [ntsNtpAuthRequestPresent, if_neg (not_le.mpr longer),
    requestPresentFrom_encodeFields all (rest.trans fields) (by simp only [ntpHeaderLen] at longer ⊢; omega),
    List.any_append, List.any_cons, found.wellFormed.authenticator.2]
  simp [isNtsType]

section

variable {F : Type}

structure Echoes (request packet : NtpPacketFields) : Prop where
  mode : packet.mode = ntpModeServer
  version : packet.version = request.version
  origin : packet.originTimestamp = request.transmitTimestamp

def StratumFits (readings : RequestReadings F) (stratum : Nat) : Prop :=
  stratum = ntpStratumPrimary ∧ readings.statusClock.clock.state = .synchronized ∧
      (∃ status, readings.gnss = some status ∧ status.leapIndicator ≠ .unknown) ∨
    stratum = ntpStratumSecondary ∧ readings.statusClock.clock.state = .holdover

theorem StratumFits.lt {readings : RequestReadings F} {stratum : Nat}
    (fits : StratumFits readings stratum) : stratum < 256 := by
  rcases fits with ⟨rfl, -, -⟩ | ⟨rfl, -⟩ <;> decide

theorem StratumFits.pos {readings : RequestReadings F} {stratum : Nat}
    (fits : StratumFits readings stratum) : 1 ≤ stratum := by
  rcases fits with ⟨rfl, -, -⟩ | ⟨rfl, -⟩ <;> decide

theorem StratumFits.primary {readings : RequestReadings F}
    (fits : StratumFits readings ntpStratumPrimary) :
    readings.statusClock.clock.state = .synchronized ∧
      ∃ status, readings.gnss = some status ∧ status.leapIndicator ≠ .unknown := by
  rcases fits with ⟨-, synchronized, known⟩ | ⟨secondary, -⟩
  · exact ⟨synchronized, known⟩
  · cases secondary

structure Served (request : NtpPacketFields) (receiveTimestamp : NtpTimestamp)
    (readings : RequestReadings F) (packet : NtpPacketFields) : Prop where
  echoes : Echoes request packet
  receive : packet.receiveTimestamp = receiveTimestamp
  quality : readings.statusClock.clock.serviceable = true
  stratum : StratumFits readings packet.stratum
  transmit : readings.transmitClock.clock.serviceable = true

variable [Double F]

theorem leapFromGnss_known {gnss : Option GnssStatus} (known : leapFromGnss gnss ≠ ntpLiUnsynced) :
    ∃ status, gnss = some status ∧ status.leapIndicator ≠ .unknown := by
  cases gnss with
  | none => exact absurd rfl known
  | some status =>
      refine ⟨status, rfl, fun unknown => known ?_⟩
      rw [leapFromGnss, unknown]

theorem getServerQuality_some {readings : RequestReadings F} {quality : ServerQuality}
    (served : getServerQuality readings.statusClock readings.gnss = some quality) :
    readings.statusClock.clock.serviceable = true ∧ StratumFits readings quality.stratum := by
  unfold getServerQuality at served
  split at served
  · cases served
  rename_i status read
  unfold getStatus at read
  split at read <;> cases read
  simp only at served
  split at served
  · rename_i synchronized
    split at served <;> cases served
    rename_i known
    refine ⟨?_, Or.inl ⟨rfl, synchronized.1, leapFromGnss_known known⟩⟩
    simp [ClockContext.serviceable, synchronized]
  · split at served <;> cases served
    rename_i holdover
    refine ⟨?_, Or.inr ⟨rfl, holdover.1⟩⟩
    simp [ClockContext.serviceable, holdover]

theorem serviceable_of_timestamp {reading : ClockReading F} {timestamp : NtpTimestamp}
    (read : getCurrentNtpTimestamp reading = some timestamp) : reading.clock.serviceable = true := by
  unfold getCurrentNtpTimestamp getNtpTimestamp at read
  split at read
  · cases read
  · rename_i open'
    simp only [not_or, not_not] at open'
    exact open'.2.2

theorem buildServerResponse_some {request : NtpPacketFields} {receiveTimestamp : NtpTimestamp}
    {readings : RequestReadings F} {response : Bytes}
    (built : buildServerResponse request receiveTimestamp readings = some response) :
    ∃ packet, response = ntpPacketBuild readings.responseBuffer.bytes packet ∧
      Served request receiveTimestamp readings packet := by
  unfold buildServerResponse at built
  split at built
  · rename_i quality reference transmit served _ read
    obtain ⟨serviceable, stratum⟩ := getServerQuality_some served
    exact ⟨_, (Option.some.inj built).symm, ⟨rfl, rfl, rfl⟩, rfl, serviceable, stratum,
      serviceable_of_timestamp read⟩
  · cases built

theorem prepareResponse_some {request : NtpPacketFields} {hwRxTimestamp : Option NtpRxTimestamp}
    {readings : RequestReadings F} {response : Bytes}
    (prepared : prepareResponse request hwRxTimestamp readings = some response) :
    ∃ timestamp packet, hwRxTimestamp = some timestamp ∧
      response = ntpPacketBuild readings.responseBuffer.bytes packet ∧
      Served request ⟨timestamp.seconds, timestamp.fraction⟩ readings packet := by
  unfold prepareResponse at prepared
  split at prepared
  · obtain ⟨packet, built, served⟩ := buildServerResponse_some prepared
    exact ⟨_, packet, rfl, built, served⟩
  · cases prepared

/-! ## One turn of the loop -/

variable {aead : Aead} {datagram : Bytes} {request : NtpPacketFields}
  {hwRxTimestamp : Option NtpRxTimestamp} {readings : RequestReadings F}

inductive Reply (aead : Aead) (datagram : Bytes) (request : NtpPacketFields)
    (hwRxTimestamp : Option NtpRxTimestamp) (readings : RequestReadings F) : Bytes → Prop
  | rate (plain : ntsNtpAuthRequestPresent datagram = false) :
      Reply aead datagram request hwRxTimestamp readings
        ((buildRateKod request readings.responseBuffer.bytes readings.kodClock).take ntpPacketSize)
  | normal {response : Bytes} (plain : ntsNtpAuthRequestPresent datagram = false)
      (prepared : prepareResponse request hwRxTimestamp readings = some response) :
      Reply aead datagram request hwRxTimestamp readings (response.take ntpPacketSize)
  | nts {response packet : Bytes} {packetLen : Nat} {context : NtsNtpAuthContext}
      {store : Option Keyring} (present : ntsNtpAuthRequestPresent datagram = true)
      (verified : (ntsNtpAuthVerifyRequest aead readings.verifyStore readings.verifyEnv datagram).1 =
        .ok context)
      (prepared : prepareResponse request hwRxTimestamp readings = some response)
      (protects : (ntsNtpAuthProtectResponse aead readings.protectEnvs readings.protectNonce context
        response ntpPacketSize ntsNtpMaxPacketSize).run.run readings.protectStore =
          (.ok (packet, packetLen), store)) :
      Reply aead datagram request hwRxTimestamp readings (packet.take packetLen)

theorem prepareResponse_length {response : Bytes}
    (prepared : prepareResponse request hwRxTimestamp readings = some response) :
    response.length = ntsNtpMaxPacketSize := by
  obtain ⟨_, packet, -, rfl, -⟩ := prepareResponse_some prepared
  rw [ntpPacketBuild, writeAt_length, readings.responseBuffer.length]
  rw [readings.responseBuffer.length, ntpPacketBytes_length]
  decide

theorem prepareResponse_base {response : Bytes}
    (prepared : prepareResponse request hwRxTimestamp readings = some response) :
    48 ≤ response.length := by
  rw [prepareResponse_length prepared]
  decide

theorem answerable_of_verified {store : Option Keyring} {env : CookieEnv} {packet : Bytes}
    {context : NtsNtpAuthContext}
    (verified : (ntsNtpAuthVerifyRequest aead store env packet).1 = .ok context) :
    Answerable context ∧ context.requestLength = packet.length := by
  obtain ⟨locals, accepts⟩ := accepts_of_verified (Prod.ext verified rfl)
  obtain ⟨layout, rfl, found⟩ := accepts.layout
  have length : context.requestLength = layout.packet.length := by rw [accepts.context]
  exact ⟨(accepts.authenticates found).answerable (by rw [accepts.context]) length accepts.most, length⟩

theorem respond_plain (server : NtpServer) (plain : ntsNtpAuthRequestPresent datagram = false) :
    server.respond aead request hwRxTimestamp none readings = server ∨
      ∃ reply, Reply aead datagram request hwRxTimestamp readings reply ∧
        server.respond aead request hwRxTimestamp none readings = server.sendto reply := by
  unfold NtpServer.respond
  cases prepared : prepareResponse request hwRxTimestamp readings with
  | none => exact Or.inl rfl
  | some response => exact Or.inr ⟨_, .normal plain prepared, rfl⟩

theorem respond_nts (server : NtpServer) (present : ntsNtpAuthRequestPresent datagram = true)
    {context : NtsNtpAuthContext}
    (verified : (ntsNtpAuthVerifyRequest aead readings.verifyStore readings.verifyEnv datagram).1 =
      .ok context) :
    server.respond aead request hwRxTimestamp (some context) readings = server ∨
      ∃ reply, Reply aead datagram request hwRxTimestamp readings reply ∧
        server.respond aead request hwRxTimestamp (some context) readings = server.sendto reply := by
  obtain ⟨answerable, -⟩ := answerable_of_verified verified
  unfold NtpServer.respond
  cases prepared : prepareResponse request hwRxTimestamp readings with
  | none => exact Or.inl rfl
  | some response =>
      rcases ntsNtpAuthProtectResponse_cases answerable (prepareResponse_length prepared) with
        ⟨err, store, failed⟩ | ⟨packet, packetLen, store, run⟩
      · refine Or.inl ?_
        dsimp only
        rw [show ntpPacketSize = ntpHeaderLen from rfl, failed]
      · refine Or.inr ⟨packet.take packetLen, .nts present verified prepared run, ?_⟩
        dsimp only
        rw [show ntpPacketSize = ntpHeaderLen from rfl, run]

theorem handle_cases (server : NtpServer) (aead : Aead) (datagram : Bytes) (clientIpv4 clientPort : Nat)
    (readings : RequestReadings F) : ∃ clients,
    let taken := ethServiceTakeNtpRxTimestamp server.rxQueue clientIpv4 clientPort readings.map
    let server' := { server with rxQueue := taken.2, clients := clients }
    server.handle aead datagram clientIpv4 clientPort readings = server' ∨
      ∃ request reply, ntpPacketParse datagram = some request ∧
        Reply aead datagram request taken.1 readings reply ∧
        server.handle aead datagram clientIpv4 clientPort readings = server'.sendto reply := by
  unfold NtpServer.handle
  dsimp only
  cases parsed : ntpPacketParse datagram with
  | none => exact ⟨server.clients, Or.inl rfl⟩
  | some request =>
      dsimp only
      split
      · exact ⟨server.clients, Or.inl rfl⟩
      split
      · exact ⟨server.clients, Or.inl rfl⟩
      refine ⟨(ntpRateLimitAllow server.clients clientIpv4 readings.rateNowUs).2.2, ?_⟩
      split
      · split
        · rename_i kod
          exact Or.inr ⟨request, _, rfl, .rate (by simpa using kod.2), rfl⟩
        · exact Or.inl rfl
      · split
        · rename_i present
          split
          · exact Or.inl rfl
          · rename_i context verified
            exact (respond_nts _ present verified).imp_right fun ⟨reply, answers, sent⟩ =>
              ⟨request, reply, rfl, answers, sent⟩
        · rename_i plain
          exact (respond_plain _ (by simpa using plain)).imp_right fun ⟨reply, answers, sent⟩ =>
            ⟨request, reply, rfl, answers, sent⟩

/-! ## The contract of a reply -/

/-- What a normal reply says of the state in which the server answered. -/
structure ServedIn (server : NtpServer) (clientIpv4 clientPort : Nat) (readings : RequestReadings F)
    (reply : Bytes) : Prop where
  quality : readings.statusClock.clock.serviceable = true
  transmit : readings.transmitClock.clock.serviceable = true
  received : ∃ rxPtp rxQueue timestamp, server.rxQueue.take clientIpv4 clientPort =
      some (rxPtp, rxQueue) ∧ mapRxTimestamp rxPtp readings.map = some timestamp ∧
    window reply 32 8 = timestampBytes ⟨timestamp.seconds, timestamp.fraction⟩
  samples : readings.map.correlationValid = true ∧ 2 ≤ readings.map.correlationSamples
  recent : readings.map.correlationLastUs ≤ readings.map.nowUs ∧
    readings.map.nowUs - readings.map.correlationLastUs ≤ 30000000
  primary : byteAt reply 1 = ntpStratumPrimary →
    readings.statusClock.clock.state = .synchronized ∧
      ∃ status, readings.gnss = some status ∧ status.leapIndicator ≠ .unknown

structure RepliesTo (datagram reply : Bytes) : Prop where
  length : reply.length ≤ datagram.length
  mode : byteAt reply 0 % 8 = ntpModeServer
  version : byteAt reply 0 / 8 % 8 = byteAt datagram 0 / 8 % 8
  origin : window reply 24 8 = window datagram 40 8

theorem mapRxTimestamp_some {rxPtp : EthMacTime} {map : MapReadings} {timestamp : NtpRxTimestamp}
    (mapped : mapRxTimestamp rxPtp map = some timestamp) :
    (map.correlationValid = true ∧ 2 ≤ map.correlationSamples) ∧
      map.correlationLastUs ≤ map.nowUs ∧ map.nowUs - map.correlationLastUs ≤ 30000000 := by
  unfold mapRxTimestamp at mapped
  split at mapped
  · dsimp only at mapped
    split at mapped
    · cases mapped
    split at mapped
    · cases mapped
    · rename_i _ correlated
      simp only [not_or, not_not, not_lt, gt_iff_lt, ethPtpCorrelationMaxAgeUs] at correlated
      obtain ⟨valid, samples, -, later, recent, -⟩ := correlated
      exact ⟨⟨valid, samples⟩, later, recent⟩
  · cases mapped

theorem Echoes.repliesTo {packet : NtpPacketFields} {reply : Bytes} (echoes : Echoes request packet)
    (parsed : ntpPacketParse datagram = some request) (carries : Carries reply packet)
    (length : reply.length ≤ datagram.length) : RepliesTo datagram reply := by
  obtain ⟨-, -, version, transmit⟩ := ntpPacketParse_some parsed
  refine ⟨length, ?_, ?_, ?_⟩
  · rw [carries.mode, echoes.mode]
    rfl
  · rw [carries.version, echoes.version, version, Nat.mod_mod]
  · rw [carries.origin, echoes.origin, transmit]

omit [Double F] in
theorem Served.servedIn {server : NtpServer} {clientIpv4 clientPort : Nat} {packet : NtpPacketFields}
    {timestamp : NtpRxTimestamp} {reply : Bytes}
    (served : Served request ⟨timestamp.seconds, timestamp.fraction⟩ readings packet)
    (taken : (ethServiceTakeNtpRxTimestamp server.rxQueue clientIpv4 clientPort readings.map).1 =
      some timestamp) (carries : Carries reply packet) :
    ServedIn server clientIpv4 clientPort readings reply := by
  unfold ethServiceTakeNtpRxTimestamp at taken
  cases found : server.rxQueue.take clientIpv4 clientPort with
  | none =>
      rw [found] at taken
      cases taken
  | some entry =>
      rw [found] at taken
      obtain ⟨samples, recent⟩ := mapRxTimestamp_some taken
      refine ⟨served.quality, served.transmit, ⟨entry.1, entry.2, timestamp, found, taken, ?_⟩,
        samples, recent, fun stratum => ?_⟩
      · rw [carries.receive, served.receive]
      · rw [carries.stratum served.stratum.lt] at stratum
        exact (stratum ▸ served.stratum).primary

theorem buildRateKod_eq (request : NtpPacketFields) (out : Bytes) (reading : ClockReading F) :
    ∃ packet, buildRateKod request out reading = ntpPacketBuild out packet ∧ Echoes request packet ∧
      packet.stratum = ntpStratumKod :=
  ⟨_, rfl, ⟨rfl, rfl, rfl⟩, rfl⟩

theorem nts_carries {response packet' : Bytes} {packetLen : Nat} {context : NtsNtpAuthContext}
    {store : Option Keyring}
    (prepared : prepareResponse request hwRxTimestamp readings = some response)
    (protects : (ntsNtpAuthProtectResponse aead readings.protectEnvs readings.protectNonce context
      response ntpPacketSize ntsNtpMaxPacketSize).run.run readings.protectStore =
        (.ok (packet', packetLen), store)) :
    ntpPacketSize < packetLen ∧ packetLen ≤ context.requestLength ∧
      (packet'.take packetLen).length = packetLen ∧
      ∃ timestamp packet, hwRxTimestamp = some timestamp ∧ Carries (packet'.take packetLen) packet ∧
        Served request ⟨timestamp.seconds, timestamp.fraction⟩ readings packet := by
  have base := prepareResponse_base prepared
  obtain ⟨cookies, ciphertext, protectedBy⟩ :=
    ntsNtpAuthProtectResponse_inv (prepareResponse_length prepared) protects
  obtain ⟨timestamp, packet, taken, rfl, served⟩ := prepareResponse_some prepared
  refine ⟨?_, protectedBy.fits.2, protectedBy.sent_length base, timestamp, packet, taken, ?_, served⟩
  · rw [protectedBy.length, ntpPacketSize]
    omega
  · rw [Carries, protectedBy.sent base, ntpPacketBuild_take,
      List.take_left' (ntpPacketBytes_length packet)]

theorem Reply.carries {reply : Bytes} (answers : Reply aead datagram request hwRxTimestamp readings reply)
    (parsed : ntpPacketParse datagram = some request) :
    reply.length ≤ datagram.length ∧ ∃ packet, Carries reply packet ∧ Echoes request packet ∧
      (packet.stratum = ntpStratumKod ∨ ∃ timestamp, hwRxTimestamp = some timestamp ∧
        Served request ⟨timestamp.seconds, timestamp.fraction⟩ readings packet) := by
  obtain ⟨size, -⟩ := ntpPacketParse_some parsed
  cases answers with
  | rate plain =>
      obtain ⟨packet, built, echoes, kod⟩ :=
        buildRateKod_eq request readings.responseBuffer.bytes readings.kodClock
      rw [built]
      refine ⟨(List.length_take_le _ _).trans size, packet, ?_, echoes, Or.inl kod⟩
      rw [Carries, List.take_take]
      exact ntpPacketBuild_take _ _
  | normal plain prepared =>
      obtain ⟨timestamp, packet, taken, rfl, served⟩ := prepareResponse_some prepared
      refine ⟨(List.length_take_le _ _).trans size, packet, ?_, served.echoes,
        Or.inr ⟨timestamp, taken, served⟩⟩
      rw [Carries, List.take_take]
      exact ntpPacketBuild_take _ _
  | nts present verified prepared protects =>
      obtain ⟨-, length⟩ := answerable_of_verified verified
      obtain ⟨-, fits, sentLength, timestamp, packet, taken, carries, served⟩ :=
        nts_carries prepared protects
      refine ⟨?_, packet, carries, served.echoes, Or.inr ⟨timestamp, taken, served⟩⟩
      rw [sentLength]
      exact fits.trans length.le

/-- A turn of the loop sends one datagram at most. It answers the request and is not longer, and
only a server that has the time sends a normal reply. -/
theorem handle_replies (server : NtpServer) (aead : Aead) (datagram : Bytes)
    (clientIpv4 clientPort : Nat) (readings : RequestReadings F) :
    (server.handle aead datagram clientIpv4 clientPort readings).faulted = server.faulted ∧
    ((server.handle aead datagram clientIpv4 clientPort readings).sent = server.sent ∨
      ∃ reply, (server.handle aead datagram clientIpv4 clientPort readings).sent =
          server.sent ++ [reply] ∧
        RepliesTo datagram reply ∧
        (1 ≤ byteAt reply 1 → ServedIn server clientIpv4 clientPort readings reply)) := by
  obtain ⟨clients, silent | ⟨request, reply, parsed, answers, sent⟩⟩ :=
    handle_cases server aead datagram clientIpv4 clientPort readings
  · rw [silent]
    exact ⟨rfl, Or.inl rfl⟩
  · rw [sent]
    obtain ⟨length, packet, carries, echoes, kod | ⟨timestamp, taken, served⟩⟩ := answers.carries parsed
    · refine ⟨rfl, Or.inr ⟨reply, rfl, echoes.repliesTo parsed carries length, fun normal => ?_⟩⟩
      rw [carries.stratum (by rw [kod]; decide), kod] at normal
      cases normal
    · exact ⟨rfl, Or.inr ⟨reply, rfl, echoes.repliesTo parsed carries length,
        fun _ => served.servedIn taken carries⟩⟩

/-! ## No downgrade -/

structure ProtectedReply (aead : Aead) (datagram : Bytes) (readings : RequestReadings F)
    (reply : Bytes) : Prop where
  protects : ∃ context response packet packetLen store,
    (ntsNtpAuthVerifyRequest aead readings.verifyStore readings.verifyEnv datagram).1 = .ok context ∧
    (ntsNtpAuthProtectResponse aead readings.protectEnvs readings.protectNonce context response
      ntpPacketSize ntsNtpMaxPacketSize).run.run readings.protectStore =
        (.ok (packet, packetLen), store) ∧
    reply = packet.take packetLen
  longer : ntpPacketSize < reply.length
  notKod : byteAt reply 1 ≠ ntpStratumKod

theorem Reply.protected {reply : Bytes}
    (answers : Reply aead datagram request hwRxTimestamp readings reply)
    (present : ntsNtpAuthRequestPresent datagram = true) :
    ProtectedReply aead datagram readings reply := by
  cases answers with
  | rate plain => cases present.symm.trans plain
  | normal plain _ => cases present.symm.trans plain
  | nts _ verified prepared protects =>
      obtain ⟨longer, -, sentLength, timestamp, packet, -, carries, served⟩ :=
        nts_carries prepared protects
      refine ⟨⟨_, _, _, _, _, verified, protects, rfl⟩, by rwa [sentLength], ?_⟩
      rw [carries.stratum served.stratum.lt]
      exact Nat.ne_of_gt served.stratum.pos

/-- What the verification accepts is a request that uses NTS, and a request that uses NTS is answered
with a protected response or not at all. -/
theorem nts_is_not_downgraded (server : NtpServer) (aead : Aead) (datagram : Bytes)
    (clientIpv4 clientPort : Nat) (readings : RequestReadings F) :
    (∀ store env context store', ntsNtpAuthVerifyRequest aead store env datagram =
        (.ok context, store') → ntsNtpAuthRequestPresent datagram = true) ∧
    (ntsNtpAuthRequestPresent datagram = true →
      (server.handle aead datagram clientIpv4 clientPort readings).sent = server.sent ∨
        ∃ reply, (server.handle aead datagram clientIpv4 clientPort readings).sent =
          server.sent ++ [reply] ∧ ProtectedReply aead datagram readings reply) := by
  refine ⟨fun store env context store' verified => present_of_verified verified, fun present => ?_⟩
  obtain ⟨clients, silent | ⟨request, reply, -, answers, sent⟩⟩ :=
    handle_cases server aead datagram clientIpv4 clientPort readings
  · rw [silent]
    exact Or.inl rfl
  · rw [sent]
    exact Or.inr ⟨reply, rfl, answers.protected present⟩

end

def clientHeader : Bytes := 0x23 :: List.replicate 39 0 ++ List.replicate 8 7

def clientTag : Bytes := (keyedAead.encrypt fixedKey.bytes
  (clientHeader ++ encodeFields sampleFields) fixedNonce.bytes []).toOption.getD []

def clientRequest : Bytes := clientHeader ++ encodeFields (sampleFields ++
  [⟨ntsEfAuthenticator, beBytes 2 16 ++ beBytes 2 16 ++ fixedNonce.bytes ++ clientTag⟩])

def synchronizedReading : ClockReading ℚ where
  clock := { clockInit with
    solutionValid := true
    state := .synchronized
    anchorCaptureUs := 1000000
    anchorUtcSeconds := 1700000000
    referenceTimestampValid := true
    referenceCaptureUs := 1000000
    referenceUtcSeconds := 1700000000 }
  lock := true
  monotonicUs := some 1500000

def clientReadings : RequestReadings ℚ where
  map := ⟨some ⟨3908988800, 0⟩, some ⟨9, 0⟩, some ⟨3908988800, 100000⟩, true, 2, 0, 1000000, 1500000⟩
  rateNowUs := 1500000
  kodClock := synchronizedReading
  verifyStore := some sampleRing
  verifyEnv := sampleEnv
  softwareClock := synchronizedReading
  statusClock := synchronizedReading
  gnss := some { gnssInit.status with leapIndicator := .noWarning }
  referenceClock := synchronizedReading
  transmitClock := synchronizedReading
  protectStore := some sampleRing
  protectEnvs := fun _ => sampleEnv
  protectNonce := fixedNonce
  responseBuffer := ⟨List.replicate 1280 5, List.length_replicate⟩

def listeningServer : NtpServer :=
  ⟨rxQueueInit.enqueue 1 123 ⟨8, 999999000⟩, ntpRateLimitInit, [], false⟩

theorem clientRequest_present : ntsNtpAuthRequestPresent clientRequest = true := by decide +kernel

theorem clientRequest_answered :
    (listeningServer.handle keyedAead clientRequest 1 123 clientReadings).sent ≠ [] := by
  decide +kernel

theorem clientRequest_not_downgraded : ∃ reply,
    (listeningServer.handle keyedAead clientRequest 1 123 clientReadings).sent = [reply] ∧
      ProtectedReply keyedAead clientRequest clientReadings reply :=
  ((nts_is_not_downgraded listeningServer keyedAead clientRequest 1 123 clientReadings).2
    clientRequest_present).resolve_left clientRequest_answered

end NtsTimeServer.Proof
