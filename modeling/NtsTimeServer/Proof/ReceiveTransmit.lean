import NtsTimeServer.Model.PeerMonitor
import NtsTimeServer.Proof.ExactClock
import NtsTimeServer.Proof.NtpServer
import NtsTimeServer.Proof.Rollover

namespace NtsTimeServer.Proof
open Model Lib

structure StampFits (timestamp : NtpTimestamp) : Prop where
  seconds : timestamp.seconds < 2 ^ 32
  fraction : timestamp.fraction < 2 ^ 32

theorem readTimestamp_of_window {data : Bytes} {offset : Nat} {timestamp : NtpTimestamp}
    (fits : StampFits timestamp) (carried : window data offset 8 = timestampBytes timestamp) :
    readTimestamp data offset = timestamp := by
  rw [window_add data offset 4 4, timestampBytes] at carried
  have first : (window data offset 4).length = (beBytes 4 timestamp.seconds).length := by
    have total := congrArg List.length carried
    simp only [List.length_append, beBytes_length, window, List.length_take, List.length_drop] at total ⊢
    omega
  obtain ⟨seconds, fraction⟩ := List.append_inj carried first
  have read {start value : Nat} (fits : value < 2 ^ 32) (written : window data start 4 = beBytes 4 value) :
      readBe32 data start = value := by
    rw [readBe32, readBe, ← window, written, beValue_beBytes]
    exact Nat.mod_eq_of_lt fits
  rw [readTimestamp, read fits.seconds seconds, read fits.fraction fraction]

section

variable {F : Type} [Double F]

/-- The NTP time of the mapping in force in units of 2^-32 s, in seconds that do not wrap. -/
def servedCount (clock : ClockContext F) (nowCaptureUs : Nat) : Nat :=
  ntpSeconds (servedSeconds clock nowCaptureUs) * 2 ^ 32 + servedFraction clock nowCaptureUs

theorem getNtpTimestamp_fits {clock : ClockContext F} {lock : Bool} {nowCaptureUs : Nat}
    {timestamp : NtpTimestamp}
    (served : getNtpTimestamp clock lock (some nowCaptureUs) = some timestamp) :
    StampFits timestamp := by
  rw [(getNtpTimestamp_some served).2.2]
  exact ⟨Nat.mod_lt _ (by decide), Nat.mod_lt _ (by decide)⟩

theorem getNtpTimestamp_count {clock : ClockContext F} {lock : Bool} {nowCaptureUs : Nat}
    {timestamp : NtpTimestamp}
    (served : getNtpTimestamp clock lock (some nowCaptureUs) = some timestamp) :
    timestampToFixed timestamp + eraOf (servedSeconds clock nowCaptureUs) * 2 ^ 32 =
      servedCount clock nowCaptureUs := by
  have seconds := ntpReading_add_eraOf (servedSeconds clock nowCaptureUs)
  rw [(getNtpTimestamp_some served).2.2]
  simp only [timestampToFixed, servedCount, ntpReading, ntpSeconds] at seconds ⊢
  omega

end

/-! ## The receive timestamp -/

/-- The mapping takes time or the frame has an age that the rounding keeps; the PTP clock counts
32-bit seconds, at between half and twice the rate of UTC. -/
def KeepsAge (rxPtp : EthMacTime) (map : MapReadings) : Prop :=
  ∀ before ∈ map.utcBefore, ∀ ptpNow ∈ map.ptpNow, ∀ after ∈ map.utcAfter,
    ntpTimestampToNs before < ntpTimestampToNs after ∨
      ptpTimestampToNs rxPtp < ptpTimestampToNs ptpNow ∧ ptpTimestampToNs ptpNow < 2 ^ 62 ∧
        -500000000 ≤ map.ratePpb ∧ map.ratePpb ≤ 1000000000

theorem count_of_earlier {reading instantNs : Nat}
    (earlier : instantNs + 1 ≤ (reading * 1000000000 + 0x80000000) / 2 ^ 32) :
    (instantNs * 2 ^ 32 + 500000000) / 1000000000 ≤ reading := by
  omega

theorem utcAge_pos {ageNs denominator : Nat} (age : 0 < ageNs) (fits : ageNs < 2 ^ 62)
    (slow : 500000000 ≤ denominator) (fast : denominator ≤ 2000000000) :
    0 < u64 (u64 (ageNs / denominator * 1000000000) +
      u64 (u64 (ageNs % denominator * 1000000000) + denominator / 2) / denominator) := by
  have positive : 0 < denominator := by omega
  have remainder : ageNs % denominator < denominator := Nat.mod_lt _ positive
  have quotient : ageNs / denominator ≤ 2 ^ 62 / 500000000 :=
    (Nat.div_le_div_left slow (by decide)).trans (Nat.div_le_div_right fits.le)
  have whole : u64 (ageNs / denominator * 1000000000) = ageNs / denominator * 1000000000 :=
    u64_eq (by omega)
  have scaled : u64 (ageNs % denominator * 1000000000) = ageNs % denominator * 1000000000 :=
    u64_eq (by omega)
  have rounded : u64 (ageNs % denominator * 1000000000 + denominator / 2) =
      ageNs % denominator * 1000000000 + denominator / 2 := u64_eq (by omega)
  have part : (ageNs % denominator * 1000000000 + denominator / 2) / denominator ≤ 1000000000 := by
    refine Nat.lt_succ_iff.mp ((Nat.div_lt_iff_lt_mul positive).mpr ?_)
    omega
  rw [whole, scaled, rounded, u64_eq (by omega)]
  by_cases short : ageNs < denominator
  · have up : 1 ≤ (ageNs % denominator * 1000000000 + denominator / 2) / denominator := by
      rw [Nat.mod_eq_of_lt short]
      refine (Nat.le_div_iff_mul_le positive).mpr ?_
      omega
    exact Nat.add_pos_right _ up
  · have up : 1 ≤ ageNs / denominator := (Nat.le_div_iff_mul_le positive).mpr (by omega)
    exact Nat.add_pos_left (by omega) _

theorem mappedCount_eq (mappedNs : Nat) : timestampToFixed ⟨mappedNs / 1000000000,
    u32 ((mappedNs % 1000000000 * 2 ^ 32 + 500000000) / 1000000000)⟩ =
      (mappedNs * 2 ^ 32 + 500000000) / 1000000000 := by
  have small := Nat.mod_lt mappedNs (show 0 < 1000000000 by decide)
  have split : mappedNs * 2 ^ 32 + 500000000 =
      mappedNs % 1000000000 * 2 ^ 32 + 500000000 + mappedNs / 1000000000 * 2 ^ 32 * 1000000000 := by
    omega
  rw [split, Nat.add_mul_div_right _ _ (by decide), u32_eq (by omega)]
  exact Nat.add_comm _ _

theorem ntpTimestampToNs_eq (timestamp : NtpTimestamp) : ntpTimestampToNs timestamp =
    (timestampToFixed timestamp * 1000000000 + 0x80000000) / 2 ^ 32 := by
  simp only [ntpTimestampToNs, timestampToFixed]
  omega

theorem mapRxTimestamp_le {rxPtp : EthMacTime} {map : MapReadings} {timestamp : NtpRxTimestamp}
    (mapped : mapRxTimestamp rxPtp map = some timestamp) (aged : KeepsAge rxPtp map) :
    StampFits ⟨timestamp.seconds, timestamp.fraction⟩ ∧ ∃ after ∈ map.utcAfter,
      timestampToFixed ⟨timestamp.seconds, timestamp.fraction⟩ ≤ timestampToFixed after := by
  unfold mapRxTimestamp at mapped
  split at mapped
  · rename_i before ptpNow after readBefore readPtp readAfter
    have age := aged before readBefore ptpNow readPtp after readAfter
    dsimp only at mapped
    split at mapped
    · cases mapped
    rename_i ordered
    split at mapped
    · cases mapped
    split at mapped
    · cases mapped
    rename_i denominator
    split at mapped
    · cases mapped
    rename_i within
    split at mapped
    · cases mapped
    rename_i seconds
    obtain rfl := Option.some.inj mapped
    refine ⟨⟨Nat.lt_succ_iff.mpr (not_lt.mp seconds), Nat.mod_lt _ (by decide)⟩, after, readAfter, ?_⟩
    rw [mappedCount_eq]
    refine count_of_earlier ?_
    rw [← ntpTimestampToNs_eq]
    rcases age with bracket | ⟨older, fits, slow, fast⟩
    · omega
    · have rounded := @utcAge_pos (ptpTimestampToNs ptpNow - ptpTimestampToNs rxPtp)
        (1000000000 + map.ratePpb).toNat (by omega) (by omega) (by omega) (by omega)
      omega
  · cases mapped

section

variable {F : Type} [Double F] {aead : Aead} {datagram : Bytes} {request : NtpPacketFields}
  {hwRxTimestamp : Option NtpRxTimestamp} {readings : RequestReadings F}

theorem prepareResponse_timestamps {response : Bytes}
    (prepared : prepareResponse request hwRxTimestamp readings = some response) :
    ∃ received packet, hwRxTimestamp = some received ∧
      response = ntpPacketBuild readings.responseBuffer.bytes packet ∧
      packet.receiveTimestamp = ⟨received.seconds, received.fraction⟩ ∧
      getCurrentNtpTimestamp readings.transmitClock = some packet.transmitTimestamp := by
  unfold prepareResponse at prepared
  split at prepared
  · unfold buildServerResponse at prepared
    split at prepared
    · rename_i transmit _ _ read
      exact ⟨_, _, rfl, (Option.some.inj prepared).symm, rfl, read⟩
    · cases prepared
  · cases prepared

theorem Reply.timestamps {reply : Bytes}
    (answers : Reply aead datagram request hwRxTimestamp readings reply) :
    byteAt reply 1 = ntpStratumKod ∨ ∃ received transmit, hwRxTimestamp = some received ∧
      getCurrentNtpTimestamp readings.transmitClock = some transmit ∧
      window reply 32 8 = timestampBytes ⟨received.seconds, received.fraction⟩ ∧
      window reply 40 8 = timestampBytes transmit := by
  have timestamps {response : Bytes}
      (prepared : prepareResponse request hwRxTimestamp readings = some response)
      (header : reply.take 48 = response.take 48) : ∃ received transmit,
        hwRxTimestamp = some received ∧
        getCurrentNtpTimestamp readings.transmitClock = some transmit ∧
        window reply 32 8 = timestampBytes ⟨received.seconds, received.fraction⟩ ∧
        window reply 40 8 = timestampBytes transmit := by
    obtain ⟨received, packet, taken, rfl, receive, transmit⟩ := prepareResponse_timestamps prepared
    have carries : Carries reply packet := header.trans (ntpPacketBuild_take _ _)
    exact ⟨received, _, taken, transmit, by rw [carries.receive, receive], carries.transmit⟩
  cases answers with
  | rate plain =>
      obtain ⟨packet, built, -, kod⟩ :=
        buildRateKod_eq request readings.responseBuffer.bytes readings.kodClock
      have carries : Carries ((buildRateKod request readings.responseBuffer.bytes
          readings.kodClock).take ntpPacketSize) packet := by
        rw [built, Carries, List.take_take]
        exact ntpPacketBuild_take _ _
      exact Or.inl ((carries.stratum (by rw [kod]; decide)).trans kod)
  | normal plain prepared => exact Or.inr (timestamps prepared (by rw [List.take_take]; rfl))
  | @nts response packet packetLen context store present verified prepared protects =>
      have base := prepareResponse_base prepared
      obtain ⟨cookies, ciphertext, protectedBy⟩ :=
        ntsNtpAuthProtectResponse_inv (prepareResponse_length prepared) protects
      refine Or.inr (timestamps prepared ?_)
      rw [protectedBy.sent base, List.take_left' (by rw [List.length_take, Nat.min_eq_left base])]

end

/-! ## Receive and transmit -/

section

variable {F : Type} [Double F] {config : Kconfig}

/-- The clock with the mapping that an event leaves in force, by the checks of the sample path: the
line of an accepted sample, that of a rejected one the clock is anchored to, the line in force without
its frequency after the last rejection in a row, or the line in force. -/
def remapped (clock : ClockContext F) : ClockEvent → ClockContext F
  | .submit _ lock sample =>
      let sampled (frequencyPpm : F) : ClockContext F := { clock with
        anchorCaptureUs := sample.ppsCaptureUs
        anchorUtcSeconds := sample.utcSeconds
        frequencyPpm := frequencyPpm }
      if Accepted clock lock sample then
        sampled (if clock.solutionValid then filteredFrequencyPpm clock sample else Double.ofInt 0)
      else if Reanchored clock lock sample then sampled (Double.ofInt 0)
      else if Counted clock lock sample ∧ LastChance clock then
        { clock with frequencyPpm := Double.ofInt 0 }
      else clock
  | .updateReference .. => clock
  | .enforce .. => clock
  | .wait _ => clock

/-- The mapping that the event leaves is not behind the mapping in force before it. -/
def TimeGoesOn (s : ClockSystem F) (event : ClockEvent) : Prop :=
  servedCount s.clock s.counterUs ≤ servedCount (remapped s.clock event) event.now

instance (s : ClockSystem F) (event : ClockEvent) : Decidable (TimeGoesOn s event) :=
  Nat.decLe _ _

theorem rejectSample_line (clock : ClockContext F) (nowCaptureUs : Nat) :
    servedCount (rejectSample clock) nowCaptureUs = servedCount
      (if LastChance clock then { clock with frequencyPpm := Double.ofInt 0 } else clock)
        nowCaptureUs := by
  by_cases last : LastChance clock
  · rw [rejectSample_last last, if_pos last]
    rfl
  · rw [rejectSample_early last, if_neg last]
    rfl

theorem remapped_submit {clock after : ClockContext F} {now : Nat} {lock : Bool}
    {sample : TimingSample} {err : EspErr}
    (outcome : SampleOutcome config clock lock sample err after) (nowCaptureUs : Nat) :
    servedCount after nowCaptureUs =
      servedCount (remapped clock (.submit now lock sample)) nowCaptureUs := by
  cases outcome with
  | acquired accepted invalid =>
      rw [remapped, if_pos accepted, if_neg (by rw [invalid]; decide)]
      rfl
  | accepted accepted valid =>
      rw [remapped, if_pos accepted, if_pos valid]
      rfl
  | reanchored reanchored =>
      have refused : ¬Accepted clock lock sample := fun accepted =>
        absurd (accepted.2 reanchored.2.1).2 (not_le.mpr reanchored.2.2.2)
      rw [remapped, if_neg refused, if_pos reanchored, rejectSample_line]
      split <;> rfl
  | rejected counted refused kept _ =>
      rw [remapped, if_neg refused, if_neg kept, rejectSample_line]
      simp only [counted, true_and]
  | refused uncounted _ =>
      rw [remapped, if_neg (fun accepted => uncounted accepted.1.toCounted),
        if_neg (fun reanchored => uncounted reanchored.1.toCounted),
        if_neg (fun last => uncounted last.1)]

theorem servedCount_apply (config : Kconfig) (s : ClockSystem F) (event : ClockEvent) :
    servedCount (s.apply config event).clock (s.apply config event).counterUs =
      servedCount (remapped s.clock event) event.now := by
  cases event with
  | submit now lock sample =>
      obtain ⟨err, outcome, -⟩ := apply_submit config s now lock sample
      exact remapped_submit outcome now
  | updateReference now gnss pps lock =>
      change servedCount (updateReferenceState s.clock gnss pps lock) now = servedCount s.clock now
      rcases updateReferenceState_cases s.clock gnss pps lock with h | ⟨-, state, -, h⟩
      all_goals rw [h]
      rfl
  | enforce now lock read =>
      change servedCount (enforceHoldoverPolicy config s.clock lock (if read then some now else none))
        now = servedCount s.clock now
      rcases enforceHoldoverPolicy_cases config s.clock lock (if read then some now else none) with
        h | ⟨-, h⟩ | h
      all_goals rw [h]
      all_goals rfl
  | wait now => rfl

theorem servedCount_le_of_run {s t : ClockSystem F} {past : List ClockEvent}
    (run : Run (clockStep config) TimeGoesOn s past t) :
    servedCount s.clock s.counterUs ≤ servedCount t.clock t.counterUs := by
  induction run with
  | start => exact Nat.le_refl _
  | next _ goesOn taken ih =>
      obtain ⟨-, rfl⟩ := clockStep_eq_some.mp taken
      rw [servedCount_apply]
      exact ih.trans goesOn

/-- Of the reads of the clock that one turn of the loop makes, the two of the mapping and that of the
transmit timestamp, with the states of the clock they find. -/
structure ReadsClock (readings : RequestReadings F) (before after transmit : ClockSystem F) :
    Prop where
  before : ∃ lock, readings.map.utcBefore =
    getNtpTimestamp before.clock lock (some before.counterUs)
  after : ∃ lock, readings.map.utcAfter = getNtpTimestamp after.clock lock (some after.counterUs)
  transmit : ∃ lock, readings.transmitClock = ⟨transmit.clock, lock, some transmit.counterUs⟩

/-- The receive timestamp of a reply in the era of the mapping is not after the transmit timestamp in
the era in which it was read. -/
def ReceiveFirst (after transmit : ClockSystem F) (reply : Bytes) : Prop :=
  timestampToFixed (readTimestamp reply 32) + eraOf (servedSeconds after.clock after.counterUs) * 2 ^ 32 ≤
    timestampToFixed (readTimestamp reply 40) +
      eraOf (servedSeconds transmit.clock transmit.counterUs) * 2 ^ 32

instance (after transmit : ClockSystem F) (reply : Bytes) :
    Decidable (ReceiveFirst after transmit reply) := Nat.decLe _ _

/-- As long as the clock is not set back between the mapping and the transmit timestamp, a client
computes no negative residence time. -/
theorem receive_not_after_transmit {before after transmit : ClockSystem F} {later : List ClockEvent}
    (run : Run (clockStep config) TimeGoesOn after later transmit)
    {readings : RequestReadings F} (reads : ReadsClock readings before after transmit)
    {server : NtpServer} {aead : Aead} {datagram reply : Bytes} {clientIpv4 clientPort : Nat}
    (aged : ∀ rxPtp rxQueue, server.rxQueue.take clientIpv4 clientPort = some (rxPtp, rxQueue) →
      KeepsAge rxPtp readings.map)
    (sent : (server.handle aead datagram clientIpv4 clientPort readings).sent =
      server.sent ++ [reply])
    (normal : 1 ≤ byteAt reply 1) : ReceiveFirst after transmit reply := by
  obtain ⟨clients, silent | ⟨request, reply', parsed, answers, replied⟩⟩ :=
    handle_cases server aead datagram clientIpv4 clientPort readings
  · rw [silent] at sent
    simp at sent
  obtain rfl : reply' = reply := by
    rw [replied] at sent
    simpa [NtpServer.sendto] using sent
  rcases answers.timestamps with kod | ⟨received, transmitted, taken, read, receive, transmit'⟩
  · rw [kod] at normal
    cases normal
  cases found : server.rxQueue.take clientIpv4 clientPort with
  | none => simp [ethServiceTakeNtpRxTimestamp, found] at taken
  | some entry =>
      simp only [ethServiceTakeNtpRxTimestamp, found] at taken
      obtain ⟨fits, reading, mapRead, le⟩ := mapRxTimestamp_le taken (aged _ _ found)
      obtain ⟨lock, mapAfter⟩ := reads.after
      obtain ⟨lock', clock⟩ := reads.transmit
      rw [getCurrentNtpTimestamp, clock] at read
      dsimp only at read
      have afterCount := getNtpTimestamp_count (mapAfter.symm.trans mapRead)
      have transmitCount := getNtpTimestamp_count read
      have goesOn := servedCount_le_of_run run
      rw [ReceiveFirst, readTimestamp_of_window fits receive,
        readTimestamp_of_window (getNtpTimestamp_fits read) transmit']
      omega

end

/-! ## What sets the clock back in exact arithmetic -/

theorem servedCount_rat (clock : ClockContext ℚ) (nowCaptureUs : Nat) :
    servedCount clock nowCaptureUs = appNtpEpochDelta * 2 ^ 32 +
      ⌊servedUtc clock nowCaptureUs * 4294967296⌋.toNat := by
  have seconds : servedSeconds clock nowCaptureUs =
      (Double.truncate (servedUtc clock nowCaptureUs)).toNat := rfl
  have fraction : servedFraction clock nowCaptureUs = u32 (Double.truncate
      ((servedUtc clock nowCaptureUs - ((servedSeconds clock nowCaptureUs : Int) : ℚ)) *
        ((4294967296 : Int) : ℚ))).toNat := rfl
  generalize servedUtc clock nowCaptureUs = utc at seconds fraction ⊢
  rw [servedCount, fraction, ntpSeconds, Int.cast_ofNat]
  by_cases negative : utc < 0
  · have whole : servedSeconds clock nowCaptureUs = 0 := seconds.trans (truncate_neg negative)
    have scaled : utc * 4294967296 < 0 := by linarith
    have part := truncate_neg scaled
    have below : ⌊utc * 4294967296⌋.toNat = 0 :=
      Int.toNat_of_nonpos ((Int.floor_mono scaled.le).trans_eq Int.floor_zero)
    rw [whole, Nat.cast_zero, Int.cast_zero, sub_zero, part, below]
    rfl
  · obtain ⟨whole, truncated, low, high⟩ := truncate_nonneg (not_lt.mp negative)
    obtain ⟨part, cut, low', high'⟩ := truncate_nonneg
      (show 0 ≤ (utc - whole) * 4294967296 by linarith)
    have small : part < 2 ^ 32 := by
      have : (part : ℚ) < 4294967296 := by linarith
      exact_mod_cast this
    have total : ⌊utc * 4294967296⌋ = ((whole * 4294967296 + part : Nat) : Int) := by
      refine Int.floor_eq_iff.mpr ⟨?_, ?_⟩ <;> push_cast <;> linarith
    rw [seconds, truncated, Int.toNat_natCast, Int.cast_natCast, cut, Int.toNat_natCast, u32_eq small,
      total, Int.toNat_natCast]
    omega

theorem servedCount_le {before after : ClockContext ℚ} {now later : Nat}
    (le : servedUtc before now ≤ servedUtc after later) :
    servedCount before now ≤ servedCount after later := by
  rw [servedCount_rat, servedCount_rat]
  have scaled : servedUtc before now * 4294967296 ≤ servedUtc after later * 4294967296 := by linarith
  exact Nat.add_le_add_left (Int.toNat_le_toNat (Int.floor_le_floor scaled)) _

/-- In exact arithmetic only a sample sets the clock back, one whose mapping is behind the mapping in
force when the sample is submitted. -/
theorem timeGoesOn_of_exact {s : ClockSystem ℚ} (disciplined : Disciplined s.clock)
    (anchored : s.clock.anchorCaptureUs ≤ s.counterUs) {event : ClockEvent}
    (later : s.counterUs ≤ event.now) (fits : event.now < 2 ^ 64)
    (ahead : ∀ now lock sample, event = .submit now lock sample →
      servedUtc s.clock now ≤ servedUtc (remapped s.clock event) now) : TimeGoesOn s event := by
  have passing := servedUtc_mono disciplined anchored later fits
  refine servedCount_le ?_
  cases event with
  | submit now lock sample => exact passing.trans (ahead now lock sample rfl)
  | wait now => exact passing
  | updateReference now gnss pps lock => exact passing
  | enforce now lock read => exact passing

def residenceReadings (mapped transmit : ClockSystem ℚ) : RequestReadings ℚ :=
  let reading : ClockReading ℚ := ⟨transmit.clock, true, some transmit.counterUs⟩
  { clientReadings with
    map := ⟨getNtpTimestamp mapped.clock true (some mapped.counterUs), some ⟨9, 0⟩,
      getNtpTimestamp mapped.clock true (some mapped.counterUs), true, 2, 0, 1000000, 1500000⟩
    softwareClock := reading
    statusClock := reading
    referenceClock := reading
    transmitClock := reading }

def residenceServer : NtpServer :=
  ⟨rxQueueInit.enqueue 1 123 ⟨8, 999990000⟩, ntpRateLimitInit, [], false⟩

def residenceReply (mapped transmit : ClockSystem ℚ) : Bytes :=
  ((residenceServer.handle keyedAead clientHeader 1 123 (residenceReadings mapped transmit)).sent.getD 0 [])

theorem residenceReadings_reads (mapped transmit : ClockSystem ℚ) :
    ReadsClock (residenceReadings mapped transmit) mapped mapped transmit :=
  ⟨⟨true, rfl⟩, ⟨true, rfl⟩, true, rfl⟩

def mappedAt (edgeUs : Nat) : ClockSystem ℚ := lockedSystem.apply quickLock (.wait edgeUs)

def sampledAt (edgeUs : Nat) : ClockSystem ℚ :=
  ((mappedAt edgeUs).apply quickLock (.submit edgeUs true (edgeSample edgeUs 1700000003))).apply
    quickLock (.wait (edgeUs + 100))

def residenceEvents (edgeUs : Nat) : List ClockEvent :=
  [.wait (edgeUs + 100), .submit edgeUs true (edgeSample edgeUs 1700000003)]

theorem residence_aged (mapped transmit : ClockSystem ℚ) (rxPtp : EthMacTime) (rxQueue : RxQueue)
    (taken : residenceServer.rxQueue.take 1 123 = some (rxPtp, rxQueue)) :
    KeepsAge rxPtp (residenceReadings mapped transmit).map := by
  have stamp : (residenceServer.rxQueue.take 1 123).map Prod.fst = some ⟨8, 999990000⟩ := by
    decide +kernel
  rw [taken, Option.map_some, Option.some.injEq] at stamp
  subst stamp
  rintro before - ptpNow ⟨⟩ after -
  exact Or.inr ⟨by decide, by decide, show (-500000000 : Int) ≤ 0 by decide,
    show (0 : Int) ≤ 1000000000 by decide⟩

theorem earlyEdge_receive_first : ReceiveFirst (mappedAt 3950000) (sampledAt 3950000)
    (residenceReply (mappedAt 3950000) (sampledAt 3950000)) := by
  have run : Run (clockStep quickLock) TimeGoesOn (mappedAt 3950000)
      (residenceEvents 3950000) (sampledAt 3950000) :=
    .next (.next .start (by decide +kernel) (clockStep_eq_some.mpr ⟨by decide +kernel, rfl⟩))
      (by decide +kernel) (clockStep_eq_some.mpr ⟨by decide +kernel, rfl⟩)
  have sent : (residenceServer.handle keyedAead clientHeader 1 123
      (residenceReadings (mappedAt 3950000) (sampledAt 3950000))).sent = residenceServer.sent ++
        [residenceReply (mappedAt 3950000) (sampledAt 3950000)] := by decide +kernel
  exact receive_not_after_transmit run (residenceReadings_reads _ _) (residence_aged _ _) sent
    (by decide +kernel)

/-- A sample that sets the clock back by 50 ms is accepted between the mapping and the transmit
timestamp of a request that is 10 us old. -/
theorem sample_between_reverses_timestamps : ¬∀ (config : Kconfig)
    (before after transmit : ClockSystem ℚ) (past earlier later : List ClockEvent),
    FreeRun (clockStep config) clockStart past before →
    FreeRun (clockStep config) before earlier after →
    FreeRun (clockStep config) after later transmit →
    ∀ readings, ReadsClock readings before after transmit →
    ∀ (server : NtpServer) aead datagram clientIpv4 clientPort reply,
      (server.handle aead datagram clientIpv4 clientPort readings).sent = server.sent ++ [reply] →
      1 ≤ byteAt reply 1 → ReceiveFirst after transmit reply := by
  intro claim
  have reached : FreeRun (clockStep quickLock) clockStart _ (mappedAt 4050000) :=
    .next steadySamples_lock trivial (clockStep_eq_some.mpr ⟨by decide, rfl⟩)
  have sampled : FreeRun (clockStep quickLock) (mappedAt 4050000) (residenceEvents 4050000)
      (sampledAt 4050000) :=
    .next (.next .start trivial (clockStep_eq_some.mpr ⟨by decide +kernel, rfl⟩)) trivial
      (clockStep_eq_some.mpr ⟨by decide +kernel, rfl⟩)
  have first := claim quickLock _ _ _ _ [] _ reached .start sampled _ (residenceReadings_reads _ _)
    residenceServer keyedAead clientHeader 1 123
    (residenceReply (mappedAt 4050000) (sampledAt 4050000)) (by decide +kernel) (by decide +kernel)
  exact absurd first (by decide +kernel)

end NtsTimeServer.Proof
