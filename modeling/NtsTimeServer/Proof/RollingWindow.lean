import NtsTimeServer.Lib.Window
import NtsTimeServer.Model.PeerMonitor

namespace NtsTimeServer.Proof
open Model Lib

variable {runtime : PeerRuntime} {monitor : PeerMonitor} {peer : Fin 4}
  {past : List (Int × Int)}

/-- The pairs that `update_success` has been given for the peer since its slot was reset. -/
def samplesAfter (peer : Fin 4) (past : List (Int × Int)) : SlotEvent → List (Int × Int)
  | .reset index _ => if index = peer then [] else past
  | .success index _ _ offsetNs delayNs _ =>
      if index = peer then past ++ [(offsetNs, delayNs)] else past
  | .failure .. | .kod .. => past

def jitterOf (offsets : List Int) : Int :=
  if offsets.length > 1 then
    isqrtU64 ((offsets.tail.zip offsets).foldl
      (fun sum (offset, earlier) => addSquare sum (i64 (offset - earlier))) 0 / (offsets.length - 1))
  else 0

structure RollingInOrder (runtime : PeerRuntime) (past : List (Int × Int)) : Prop where
  sizes : runtime.offset.length = 16 ∧ runtime.delay.length = 16
  count_eq : runtime.count = min past.length 16
  next_lt : runtime.next < 16
  kept : (runtime.offset.zip runtime.delay).take runtime.count = past.rtake 16
  /-- The neighbours whose differences are taken are neighbours in the past. -/
  neighbours : (runtime.offset.take runtime.count).tail.zip (runtime.offset.take runtime.count) <:+
    (past.map Prod.fst).tail.zip (past.map Prod.fst)

structure Rings (runtime : PeerRuntime) (past : List (Int × Int)) : Prop where
  offsets : Window 16 runtime.offset runtime.count runtime.next (past.map Prod.fst)
  delays : Window 16 runtime.delay runtime.count runtime.next (past.map Prod.snd)

theorem Rings.reset : Rings zeroRuntime [] :=
  ⟨Window.empty (by decide) rfl, Window.empty (by decide) rfl⟩

theorem Rings.record (rings : Rings runtime past) (serverT3 : Nat) (offsetNs delayNs nowUs : Int) :
    Rings (recordSample runtime serverT3 offsetNs delayNs nowUs) (past ++ [(offsetNs, delayNs)]) := by
  constructor
  · rw [List.map_append]
    exact rings.offsets.push offsetNs (by decide)
  · rw [List.map_append]
    exact rings.delays.push delayNs (by decide)

theorem Rings.inOrder (rings : Rings runtime past) : RollingInOrder runtime past where
  sizes := ⟨rings.offsets.length_eq, rings.delays.length_eq⟩
  count_eq := by simpa using rings.offsets.count_eq
  next_lt := rings.offsets.next_lt (by decide)
  kept := by
    have zipped := rings.offsets.zip rings.delays (by simp)
    rwa [← List.zip_unzip past, List.unzip_eq_map] 
  neighbours := rings.offsets.neighbours

/-! ## The jitter -/

theorem computeRollingStats_jitterNs (status : PeerStatus) (rings : Rings runtime past)
    (sampled : past ≠ []) :
    (computeRollingStats runtime status).jitterNs = jitterOf ((past.map Prod.fst).rtake 16) := by
  have some_samples : runtime.count ≠ 0 := by
    have := rings.inOrder.count_eq
    have := List.length_pos_iff.mpr sampled
    omega
  have counted : (runtime.offset.take runtime.count).length = runtime.count := by
    have := rings.inOrder.sizes.1
    have := rings.inOrder.count_eq
    simp
    omega
  rw [computeRollingStats, if_neg some_samples, ← rings.offsets.kept, jitterOf, counted]

structure Tracks (monitor : PeerMonitor) (peer : Fin 4) (past : List (Int × Int)) : Prop where
  rings : Rings (monitor.runtime peer) past
  jitter : monitor.lock = true → (monitor.status peer).jitterNs = jitterOf ((past.map Prod.fst).rtake 16)

theorem Tracks.reset (monitor : PeerMonitor) (peer : Fin 4) (configured : Bool) :
    Tracks (resetPeerSlot monitor peer configured) peer [] := by
  cases lock : monitor.lock with
  | false =>
      have reset : resetPeerSlot monitor peer configured = monitor.setRuntime peer zeroRuntime := by
        simp [resetPeerSlot, lock]
      rw [reset]
      exact ⟨by simpa using Rings.reset, by simp [lock]⟩
  | true =>
      have reset : resetPeerSlot monitor peer configured = (monitor.setRuntime peer zeroRuntime).setStatus
          peer (zeroStatus (if configured then .unknown else .disabled)) := by
        simp [resetPeerSlot, lock]
      rw [reset]
      exact ⟨by simpa using Rings.reset, by simp [zeroStatus, jitterOf]⟩

theorem Tracks.congr {after : PeerMonitor} (tracks : Tracks monitor peer past)
    (runtime : after.runtime peer = monitor.runtime peer) (lock : after.lock = monitor.lock)
    (jitter : (after.status peer).jitterNs = (monitor.status peer).jitterNs) :
    Tracks after peer past :=
  ⟨runtime ▸ tracks.rings, fun locked => jitter.trans (tracks.jitter (lock ▸ locked))⟩

theorem Tracks.success (tracks : Tracks monitor peer past) (packet : Bytes) (serverT3 : Nat)
    (offsetNs delayNs nowUs : Int) :
    Tracks (updateSuccess monitor peer packet serverT3 offsetNs delayNs nowUs) peer
      (past ++ [(offsetNs, delayNs)]) := by
  have rings := tracks.rings.record serverT3 offsetNs delayNs nowUs
  cases lock : monitor.lock with
  | false =>
      have recorded : updateSuccess monitor peer packet serverT3 offsetNs delayNs nowUs =
          monitor.setRuntime peer (recordSample (monitor.runtime peer) serverT3 offsetNs delayNs nowUs) := by
        simp [updateSuccess, lock]
      rw [recorded]
      exact ⟨by simpa using rings, by simp [lock]⟩
  | true =>
      constructor
      · simpa [updateSuccess, lock] using rings
      · intro _
        simp only [updateSuccess, PeerMonitor.setRuntime_lock, lock, not_true_eq_false, if_false,
          PeerMonitor.setStatus_status, Function.update_self]
        exact computeRollingStats_jitterNs _ rings (by simp)

theorem Tracks.apply (tracks : Tracks monitor peer past) (event : SlotEvent) :
    Tracks (monitor.apply event) peer (samplesAfter peer past event) := by
  cases event with
  | reset index configured =>
      rw [samplesAfter]
      split
      · rename_i same
        exact same ▸ Tracks.reset monitor index configured
      · rename_i other
        apply tracks.congr <;> simp only [PeerMonitor.apply, resetPeerSlot] <;> split <;>
          simp [Function.update_of_ne (Ne.symm other)]
  | failure index requested flags =>
      apply tracks.congr <;> simp only [PeerMonitor.apply, updateFailure] <;> split <;> try simp
      by_cases same : peer = index
      · simp [same]
      · simp [same]
  | kod index response =>
      apply tracks.congr <;> simp only [PeerMonitor.apply, countKod] <;> split <;> try simp
      by_cases same : peer = index
      · simp [same]
      · simp [same]
  | success index packet serverT3 offsetNs delayNs nowUs =>
      rw [samplesAfter]
      split
      · rename_i same
        subst same
        exact tracks.success packet serverT3 offsetNs delayNs nowUs
      · rename_i other
        apply tracks.congr <;> simp only [PeerMonitor.apply, updateSuccess] <;> split <;>
          simp [Function.update_of_ne (Ne.symm other)]

theorem Tracks.run (tracks : Tracks monitor peer past) (events : List SlotEvent) :
    Tracks (events.foldl PeerMonitor.apply monitor) peer
      (events.foldl (samplesAfter peer) past) := by
  induction events generalizing monitor past with
  | nil => exact tracks
  | cons event rest ih => exact ih (tracks.apply event)

theorem rolling_window_in_order (monitor : PeerMonitor) (peer : Fin 4) (configured : Bool)
    (events : List SlotEvent) :
    let samples := events.foldl (samplesAfter peer) []
    let reached := events.foldl PeerMonitor.apply (resetPeerSlot monitor peer configured)
    RollingInOrder (reached.runtime peer) samples ∧
      (reached.lock = true →
        (reached.status peer).jitterNs = jitterOf ((samples.map Prod.fst).rtake 16)) := by
  have tracks := (Tracks.reset monitor peer configured).run events
  exact ⟨tracks.rings.inOrder, tracks.jitter⟩

end NtsTimeServer.Proof
