import CreditHedge.Failure
import CreditHedge.Lib.ClockEstimates
import Mathlib.Algebra.Order.Floor.Ring
import Mathlib.Data.List.Induction
import Mathlib.Data.Rat.Floor
import Mathlib.Tactic.FieldSimp

/-!
# The exchange's clock

`infrastructure/bybit/clock.py`: private requests carry the exchange's time, which is estimated from
the local clock and the last observation of the other one. An observation that is too far off or too
uncertain is refused and the last one stays; one that is too old is not used any more. A time in
milliseconds is a number here, the seconds of the monotonic clock too.

The clocks of the world are functions of the exchange's own time (`WorldClocks`). So what the
estimate is worth can be said without it: how far a timestamp is from the time it was asked for
(`ServerClock.timestamp_near`).
-/

set_option autoImplicit false

namespace CreditHedge

/-- The exceptions of the clock, with what their texts are made of. -/
inductive ClockFailure where
  | valueError (message : String)
  | notSynchronized
  | drift (offsetMs : ℚ) (maximum : ℕ)
  | uncertainty (uncertaintyMs : ℚ) (maximum : ℕ)
  | stale (ageSeconds : ℚ)
  deriving DecidableEq, Repr

structure ClockSyncSample where
  offsetMs : ℚ
  roundTripTimeMs : ℤ
  uncertaintyMs : ℚ
  synchronizedAtMonotonic : ℚ
  deriving DecidableEq, Repr

/-- What the constructor sets for good. -/
structure ClockLimits where
  maxAbsoluteOffsetMs : ℕ := 500
  maxUncertaintyMs : ℕ := 250
  maxAgeSeconds : ℚ := 60
  maxAgeSeconds_pos : 0 < maxAgeSeconds := by decide +kernel

structure ServerClock where
  limits : ClockLimits
  sample : Option ClockSyncSample

namespace ServerClock

/-- `ServerClock.__init__`. -/
def create (maxAbsoluteOffsetMs maxUncertaintyMs : ℤ) (maxAgeSeconds : ℚ) :
    Except ClockFailure ServerClock :=
  if maxAbsoluteOffsetMs < 0 then
    .error (.valueError "maximum absolute offset must not be negative")
  else if maxUncertaintyMs < 0 then
    .error (.valueError "maximum uncertainty must not be negative")
  else if hage : maxAgeSeconds ≤ 0 then
    .error (.valueError "maximum clock sample age must be positive")
  else
    .ok
      { limits :=
          { maxAbsoluteOffsetMs := maxAbsoluteOffsetMs.toNat
            maxUncertaintyMs := maxUncertaintyMs.toNat
            maxAgeSeconds
            maxAgeSeconds_pos := pos_of_not_nonpos hage }
        sample := none }

/-- `_validate_quality`. -/
def validateQuality (limits : ClockLimits) (sample : ClockSyncSample) :
    Except ClockFailure Unit :=
  if |sample.offsetMs| > limits.maxAbsoluteOffsetMs then
    .error (.drift sample.offsetMs limits.maxAbsoluteOffsetMs)
  else if sample.uncertaintyMs > limits.maxUncertaintyMs then
    .error (.uncertainty sample.uncertaintyMs limits.maxUncertaintyMs)
  else .ok ()

/-- The sample of a request sent and a response received at these times. -/
def sampleOf (requestSentAtMs responseReceivedAtMs serverTimeMs : ℤ) (monotonic : ℚ) :
    ClockSyncSample :=
  let midpointMs : ℚ := (requestSentAtMs + responseReceivedAtMs) / 2
  { offsetMs := serverTimeMs - midpointMs
    roundTripTimeMs := responseReceivedAtMs - requestSentAtMs
    uncertaintyMs := ((responseReceivedAtMs - requestSentAtMs : ℤ) : ℚ) / 2
    synchronizedAtMonotonic := monotonic }

/-- `record_sample`, and the clock after it. -/
def recordSample (clock : ServerClock)
    (requestSentAtMs responseReceivedAtMs serverTimeMs : ℤ) (monotonic : ℚ) :
    Except ClockFailure ClockSyncSample × ServerClock :=
  if responseReceivedAtMs < requestSentAtMs then
    (.error (.valueError "response time must not precede request time"), clock)
  else
    let sample := sampleOf requestSentAtMs responseReceivedAtMs serverTimeMs monotonic
    match validateQuality clock.limits sample with
    | .error failure => (.error failure, clock)
    | .ok () => (.ok sample, { clock with sample := some sample })

/-- `int(…)`: towards zero. -/
def intOf (value : ℚ) : ℤ := if 0 ≤ value then ⌊value⌋ else ⌈value⌉

/-- `timestamp_ms`, where the monotonic clock and then the wall clock show these times. -/
def timestampMs (clock : ServerClock) (monotonic : ℚ) (wallTimeMs : ℤ) :
    Except ClockFailure ℤ :=
  match clock.sample with
  | none => .error .notSynchronized
  | some sample => do
    let ageSeconds := monotonic - sample.synchronizedAtMonotonic
    if ageSeconds < 0 ∨ ageSeconds > clock.limits.maxAgeSeconds then .error (.stale ageSeconds)
    else do
      validateQuality clock.limits sample
      .ok (intOf (wallTimeMs + sample.offsetMs))

theorem abs_intOf_sub_lt (value : ℚ) : |(intOf value : ℚ) - value| < 1 := by
  unfold intOf
  split
  · have := Int.floor_le value
    have := Int.lt_floor_add_one value
    exact abs_lt.mpr ⟨by linarith, by linarith⟩
  · have := Int.le_ceil value
    have := Int.ceil_lt_add_one value
    exact abs_lt.mpr ⟨by linarith, by linarith⟩

/-- A sample within the limits. -/
structure Tolerable (limits : ClockLimits) (sample : ClockSyncSample) : Prop where
  offset_le : |sample.offsetMs| ≤ limits.maxAbsoluteOffsetMs
  uncertainty_le : sample.uncertaintyMs ≤ limits.maxUncertaintyMs

theorem validateQuality_eq_ok {limits : ClockLimits} {sample : ClockSyncSample} :
    validateQuality limits sample = .ok () ↔ Tolerable limits sample := by
  unfold validateQuality
  split
  · rename_i hoffset
    exact ⟨fun h => absurd h (by simp), fun h => absurd h.offset_le (not_le.mpr hoffset)⟩
  · rename_i hoffset
    split
    · rename_i huncertainty
      exact ⟨fun h => absurd h (by simp),
        fun h => absurd h.uncertainty_le (not_le.mpr huncertainty)⟩
    · rename_i huncertainty
      exact ⟨fun _ => ⟨not_lt.mp hoffset, not_lt.mp huncertainty⟩, fun _ => rfl⟩

/-- The sample is there and within the limits: only its age counts. -/
theorem timestampMs_of_tolerable {clock : ServerClock} {sample : ClockSyncSample}
    (hsample : clock.sample = some sample) (htolerable : Tolerable clock.limits sample)
    (monotonic : ℚ) (wallTimeMs : ℤ) : clock.timestampMs monotonic wallTimeMs =
      if monotonic - sample.synchronizedAtMonotonic < 0 ∨
          clock.limits.maxAgeSeconds < monotonic - sample.synchronizedAtMonotonic then
        .error (.stale (monotonic - sample.synchronizedAtMonotonic))
      else .ok (intOf (wallTimeMs + sample.offsetMs)) := by
  unfold timestampMs
  rw [hsample]
  dsimp only
  rw [validateQuality_eq_ok.mpr htolerable]
  rfl

end ServerClock

/-! ## The clocks of the world -/

/-- What the local clocks show when the exchange's clock shows a time, in milliseconds: the wall
    clock in milliseconds and the monotonic clock in seconds. -/
structure WorldClocks where
  wall : ℚ → ℚ
  monotonic : ℚ → ℚ

/-- One observation of the exchange's clock: the request, the stamp of the response, its arrival and
    the moment it is recorded, in the exchange's time. -/
structure Synchronization where
  sent : ℚ
  stamped : ℚ
  received : ℚ
  recorded : ℚ
  sent_le : sent ≤ stamped
  stamped_le : stamped ≤ received

namespace Synchronization

variable (y : Synchronization) (clocks : WorldClocks)

/-- What the client makes of it: clocks show whole milliseconds. -/
def sample : ClockSyncSample :=
  ServerClock.sampleOf ⌊clocks.wall y.sent⌋ ⌊clocks.wall y.received⌋ ⌊y.stamped⌋
    (clocks.monotonic y.recorded)

def record (clock : ServerClock) : Except ClockFailure ClockSyncSample × ServerClock :=
  clock.recordSample ⌊clocks.wall y.sent⌋ ⌊clocks.wall y.received⌋ ⌊y.stamped⌋
    (clocks.monotonic y.recorded)

/-- The client keeps it. -/
def Accepted (limits : ClockLimits) : Prop :=
  ⌊clocks.wall y.sent⌋ ≤ ⌊clocks.wall y.received⌋ ∧
    ServerClock.Tolerable limits (y.sample clocks)

/-- How old it is by the monotonic clock. -/
def ageAt (now : ℚ) : ℚ := clocks.monotonic now - clocks.monotonic y.recorded

variable {y clocks}

open Classical in
theorem record_snd (clock : ServerClock) : (y.record clocks clock).2 =
    if y.Accepted clocks clock.limits then { clock with sample := some (y.sample clocks) }
    else clock := by
  unfold record ServerClock.recordSample
  split
  · rename_i hbefore
    rw [if_neg fun h => absurd h.1 (not_le.mpr hbefore)]
  · rename_i hbefore
    dsimp only
    split
    · rename_i failure hquality
      rw [if_neg fun h => by
        have hok := ServerClock.validateQuality_eq_ok.mpr h.2
        exact absurd (hok.symm.trans hquality) (by simp)]
    · rename_i hquality
      rw [if_pos ⟨not_lt.mp hbefore, ServerClock.validateQuality_eq_ok.mp hquality⟩]
      rfl

end Synchronization

namespace ServerClock

/-- The clock after these observations, the ones that failed among them. -/
def after (clock : ServerClock) (clocks : WorldClocks) (history : List Synchronization) :
    ServerClock :=
  history.foldl (fun clock y => (y.record clocks clock).2) clock

/-- `y` is the last observation of the history that was kept. -/
structure LastAccepted (limits : ClockLimits) (clocks : WorldClocks)
    (history : List Synchronization) (y : Synchronization) : Prop where
  accepted : y.Accepted clocks limits
  split : ∃ earlier later, history = earlier ++ y :: later ∧
    ∀ z ∈ later, ¬ z.Accepted clocks limits

/-- A fresh clock after a history: its limits, and the last observation it kept. -/
structure Observed (limits : ClockLimits) (clocks : WorldClocks) (history : List Synchronization)
    (clock : ServerClock) : Prop where
  limits_eq : clock.limits = limits
  sample : (clock.sample = none ∧ ∀ y ∈ history, ¬ y.Accepted clocks limits) ∨
    ∃ y, clock.sample = some (y.sample clocks) ∧ LastAccepted limits clocks history y

theorem observed (limits : ClockLimits) (clocks : WorldClocks) (history : List Synchronization) :
    Observed limits clocks history (({ limits, sample := none } : ServerClock).after clocks
      history) := by
  induction history using List.reverseRecOn with
  | nil => exact ⟨rfl, Or.inl ⟨rfl, fun _ h => absurd h (by simp)⟩⟩
  | append_singleton history y ih =>
    unfold after at ih ⊢
    rw [List.foldl_append, List.foldl_cons, List.foldl_nil, Synchronization.record_snd,
      ih.limits_eq]
    split
    · rename_i haccepted
      exact ⟨rfl, Or.inr ⟨y, rfl, haccepted, history, [], rfl,
        fun _ h => absurd h (by simp)⟩⟩
    · rename_i hrefused
      refine ⟨ih.limits_eq, ?_⟩
      rcases ih.sample with ⟨hnone, hall⟩ | ⟨x, hsample, haccepted, earlier, later, hsplit, hlater⟩
      · refine Or.inl ⟨hnone, fun z hz => ?_⟩
        rcases List.mem_append.mp hz with hz | hz
        · exact hall z hz
        · rw [List.mem_singleton.mp hz]
          exact hrefused
      · refine Or.inr ⟨x, hsample, haccepted, earlier, later ++ [y], ?_, fun z hz => ?_⟩
        · rw [hsplit, List.append_assoc, List.cons_append]
        · rcases List.mem_append.mp hz with hz | hz
          · exact hlater z hz
          · rw [List.mem_singleton.mp hz]
            exact hrefused

/-- What an observation that was kept says of a later moment: the estimate is off by half its round
    trip, by what the clocks have drifted apart since, and by what reading them costs. -/
theorem intOf_near {limits : ClockLimits} {clocks : WorldClocks} {y : Synchronization}
    (haccepted : y.Accepted clocks limits) {now drift : ℚ}
    (hsent : ClockEstimates.Steady drift clocks.wall y.sent now)
    (hreceived : ClockEstimates.Steady drift clocks.wall y.received now) :
    |(intOf (⌊clocks.wall now⌋ + (y.sample clocks).offsetMs) : ℚ) - now| <
      limits.maxUncertaintyMs + drift + 7 / 2 := by
  have hreads : ∀ x : ℚ, ClockEstimates.Reads (⌊x⌋ : ℚ) x := fun x =>
    ⟨Int.floor_le x, Int.lt_floor_add_one x⟩
  have hmid := ClockEstimates.midpoint_error_of_readings y.sent_le y.stamped_le hsent hreceived
    (hreads (clocks.wall now)) (hreads (clocks.wall y.sent)) (hreads (clocks.wall y.received))
    (hreads y.stamped)
  have huncertainty := haccepted.2.uncertainty_le
  have hoffset : (y.sample clocks).offsetMs =
      ⌊y.stamped⌋ - ((⌊clocks.wall y.sent⌋ : ℚ) + ⌊clocks.wall y.received⌋) / 2 := rfl
  have hunc : (y.sample clocks).uncertaintyMs =
      ((⌊clocks.wall y.received⌋ : ℚ) - ⌊clocks.wall y.sent⌋) / 2 := by
    simp only [Synchronization.sample, sampleOf, Int.cast_sub]
  rw [hunc] at huncertainty
  rw [← hoffset] at hmid
  have hint := abs_intOf_sub_lt (⌊clocks.wall now⌋ + (y.sample clocks).offsetMs)
  calc |(intOf (⌊clocks.wall now⌋ + (y.sample clocks).offsetMs) : ℚ) - now|
      ≤ |(intOf (⌊clocks.wall now⌋ + (y.sample clocks).offsetMs) : ℚ) -
          (⌊clocks.wall now⌋ + (y.sample clocks).offsetMs)| +
        |⌊clocks.wall now⌋ + (y.sample clocks).offsetMs - now| := abs_sub_le ..
    _ < limits.maxUncertaintyMs + drift + 7 / 2 := by linarith

/-- **What a timestamp is worth.** Over every history of observations, the ones that failed among
    them: a timestamp rests on the last observation that was kept, which is not too old, and is as
    near to the exchange's time as that one is certain and the clocks have not drifted apart since.
    It is refused only where no observation was kept, or the last one that was is too old. -/
theorem timestamp_near (limits : ClockLimits) (clocks : WorldClocks)
    (history : List Synchronization) (checked now : ℚ) :
    match (({ limits, sample := none } : ServerClock).after clocks history).timestampMs
      (clocks.monotonic checked) ⌊clocks.wall now⌋ with
    | .ok timestamp => ∃ y, LastAccepted limits clocks history y ∧
        0 ≤ y.ageAt clocks checked ∧ y.ageAt clocks checked ≤ limits.maxAgeSeconds ∧
        ∀ drift, ClockEstimates.Steady drift clocks.wall y.sent now →
          ClockEstimates.Steady drift clocks.wall y.received now →
          |(timestamp : ℚ) - now| < limits.maxUncertaintyMs + drift + 7 / 2
    | .error failure =>
        (failure = .notSynchronized ∧ ∀ y ∈ history, ¬ y.Accepted clocks limits) ∨
        ∃ y, failure = .stale (y.ageAt clocks checked) ∧ LastAccepted limits clocks history y ∧
          (y.ageAt clocks checked < 0 ∨ limits.maxAgeSeconds < y.ageAt clocks checked) := by
  obtain ⟨hlimits, hsample⟩ := observed limits clocks history
  generalize ({ limits, sample := none } : ServerClock).after clocks history = clock at *
  rcases hsample with ⟨hnone, hall⟩ | ⟨y, hsome, hlast⟩
  · unfold timestampMs
    rw [hnone]
    exact Or.inl ⟨rfl, hall⟩
  · have htolerable : Tolerable clock.limits (y.sample clocks) := by
      rw [hlimits]
      exact hlast.accepted.2
    have hold : clocks.monotonic checked - (y.sample clocks).synchronizedAtMonotonic =
        y.ageAt clocks checked := rfl
    rw [timestampMs_of_tolerable hsome htolerable, hlimits, hold]
    by_cases hage : y.ageAt clocks checked < 0 ∨ limits.maxAgeSeconds < y.ageAt clocks checked
    · rw [if_pos hage]
      exact Or.inr ⟨y, rfl, hlast, hage⟩
    · rw [if_neg hage]
      obtain ⟨hborn, hyoung⟩ := not_or.mp hage
      exact ⟨y, hlast, not_lt.mp hborn, not_lt.mp hyoung,
        fun _ hsent hreceived => intOf_near hlast.accepted hsent hreceived⟩

end ServerClock

end CreditHedge
