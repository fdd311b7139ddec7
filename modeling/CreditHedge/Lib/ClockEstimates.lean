import Mathlib.Algebra.Order.Field.Basic
import Mathlib.Tactic.Linarith
import Mathlib.Tactic.Ring

/-!
# Reading a distant clock

A distant clock is asked for its time. The question leaves at `sent`, is answered at `stamped` and
the answer arrives at `received`, all by the distant clock; of these only `stamped` is told, and the
other two are known by a local clock, a function of the distant one's time. The local midpoint of the
two stands for the moment of the answer, so it is off by at most half the round trip, and later
readings of the local clock, moved by what the midpoint was off from `stamped`, are off by as much
and what the clocks have drifted apart (`midpoint_error`).

Clocks are read in whole units, rounded down, and that adds its own error
(`midpoint_error_of_readings`).
-/

set_option autoImplicit false

namespace ClockEstimates

variable {K : Type*} [Field K] [LinearOrder K] [IsStrictOrderedRing K]

/-- From `a` to `b` the clock has moved by what it should, but for `drift`. -/
def Steady (drift : K) (clock : K → K) (a b : K) : Prop := |clock b - clock a - (b - a)| ≤ drift

/-- A value read in whole units. -/
structure Reads (reading value : K) : Prop where
  le : reading ≤ value
  lt : value < reading + 1

variable {clock : K → K} {sent stamped received now drift : K}

/-- **The midpoint's error** is half the round trip and the drift since. -/
theorem midpoint_error (hsent : sent ≤ stamped) (hreceived : stamped ≤ received)
    (hs : Steady drift clock sent now) (hr : Steady drift clock received now) :
    |clock now + (stamped - (clock sent + clock received) / 2) - now| ≤
      (clock received - clock sent) / 2 + drift := by
  obtain ⟨hs₁, hs₂⟩ := abs_le.mp hs
  obtain ⟨hr₁, hr₂⟩ := abs_le.mp hr
  exact abs_le.mpr ⟨by linarith, by linarith⟩

/-- **The same of clocks that are read in whole units**: half the round trip as it was read, the
    drift, and five halves for the four readings. -/
theorem midpoint_error_of_readings {now' sent' stamped' received' : K} (hsent : sent ≤ stamped)
    (hreceived : stamped ≤ received) (hs : Steady drift clock sent now)
    (hr : Steady drift clock received now) (hnow' : Reads now' (clock now))
    (hsent' : Reads sent' (clock sent)) (hreceived' : Reads received' (clock received))
    (hstamped' : Reads stamped' stamped) :
    |now' + (stamped' - (sent' + received') / 2) - now| <
      (received' - sent') / 2 + drift + 5 / 2 := by
  obtain ⟨hlow, hhigh⟩ := abs_le.mp (midpoint_error hsent hreceived hs hr)
  have := hnow'.le
  have := hnow'.lt
  have := hsent'.le
  have := hsent'.lt
  have := hreceived'.le
  have := hreceived'.lt
  have := hstamped'.le
  have := hstamped'.lt
  exact abs_lt.mpr ⟨by linarith, by linarith⟩

end ClockEstimates
