import Mathlib.Algebra.Ring.Nat
import ProxyClient.Foundations.Times

/-! The delays and timeouts of `worker.rs`, in nanoseconds.
Their floating-point products are exact until `Duration` rounds them to a nanosecond: the factors
of a delay are a few seconds and a fraction with 48 bits, and a length below 2^53 is divided by a
power of two.
-/

namespace ProxyClient

open Foundations

/-- A second, in nanoseconds. -/
def second : Nat := 10 ^ 9

/-- `Duration::MAX`. -/
def durationMax : Nat := 2 ^ 64 * second - 1

/-- `RECONNECT_DELAY`. -/
def firstReconnectDelay : Nat := second

def maxReconnectDelay : Nat := 30 * second
def stableConnection : Nat := 60 * second

/-- `MIN_BULK_THROUGHPUT`, in bytes per second. -/
def minBulkThroughput : Nat := 64 * 1024

def maxBulkSendTimeout : Nat := 45 * second

-----------------------------------------------------------------------------------------
-- Reconnecting
-----------------------------------------------------------------------------------------

/-- The base of a delay, which doubles with each quick failure after the first, up to a limit. -/
def reconnectBase (quickFailures : UInt32) : Nat :=
  let exponent := min (quickFailures.toNat - 1) 5
  min (firstReconnectDelay * 2 ^ exponent) maxReconnectDelay

/-- `random_fraction`, as a numerator over 2^48. -/
def randomFraction (uuid : BitVec 128) : Nat := (uuid >>> 80).toNat

/-- `reconnect_delay`, with a fraction over 2^48. -/
def reconnectDelay (quickFailures : UInt32) (fraction : Nat) : Nat :=
  roundEven (reconnectBase quickFailures * (2 ^ 48 + min fraction (2 ^ 48))) (2 ^ 49)

theorem second_le_reconnectBase (quickFailures : UInt32)
    : second ≤ reconnectBase quickFailures := by
  have positive := Nat.one_le_two_pow (n := min (quickFailures.toNat - 1) 5)
  refine Nat.le_min.mpr ⟨Nat.le_mul_of_pos_right _ positive, ?_⟩
  decide

/-- The jitter takes at most half of the base away. -/
theorem reconnectDelay_bounds (quickFailures : UInt32) (fraction : Nat)
    : reconnectBase quickFailures ≤ 2 * reconnectDelay quickFailures fraction
      ∧ reconnectDelay quickFailures fraction ≤ reconnectBase quickFailures := by
  have positive : 0 < 2 ^ 49 := by decide
  have whole : reconnectBase quickFailures = 2 * (reconnectBase quickFailures / 2) := by
    have even
        : ∀ exponent ≤ 5, min (firstReconnectDelay * 2 ^ exponent) maxReconnectDelay % 2 = 0 := by
      decide
    have here := even (min (quickFailures.toNat - 1) 5) (Nat.min_le_right _ _)
    have same : reconnectBase quickFailures % 2 = 0 := here
    omega
  constructor
  · have half : reconnectBase quickFailures / 2 ≤ reconnectDelay quickFailures fraction := by
      apply le_roundEven positive
      calc
        reconnectBase quickFailures / 2 * 2 ^ 49
          = reconnectBase quickFailures / 2 * 2 * 2 ^ 48 := by omega
        _ ≤ reconnectBase quickFailures * 2 ^ 48 :=
            Nat.mul_le_mul_right _ (Nat.div_mul_le_self _ _)
        _ ≤ reconnectBase quickFailures * (2 ^ 48 + min fraction (2 ^ 48)) :=
            Nat.mul_le_mul_left _ (Nat.le_add_right _ _)
    omega
  · apply roundEven_le positive
    have clamped : 2 ^ 48 + min fraction (2 ^ 48) ≤ 2 ^ 49 :=
      Nat.add_le_add_left (Nat.min_le_right fraction (2 ^ 48)) (2 ^ 48)
    exact Nat.mul_le_mul_left _ clamped

/-- A delay is half a second at least. -/
theorem reconnectDelay_ge (quickFailures : UInt32) (fraction : Nat)
    : second ≤ 2 * reconnectDelay quickFailures fraction :=
  Nat.le_trans (second_le_reconnectBase _) (reconnectDelay_bounds _ _).1

example : reconnectDelay 3 (2 ^ 48) = 4 * second ∧ reconnectDelay 60 0 = 15 * second := by decide

-----------------------------------------------------------------------------------------
-- Timeouts
-----------------------------------------------------------------------------------------

/-- The time that a length takes at the least throughput. -/
def transferTime (length : Nat) : Nat := roundEven (length * second) minBulkThroughput

/-- `scaled_timeout`. -/
def scaledTimeout (base length cap : Nat) : Nat :=
  max (min (min (base + transferTime length) durationMax) cap) base

def bulkSendTimeout (sendTimeout length : Nat) : Nat :=
  scaledTimeout sendTimeout length maxBulkSendTimeout

/-- The limit of a scaled timeout gives way to its base only. -/
theorem scaledTimeout_le (base length cap : Nat)
    : scaledTimeout base length cap ≤ max cap base := by
  unfold scaledTimeout
  omega

/-- Below its limit a scaled timeout adds the time of the transfer to its base. -/
theorem le_scaledTimeout {base length cap : Nat} (short : cap ≤ durationMax)
    : min (base + transferTime length) cap ≤ scaledTimeout base length cap := by
  unfold scaledTimeout
  omega

end ProxyClient
