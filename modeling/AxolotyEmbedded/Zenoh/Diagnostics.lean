import Mathlib.Data.BitVec
import Mathlib.Logic.Function.Basic
import AxolotyEmbedded.Library.Wrapping

/-!
The transport-neutral counters of `carrier_diagnostics.c`, as one caller at a
time updates them: counters that saturate, and a gauge with its high-water mark.
-/
namespace AxolotyEmbedded.Zenoh

inductive CarrierMetric where
  | publishAttempts | publishFailures | framesReceived | framesDropped | framesOversized
  | pollErrors | sessionOpens | sessionCloses | sessionFailures | reconnectsObserved
  deriving DecidableEq, Repr

structure CarrierDiagnostics where
  counters : CarrierMetric → BitVec 32
  activeSubscriptions : BitVec 32
  activeSubscriptionsPeak : BitVec 32

/-- The static counter set. -/
def CarrierDiagnostics.zeroed : CarrierDiagnostics := ⟨fun _ => 0, 0, 0⟩

/-- The value `saturating_add` stores. -/
def saturatingAdd (current amount : BitVec 32) : BitVec 32 :=
  if BitVec.allOnes 32 - amount < current then BitVec.allOnes 32 else current + amount

namespace CarrierDiagnostics
variable (diagnostics : CarrierDiagnostics)

/-- `carrier_diagnostics_add` of one. -/
def add (metric : CarrierMetric) : CarrierDiagnostics :=
  { diagnostics with counters :=
      Function.update diagnostics.counters metric (saturatingAdd (diagnostics.counters metric) 1) }

/-- `carrier_diagnostics_set_active_subscriptions`. -/
def setActiveSubscriptions (active : BitVec 32) : CarrierDiagnostics :=
  { diagnostics with
    activeSubscriptions := active
    activeSubscriptionsPeak := if diagnostics.activeSubscriptionsPeak < active then active
      else diagnostics.activeSubscriptionsPeak }

theorem counters_add_self (metric : CarrierMetric) :
    (diagnostics.add metric).counters metric = saturatingAdd (diagnostics.counters metric) 1 :=
  Function.update_self ..

theorem counters_add_of_ne {metric other : CarrierMetric} (ne : other ≠ metric) :
    (diagnostics.add metric).counters other = diagnostics.counters other :=
  Function.update_of_ne ne ..

theorem peak_setActiveSubscriptions_zero :
    (diagnostics.setActiveSubscriptions 0).activeSubscriptionsPeak =
      diagnostics.activeSubscriptionsPeak := by
  simp [setActiveSubscriptions]

theorem le_peak_setActiveSubscriptions (active : BitVec 32) :
    active ≤ (diagnostics.setActiveSubscriptions active).activeSubscriptionsPeak := by
  rw [setActiveSubscriptions]
  split
  · exact BitVec.le_refl _
  · rename_i high
    exact BitVec.not_lt.mp high

end CarrierDiagnostics

/-- Saturation: the counter stays at its largest value. -/
theorem toNat_saturatingAdd (current amount : BitVec 32) :
    (saturatingAdd current amount).toNat = min (current.toNat + amount.toNat) (2 ^ 32 - 1) := by
  have bound := current.isLt
  have bound' := amount.isLt
  have room : (BitVec.allOnes 32 - amount).toNat = 2 ^ 32 - 1 - amount.toNat := by
    rw [BitVec.toNat_sub_of_le (BitVec.le_def.mpr (by rw [BitVec.toNat_allOnes]; omega)),
      BitVec.toNat_allOnes]
  rw [saturatingAdd]
  split
  · rename_i full
    rw [BitVec.lt_def, room] at full
    rw [BitVec.toNat_allOnes]
    omega
  · rename_i fits
    rw [BitVec.lt_def, room] at fits
    rw [BitVec.toNat_add, Nat.mod_eq_of_lt (by omega)]
    omega

theorem toNat_saturatingAdd_one (current : BitVec 32) :
    (saturatingAdd current 1).toNat = min (current.toNat + 1) (2 ^ 32 - 1) :=
  toNat_saturatingAdd current 1

theorem le_saturatingAdd (current amount : BitVec 32) : current ≤ saturatingAdd current amount := by
  have bound := current.isLt
  rw [BitVec.le_def, toNat_saturatingAdd]
  omega

end AxolotyEmbedded.Zenoh
