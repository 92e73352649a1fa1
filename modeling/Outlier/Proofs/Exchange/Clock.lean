import Outlier.Exchange.Clock
import Outlier.Proofs.Exchange.Computed
import Outlier.Proofs.Exchange.Decision

/-! The waits that the clock of a computer takes. -/
namespace Outlier

namespace Binary
variable {x : Float}

theorem isFinite_ofFloat (x : Float) : (ofFloat x).isFinite = x.isFinite := by
  change _ = x.toModel.unpack.isFinite
  rw [← ofUnpacked_unpack]
  cases x.toModel.unpack <;> rfl

theorem ofFloat_of_isFinite (h : x.isFinite = true) :
    ∃ s m e, ofFloat x = .finite s m e ∧ value x = signed s m * 2 ^ e := by
  rw [← isFinite_ofFloat] at h
  cases hx : ofFloat x with
  | nan => rw [hx] at h; cases h
  | infinite s => rw [hx] at h; cases h
  | finite s m e => exact ⟨s, m, e, rfl, by rw [value, hx]⟩

theorem powerOfTwo_neg (e : Int) :
    (2 : ℝ) ^ e * powerOfTwo (-e) = powerOfTwo e := by
  have hcast (d : Int) : (powerOfTwo d : ℝ) = 2 ^ (d.toNat : Int) := by
    rw [zpow_natCast]
    exact Nat.cast_pow 2 _
  rw [hcast, hcast, ← zpow_add₀ two_ne_zero]
  congr 1
  omega

end Binary

namespace Clock
open Binary (value powerOfTwo)
variable {x : Float} {now : Nat}

theorem ceiling_le_iff (m : Nat) (e : Int) (n : Nat) :
    ceiling m e ≤ n ↔ (m : ℝ) * 2 ^ e ≤ n := by
  have hunit : 0 < powerOfTwo (-e) := Binary.powerOfTwo_pos _
  have hunit' : (0 : ℝ) < powerOfTwo (-e) := Nat.cast_pos.mpr hunit
  have hle : ceiling m e ≤ n ↔ m * powerOfTwo e ≤ n * powerOfTwo (-e) := by
    unfold ceiling
    dsimp only
    rw [← Nat.lt_succ_iff, Nat.div_lt_iff_lt_mul hunit, Nat.succ_mul]
    omega
  rw [hle, ← mul_le_mul_iff_left₀ hunit', mul_assoc, Binary.powerOfTwo_neg]
  exact_mod_cast Iff.rfl

theorem ceiling_eq (m : Nat) (e : Int) : ceiling m e = ⌈(m : ℝ) * 2 ^ e⌉₊ :=
  eq_of_forall_ge_iff fun n => (ceiling_le_iff m e n).trans Nat.ceil_le.symm

/-- No computer waits for ever. -/
theorem system_of_not_isFinite (h : x.isFinite = false) : ∃ d, system now x = some d := by
  have hproduct : (x * 1000000000).isFinite ≠ true := fun hfinite =>
    Bool.false_ne_true (h.symm.trans (Binary.isFinite_of_isFinite_mul hfinite).1)
  rw [← Binary.isFinite_ofFloat] at hproduct
  unfold system
  cases hx : Binary.ofFloat (x * 1000000000) with
  | nan => exact ⟨_, rfl⟩
  | infinite s => exact ⟨_, rfl⟩
  | finite s m e =>
    rw [hx] at hproduct
    exact absurd rfl hproduct

theorem signed_ceiling_eq {s : Bool} {m : Nat} {e : Int}
    (h : (0 : ℝ) ≤ Binary.signed s m * 2 ^ e) :
    Binary.signed s (ceiling m e) = ⌈(Binary.signed s m : ℝ) * 2 ^ e⌉₊ := by
  have hpower : (0 : ℝ) < 2 ^ e := zpow_pos two_pos e
  have hsigned : (0 : ℝ) ≤ Binary.signed s m := nonneg_of_mul_nonneg_left h hpower
  rw [Int.cast_nonneg_iff] at hsigned
  cases s with
  | false =>
    simp only [Binary.signed, Bool.false_eq_true, if_false, Int.cast_natCast, ceiling_eq]
  | true =>
    obtain rfl : m = 0 := by
      simp only [Binary.signed, if_true] at hsigned
      omega
    have hceiling := ceiling_eq 0 e
    simp only [Nat.cast_zero, zero_mul, Nat.ceil_zero] at hceiling
    simp [Binary.signed, hceiling]

/-- A computer waits for a number of seconds that ends before its clock does. -/
theorem system_eq_none_iff (hx : (x * 1000000000).isFinite = true)
    (hx' : 0 ≤ value (x * 1000000000)) :
    system now x = none ↔ now + ⌈value (x * 1000000000)⌉₊ < range := by
  obtain ⟨s, m, e, hfloat, hvalue⟩ := Binary.ofFloat_of_isFinite hx
  have hrange : 0 < range := by decide
  rw [hvalue] at hx' ⊢
  simp only [system, hfloat, signed_ceiling_eq hx']
  split
  · exact iff_of_false nofun (by omega)
  split
  · exact iff_of_false nofun (by omega)
  split
  · exact iff_of_false nofun (by omega)
  · exact iff_of_true rfl (by omega)

end Clock

namespace Client
variable {σ : Type} {c : Client} {verb : Verb} {path : String} {body : Option (List UInt8)}
  {w : World σ} {q : Request} {s : σ}

/-- An infinite wait passes for one that is not negative, and puts an end to an exchange on every
computer. -/
theorem exchange_of_infinite_wait (hq : c.request verb path body = .ok q)
    (hr : 0 < c.connection.maxRetries) (hp : mayPass (taken q (w.replyAt q s 0)) = true)
    (hs : c.connection.shortestWait.isFinite = false) (hw : ∀ t, ∃ now, w.clock t = Clock.system now) :
    let o := c.exchange verb path body w s
    o.events.filterMap Event.request? = [q] ∧
      ∃ d : Clock.Defect, o.result = .error d.failure := by
  intro o
  have hseconds : (c.pauseAt w q s 1 0).seconds.isFinite = false := Pause.seconds_of_infinite hs
  obtain ⟨now, hnow⟩ := hw (w.stateAt q s 1)
  obtain ⟨d, hd⟩ : ∃ d, Clock.system now (c.pauseAt w q s 1 0).seconds = some d :=
    Clock.system_of_not_isFinite hseconds
  rw [← hnow] at hd
  obtain ⟨hrequests, hresult⟩ := exchange_of_refusal hq hr hp hd
  exact ⟨hrequests, d, hresult⟩

end Client
end Outlier
