import Outlier.Proofs.Exchange.Computed
import Outlier.Proofs.Exchange.Waits
import Outlier.Proofs.Settings.Loaded

/-! The waits that loaded settings lead to, with all numbers rounded. -/
namespace Outlier

namespace Connection
variable {look : String → Option Value} {x : Connection} {v : Value} {a : Float}

theorem pos_of_readPositive (h : readPositive v = .ok a) : 0 < a := by
  obtain ⟨b, -, h⟩ := ok_of_bind h
  split at h
  next hpos => cases h; exact hpos
  · cases h

theorem nonneg_of_readNonnegative (h : readNonnegative v = .ok a) : 0 ≤ a := by
  obtain ⟨b, -, h⟩ := ok_of_bind h
  split at h
  next hnonneg => cases h; exact hnonneg
  · cases h

theorem timeout_pos (h : check look = .good x) : 0 < x.timeout := by
  have hdefault : (0 : Float) < 30 := by decide +kernel
  exact Checked.holds_of_part (isRead_of_check h).timeout hdefault fun _ _ => pos_of_readPositive

theorem waits_nonneg (h : check look = .good x) : 0 ≤ x.shortestWait ∧ 0 ≤ x.longestWait := by
  have hdefaults : (0 : Float) ≤ 1 ∧ (0 : Float) ≤ 15 := by decide +kernel
  have hread := isRead_of_check h
  constructor
  · exact Checked.holds_of_part hread.shortestWait hdefaults.1 fun _ _ => nonneg_of_readNonnegative
  · exact Checked.holds_of_part hread.longestWait hdefaults.2 fun _ _ => nonneg_of_readNonnegative

/-- Settings that load have a positive timeout, and no wait comes out negative. Waits are finite as
long as the longest one with its share is. An infinite number is taken for a wait like any other,
and no wait is finite if it is the shortest one. -/
theorem delays_of_load {given : Pairs Value} {sources : Sources}
    (h : load given sources = .ok x) :
    0 < x.timeout ∧ ∀ (σ : Type) (c : Client) (verb : Verb) (path : String)
      (body : Option (List UInt8)) (w : World σ) (s : σ), c.connection = x → w.DrawsShares →
      ∀ p ∈ Client.waits (c.exchange verb path body w s),
        let longest := x.longestWait + p.jitter * x.shortestWait
        ¬ p.seconds < 0 ∧
        (x.shortestWait.isFinite = true → 0 ≤ p.seconds) ∧
        (x.shortestWait.isFinite = false → p.seconds.isFinite = false) ∧
        (longest.isFinite = true → p.seconds.isFinite = true ∧ 0 ≤ p.seconds) ∧
        (Backoff.limit < p.retry → p.seconds = longest) := by
  obtain ⟨hs, hl⟩ := waits_nonneg (verdict_ok h)
  refine ⟨timeout_pos (verdict_ok h), ?_⟩
  intro σ c verb path body w s hx hw p hp longest
  obtain ⟨hps, hpl, t, hpj⟩ := Client.of_mem_waits hp
  rw [hx] at hps hpl
  rw [← hps] at hs
  rw [← hpl] at hl
  have hs' := (Binary.nonneg_iff.mp hs).1
  have hj : ¬ p.jitter < 0 := hpj ▸ (Binary.nonneg_iff.mp (hw t).1).1
  have hj' : p.jitter.isFinite = true := hpj ▸ hw.isFinite t
  have hlongest : longest = p.longest + p.jitter * p.shortest := by rw [hpl, hps]
  have hnonneg (hfinite : p.shortest.isFinite = true) : 0 ≤ p.seconds :=
    Pause.seconds_nonneg hs' hfinite hl hj hj'
  rw [← hps, hlongest]
  refine ⟨Pause.seconds_not_neg hs' hl hj, hnonneg, Pause.seconds_of_infinite, ?_, ?_⟩
  · intro hfinite
    have hshare := (Binary.isFinite_of_isFinite_add hfinite).2
    exact ⟨Pause.isFinite_seconds hs' hl hj hfinite,
      hnonneg (Binary.isFinite_of_isFinite_mul hshare).2⟩
  · exact Pause.seconds_of_limit

/-- Given values that make up the connection of a client whose server fails all the time. -/
def pacedBy (shortest : String) : Pairs Value :=
  [("token", .text "test-token"), ("app_name", .text "test-app"), ("url", .text "https://h"),
    ("max_retries", .int 1), ("min_retry_delay", .text shortest)]

theorem delays_of_load_paced :
    let c := Client.paced 1 1 15
    let p : Pause := ⟨1, 15, 0.5, 1⟩
    load (pacedBy "1") ⟨[], []⟩ = .ok c.connection ∧ 0 < c.connection.timeout ∧
      p ∈ Client.waits (c.exchange .get "/l" none (Client.failing 0.5) ()) ∧
      p.seconds.isFinite = true ∧ 0 ≤ p.seconds := by
  intro c p
  have hload : load (pacedBy "1") ⟨[], []⟩ = .ok c.connection := rfl
  have hp := Client.mem_waits_paced 1 15 0.5
  obtain ⟨htimeout, hwaits⟩ := delays_of_load hload
  obtain ⟨-, -, -, hseconds, -⟩ :=
    hwaits Unit c .get "/l" none (Client.failing 0.5) () rfl Client.drawsShares_failing p hp
  exact ⟨hload, htimeout, hp, hseconds (by decide +kernel)⟩

/-- Infinity passes for a wait that is not negative. -/
theorem infinite_wait_loads :
    let c := Client.paced 1 (1 / 0) 15
    load (pacedBy "inf") ⟨[], []⟩ = .ok c.connection ∧ (Client.failing 0.5).DrawsShares ∧
      ∃ p ∈ Client.waits (c.exchange .get "/l" none (Client.failing 0.5) ()),
        p.seconds.isFinite = false := by
  intro c
  exact ⟨rfl, Client.drawsShares_failing, ⟨1 / 0, 15, 0.5, 1⟩, Client.mem_waits_paced _ _ _,
    Pause.seconds_of_infinite (by decide +kernel)⟩

end Connection
end Outlier
