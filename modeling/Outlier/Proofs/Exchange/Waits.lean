import Outlier.Proofs.Exchange.Computed
import Outlier.Proofs.Exchange.Decision

/-! The waits between the attempts of an exchange. -/
namespace Outlier

/-- Random numbers come from the unit interval. -/
def World.DrawsShares {σ : Type} (w : World σ) : Prop :=
  ∀ s, 0 ≤ (w.draw s).1 ∧ (w.draw s).1 < 1

namespace Client
open Binary (value)
variable {σ : Type} {c : Client} {verb : Verb} {path : String} {body : Option (List UInt8)}
variable {w : World σ} {s : σ} {p : Pause}

def waits (o : Outcome σ (List UInt8)) : List Pause := o.events.filterMap Event.pause?

/-- Retries are numbered from one, and every wait draws a number of its own. -/
theorem exists_waits (c : Client) (verb : Verb) (path : String) (body : Option (List UInt8))
    (w : World σ) (s : σ) :
    ∃ (n : Nat) (jitter : Nat → Float),
      waits (c.exchange verb path body w s) = (List.range n).map (fun k =>
        ⟨c.connection.shortestWait, c.connection.longestWait, jitter k, k + 1⟩) ∧
      ∀ k, ∃ t, jitter k = (w.draw t).1 := by
  have hopen := isNote_openingEvents c w verb path body
  unfold waits
  cases hq : c.request verb path body with
  | error f =>
    refine ⟨0, fun _ => (w.draw s).1, ?_, fun _ => ⟨s, rfl⟩⟩
    rw [exchange_refused hq]
    exact pauses_of_isNote hopen
  | ok q =>
    exact ⟨_, w.jitterAt q s, pauses_exchange_eq hq, fun k => ⟨_, rfl⟩⟩

theorem of_mem_waits (h : p ∈ waits (c.exchange verb path body w s)) :
    p.shortest = c.connection.shortestWait ∧ p.longest = c.connection.longestWait ∧
      ∃ t, p.jitter = (w.draw t).1 := by
  obtain ⟨n, jitter, hwaits, hdraw⟩ := exists_waits c verb path body w s
  rw [hwaits] at h
  obtain ⟨k, -, rfl⟩ := List.mem_map.mp h
  exact ⟨rfl, rfl, hdraw k⟩

end Client

namespace World.DrawsShares
open Binary
variable {σ : Type} {w : World σ}

theorem isFinite (h : w.DrawsShares) (s : σ) : (w.draw s).1.isFinite = true :=
  isFinite_of_le (h s).1 (float_le_of_lt (h s).2) (by decide +kernel)

theorem value_mem (h : w.DrawsShares) (s : σ) :
    0 ≤ value (w.draw s).1 ∧ value (w.draw s).1 ≤ 1 := by
  have hle := value_le_value (h.isFinite s) (by decide +kernel) (float_le_of_lt (h s).2)
  exact ⟨value_nonneg (h s).1 (h.isFinite s), hle.trans_eq value_one⟩

end World.DrawsShares

namespace Client
open Binary (value)

/-- The waits that a clock is asked for are those of exact arithmetic, up to the rounding of the
share and of the sum. Where rounded logarithms say that the longest one is reached it is the longest
one that the share is added to, even if exact arithmetic is a little short of it. -/
theorem waits_near_exact {σ : Type} (c : Client) (verb : Verb) (path : String)
    (body : Option (List UInt8)) (w : World σ) (s : σ) (hs : 0 ≤ c.connection.shortestWait)
    (hs' : c.connection.shortestWait.isFinite) (hl : 0 ≤ c.connection.longestWait)
    (hl' : c.connection.longestWait.isFinite) (hw : w.DrawsShares) :
    ∀ p ∈ waits (c.exchange verb path body w s), p.seconds.isFinite = true →
      let shortest := value c.connection.shortestWait
      let longest := value c.connection.longestWait
      Binary.IsNear 3 (value p.seconds) p.exact ∨
        Backoff.isReached c.connection.shortestWait c.connection.longestWait p.retry = true ∧
          Backoff.steady shortest longest p.retry < longest ∧
          Binary.IsNear 3 (value p.seconds) (longest + value p.jitter * shortest) := by
  intro p hp hfinite shortest longest
  obtain ⟨hps, hpl, t, hpj⟩ := of_mem_waits hp
  have hnear := Pause.seconds_near_exact (p := p) (hps ▸ hs) (hps ▸ hs') (hpl ▸ hl) (hpl ▸ hl')
    (hpj ▸ (hw t).1) hfinite
  rwa [hps, hpl] at hnear

/-! A client with one server that fails all the time. -/

def failing (jitter : Float) : World Unit where
  respond _ _ := (.response ⟨500, [], []⟩, ())
  draw _ := (jitter, ())
  clock _ := Clock.patient
  threshold := 0

theorem lastAttempt_of_goesOn (retries : Nat) : lastAttempt (fun _ => true) retries = retries := by
  induction retries with
  | zero => exact lastAttempt_zero _
  | succ n ih => rw [lastAttempt_succ, if_pos rfl, ih]

theorem waits_paced (retries : Nat) (shortest longest jitter : Float) :
    waits ((paced retries shortest longest).exchange .get "/l" none (failing jitter) ()) =
      (List.range retries).map fun k => ⟨shortest, longest, jitter, k + 1⟩ := by
  have hsample : sample.request .get "/l" none = .ok (sample.requestAt "/l") := rfl
  have hq : (paced retries shortest longest).request .get "/l" none =
    .ok (sample.requestAt "/l") := hsample
  have hlast : lastAttempt ((paced retries shortest longest).goesOn (failing jitter)
      (sample.requestAt "/l") () 1) retries = retries := lastAttempt_of_goesOn retries
  have hcount : (paced retries shortest longest).waitCount (failing jitter)
      (sample.requestAt "/l") () 1 retries = retries := by
    rw [waitCount, refusedWait?, hlast]
    simp
  rw [waits, pauses_exchange_eq hq, show (paced retries shortest longest).connection.maxRetries =
    retries from rfl, hcount]
  rfl

theorem mem_waits_paced (shortest longest jitter : Float) :
    ⟨shortest, longest, jitter, 1⟩ ∈
      waits ((paced 1 shortest longest).exchange .get "/l" none (failing jitter) ()) := by
  rw [waits_paced]
  exact List.mem_singleton_self _

theorem value_half : value 0.5 = 1 / 2 := by
  have h : Binary.ofFloat 0.5 = .finite false Binary.hidden (-53) := by decide +kernel
  rw [Binary.value_of_ofFloat h]
  norm_num [Binary.hidden]

theorem drawsShares_failing : (failing 0.5).DrawsShares := by
  have h : (0 : Float) ≤ 0.5 ∧ (0.5 : Float) < 1 := by decide +kernel
  exact fun _ => h

theorem exact_one_one_half (n : Nat) : (⟨1, 1, 0.5, n⟩ : Pause).exact = 3 / 2 := by
  have hsteady : Backoff.steady (1 : ℝ) 1 n = 1 :=
    le_antisymm (Backoff.steady_le zero_le_one zero_le_one)
      (Backoff.le_steady zero_le_one zero_le_one le_rfl)
  rw [Pause.exact_eq, Binary.value_one, value_half, Backoff.wait, hsteady]
  norm_num

/-! Bounds. -/

/-- A wait is at least the shortest one. It may be more than the longest one by its random share,
and is so unless it has not grown as far yet. -/
theorem waits_bounded {σ : Type} (c : Client) (verb : Verb) (path : String)
    (body : Option (List UInt8)) (w : World σ) (s : σ) (hs : 0 ≤ c.connection.shortestWait)
    (hsl : c.connection.shortestWait ≤ c.connection.longestWait)
    (hl : c.connection.longestWait.isFinite) (hw : w.DrawsShares) :
    ∀ p ∈ waits (c.exchange verb path body w s),
      let shortest := value c.connection.shortestWait
      let longest := value c.connection.longestWait
      let share := value p.jitter * shortest
      0 ≤ share ∧ share ≤ shortest ∧ shortest ≤ p.exact ∧ p.exact ≤ longest + share ∧
        (p.exact ≤ longest ↔ share = 0 ∨
          p.retry - 1 < Backoff.limit ∧ 2 ^ (p.retry - 1) * shortest + share ≤ longest) := by
  intro p hp shortest longest share
  obtain ⟨hps, hpl, t, hpj⟩ := of_mem_waits hp
  have hfinite := Binary.isFinite_of_le hs hsl hl
  have hs' : 0 ≤ shortest := Binary.value_nonneg hs hfinite
  have hsl' : shortest ≤ longest := Binary.value_le_value hfinite hl hsl
  have hl' := hs'.trans hsl'
  obtain ⟨hj, hj'⟩ : 0 ≤ value p.jitter ∧ value p.jitter ≤ 1 := hpj ▸ hw.value_mem t
  have hexact : p.exact = Backoff.wait shortest longest (value p.jitter) p.retry := by
    rw [p.exact_eq, hps, hpl]
  refine ⟨mul_nonneg hj hs', mul_le_of_le_one_left hs' hj', ?_, ?_, ?_⟩
  · exact (Backoff.le_wait hs' hl' hsl' hj).trans_eq hexact.symm
  · exact hexact.trans_le (Backoff.wait_le hs' hl' _)
  · rw [hexact, Backoff.wait_le_longest_iff hs' hl' hj, add_mul]

theorem waits_bounded_paced :
    let p : Pause := ⟨1, 1, 0.5, 1⟩
    p ∈ waits ((paced 1 1 1).exchange .get "/l" none (failing 0.5) ()) ∧
      value 1 ≤ p.exact ∧ p.exact ≤ value 1 + value 0.5 * value 1 := by
  intro p
  have hp : p ∈ waits ((paced 1 1 1).exchange .get "/l" none (failing 0.5) ()) :=
    mem_waits_paced 1 1 0.5
  obtain ⟨-, -, hlow, hhigh, -⟩ := waits_bounded (paced 1 1 1) .get "/l" none (failing 0.5) ()
    (by decide +kernel) (by decide +kernel) (by decide +kernel) drawsShares_failing p hp
  exact ⟨hp, hlow, hhigh⟩

/-- The share is added to a wait that is as long as it may be. -/
theorem wait_above_longest :
    let c := paced 1 1 1
    let w := failing 0.5
    0 ≤ c.connection.shortestWait ∧ c.connection.shortestWait ≤ c.connection.longestWait ∧
      c.connection.longestWait.isFinite = true ∧ w.DrawsShares ∧
      ∃ p ∈ waits (c.exchange .get "/l" none w ()), value c.connection.longestWait < p.exact := by
  intro c w
  refine ⟨by decide +kernel, by decide +kernel, by decide +kernel, drawsShares_failing,
    ⟨1, 1, 0.5, 1⟩, mem_waits_paced 1 1 0.5, ?_⟩
  rw [exact_one_one_half, show c.connection.longestWait = 1 from rfl, Binary.value_one]
  norm_num

/-! Growth. -/

section
variable {σ : Type} {c : Client} {verb : Verb} {path : String} {body : Option (List UInt8)}
variable {w : World σ} {s : σ} {jitter : Float}

/-- With one random number for all waits they differ by the number of the retry alone. -/
theorem exact_waits (hj : ∀ p ∈ waits (c.exchange verb path body w s), p.jitter = jitter) :
    ∃ n, (waits (c.exchange verb path body w s)).map Pause.exact = (List.range n).map fun k =>
      Backoff.wait (value c.connection.shortestWait) (value c.connection.longestWait)
        (value jitter) (k + 1) := by
  obtain ⟨n, draws, hwaits, -⟩ := exists_waits c verb path body w s
  refine ⟨n, ?_⟩
  rw [hwaits] at hj ⊢
  rw [List.map_map]
  refine List.map_congr_left fun k hk => ?_
  have hdraw : draws k = jitter := hj _ (List.mem_map_of_mem hk)
  rw [Function.comp_apply, Pause.exact_eq, hdraw]

end

/-- With one random number for all of them, waits do not become shorter. Two in a row of the same
length have reached the longest one, and so have all that follow. -/
theorem waits_never_shrink {σ : Type} (c : Client) (verb : Verb) (path : String)
    (body : Option (List UInt8)) (w : World σ) (s : σ) (jitter : Float)
    (hs : 0 ≤ c.connection.shortestWait) (hs' : c.connection.shortestWait.isFinite)
    (hl : 0 ≤ c.connection.longestWait) (hl' : c.connection.longestWait.isFinite)
    (hj : ∀ p ∈ waits (c.exchange verb path body w s), p.jitter = jitter) :
    let shortest := value c.connection.shortestWait
    let longest := value c.connection.longestWait
    let seconds := (waits (c.exchange verb path body w s)).map Pause.exact
    seconds.Pairwise (· ≤ ·) ∧
      (0 < c.connection.shortestWait → ∀ i k (_ : i < k) (_ : k < seconds.length),
        seconds[i] = seconds[i + 1] →
          seconds[i] = longest + value jitter * shortest ∧ seconds[k] = seconds[i]) := by
  intro shortest longest seconds
  have hshortest : 0 ≤ shortest := Binary.value_nonneg hs hs'
  have hlongest : 0 ≤ longest := Binary.value_nonneg hl hl'
  obtain ⟨n, hn⟩ := exact_waits hj
  have hseconds : seconds = (List.range n).map fun k =>
    Backoff.wait shortest longest (value jitter) (k + 1) := hn
  have hget (k : Nat) (hk : k < seconds.length) :
      seconds[k] = Backoff.steady shortest longest (k + 1) + value jitter * shortest := by
    simp only [hseconds, List.getElem_map, List.getElem_range]
    rfl
  constructor
  · rw [hseconds, List.pairwise_map]
    exact List.pairwise_lt_range.imp fun hlt =>
      add_le_add_left (Backoff.steady_mono hshortest hlongest (by omega)) _
  · intro hpos i k hik hk heq
    have hpos' : 0 < shortest :=
      Binary.value_zero.symm.trans_lt (Binary.value_lt_value (by decide +kernel) hs' hpos)
    rw [hget i (by omega), hget (i + 1) (by omega)] at heq
    have hlast := Backoff.steady_eq_longest_of_eq hshortest hlongest hpos' (Nat.succ_pos i)
      (add_right_cancel heq)
    have hlater := Backoff.steady_eq_longest hshortest hlongest hlast (by omega : i + 1 ≤ k + 1)
    rw [hget i (by omega), hget k hk, hlast, hlater]
    exact ⟨rfl, rfl⟩

theorem waits_never_shrink_paced :
    let seconds := (waits ((paced 3 1 1).exchange .get "/l" none (failing 0.5) ())).map Pause.exact
    seconds.Pairwise (· ≤ ·) ∧ seconds[0]? = some (value 1 + value 0.5 * value 1) ∧
      seconds[2]? = seconds[0]? := by
  intro seconds
  have hwaits := waits_paced 3 1 1 0.5
  have hseconds : seconds = [3 / 2, 3 / 2, 3 / 2] := by
    simp only [seconds, hwaits, List.map_map]
    exact List.map_congr_left fun k _ => exact_one_one_half (k + 1)
  have hlength : seconds.length = 3 := congrArg List.length hseconds
  have hj : ∀ p ∈ waits ((paced 3 1 1).exchange .get "/l" none (failing 0.5) ()),
      p.jitter = 0.5 := by
    rw [hwaits]
    intro p hp
    obtain ⟨k, -, rfl⟩ := List.mem_map.mp hp
    rfl
  obtain ⟨hgrow, hlast⟩ := waits_never_shrink (paced 3 1 1) .get "/l" none (failing 0.5) () 0.5
    (by decide +kernel) (by decide +kernel) (by decide +kernel) (by decide +kernel) hj
  have hthree : 2 < seconds.length := by omega
  have heq : seconds[0] = seconds[1] := by simp only [hseconds, List.getElem_cons_zero,
    List.getElem_cons_succ]
  obtain ⟨hfirst, hthird⟩ := hlast (by decide +kernel) 0 2 (by decide) hthree heq
  refine ⟨hgrow, ?_, ?_⟩
  · exact List.getElem?_eq_some_iff.mpr ⟨by omega, hfirst⟩
  · rw [List.getElem?_eq_getElem (by omega), List.getElem?_eq_getElem (by omega), hthird]

end Client
end Outlier
