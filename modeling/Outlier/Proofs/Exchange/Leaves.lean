import Outlier.Proofs.Exchange.Attempts

/-! What all the events of an exchange have in common. -/
namespace Outlier.Client

variable {σ : Type} {c : Client} {verb : Verb} {path : String} {body : Option (List UInt8)}
  {w : World σ} {S : σ → Prop} {P : Event → Prop}

/-- Properties of the events that an exchange consists of: its one request, waits, and rows of the
client. -/
structure Covers (c : Client) (verb : Verb) (path : String) (body : Option (List UInt8))
    (w : World σ) (S : σ → Prop) (P : Event → Prop) : Prop where
  keeps : w.Keeps S
  sent : ∀ q, c.request verb path body = .ok q → P (.sent q)
  slept : ∀ p, P (.slept p)
  logged : ∀ severity message, P (.logged (Row.plain journal severity message))

theorem leaves_note (h : c.Covers verb path body w S P) (severity : Severity)
    (place message : String) :
    (note severity place message : Activity σ Unit).Leaves w S P :=
  Activity.leaves_note (h.logged severity _)

theorem leaves_sendOnce (h : c.Covers verb path body w S P) :
    (c.sendOnce verb path body : Activity σ _).Leaves w S P := by
  unfold sendOnce
  cases hq : c.request verb path body with
  | error f => exact Activity.leaves_fail f
  | ok q =>
    rw [Activity.ofExcept_ok_bind]
    refine Activity.leaves_bind (Activity.leaves_send h.keeps (h.sent q hq)) fun reply => ?_
    refine Activity.leaves_bind (Activity.leaves_ofExcept _) fun r => ?_
    have hend : (if r.isSuccess then pure r.body else
        Activity.fail (responseFailure verb path r) : Activity σ (List UInt8)).Leaves w S P := by
      split
      · exact Activity.leaves_pure _
      · exact Activity.leaves_fail _
    dsimp only
    split
    · exact Activity.leaves_bind (leaves_note h .debug _ _) fun _ => hend
    · exact hend

theorem leaves_attemptOr (h : c.Covers verb path body w S P)
    {next : Failure → Activity σ (List UInt8)} (hn : ∀ f, (next f).Leaves w S P) :
    (c.attemptOr verb path body next).Leaves w S P := by
  unfold attemptOr
  refine Activity.leaves_bind (Activity.leaves_attempt (leaves_sendOnce h)) fun r => ?_
  cases r with
  | ok content => exact Activity.leaves_pure content
  | error f =>
    refine Activity.leaves_bind (Activity.leaves_ofExcept _) fun retried => ?_
    split
    · exact hn f
    · exact Activity.leaves_fail f

theorem leaves_attempts (h : c.Covers verb path body w S P) (retry left : Nat) :
    (c.attempts verb path body retry left : Activity σ _).Leaves w S P := by
  induction left generalizing retry with
  | zero =>
    refine leaves_attemptOr h fun f => ?_
    exact Activity.leaves_bind (Activity.leaves_draw h.keeps) fun _ => Activity.leaves_fail f
  | succ left ih =>
    refine leaves_attemptOr h fun f => ?_
    refine Activity.leaves_bind (Activity.leaves_draw h.keeps) fun jitter => ?_
    refine Activity.leaves_bind (leaves_note h .warning _ _) fun _ => ?_
    refine Activity.leaves_bind (Activity.leaves_pause (h.slept _)) fun _ => ?_
    exact ih (retry + 1)

theorem leaves_settle (h : c.Covers verb path body w S P) (f : Failure) :
    (settle verb path f : Activity σ _).Leaves w S P := by
  unfold settle
  split
  · split
    · exact Activity.leaves_bind (leaves_note h .error _ _) fun _ => Activity.leaves_fail _
    · exact Activity.leaves_fail _
  · dsimp only
    split
    · exact Activity.leaves_bind (leaves_note h .error _ _) fun _ => Activity.leaves_fail _
    · exact Activity.leaves_fail _
  · exact Activity.leaves_fail _

theorem leaves_exchange (h : c.Covers verb path body w S P) :
    (c.exchange verb path body : Activity σ _).Leaves w S P := by
  have hend : ((c.attempts verb path body 1 c.connection.maxRetries).attempt >>=
      ending verb path : Activity σ (List UInt8)).Leaves w S P := by
    refine Activity.leaves_bind (Activity.leaves_attempt (leaves_attempts h 1 _)) fun r => ?_
    cases r with
    | ok content => exact Activity.leaves_pure content
    | error f => exact leaves_settle h f
  unfold exchange
  dsimp only
  split
  · split
    · exact Activity.leaves_bind (leaves_note h .debug _ _) fun _ => hend
    · exact hend
  · exact hend

end Outlier.Client
