import Outlier.Exchange.Activity

/-! A world that plays prepared replies and draws one number again and again. Its clock takes every
wait unless another one is given. -/
namespace Outlier

/-- The replies not played yet. -/
abbrev Script := List Reply

namespace Script

/-- The reply once the script has run out. -/
def exhausted : Reply := .raised (.trouble .connect "no scripted response")

def world (jitter : Float) (threshold : Int) (clock : Clock := Clock.patient) : World Script where
  respond
    | [], _ => (exhausted, [])
    | reply :: rest, _ => (reply, rest)
  draw s := (jitter, s)
  clock _ := clock
  threshold := threshold

end Script
end Outlier
