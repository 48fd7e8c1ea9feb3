import RollCall.Number.Power

/-!
# Backoff

How long to wait before a retry: twice as long each time, spread by a random share.
-/

set_option autoImplicit false

namespace RollCall

/-- `base * 2 ^ attempt`, moved by at most its `jitter` share as `random` between 0 and 1 says, to
the nearest integer and never below zero. -/
def backoffDelay (base attempt jitter random : Number) : Number :=
  let full := base * Number.twoTo attempt
  let spread := full * jitter * (random * 2 - 1)
  Number.max 0 (full + spread).round

end RollCall
