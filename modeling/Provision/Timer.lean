/-!
# Timers

How long a timer of a wait runs, in milliseconds: as long as it is set to, but for thirty years at
most. A limit is no such timer, and goes off when it is due, however late that is.
-/

namespace Provision

/-- The longest time that the timer of a wait runs: thirty years of 365 days. -/
def longestTimer : Nat := 30 * 365 * 24 * 60 * 60 * 1000

example : longestTimer = 946080000000 := rfl

end Provision
