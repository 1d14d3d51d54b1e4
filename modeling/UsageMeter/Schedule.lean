/-!
When periodic work starts. A tick is due at its deadline and fires then, or
when it is waited for, whichever is later. The next deadline is one period
after the last, unless the tick fired more than the tolerance too late: then
it is one period after the firing, so that missed ticks are not made up for.
-/
namespace UsageMeter.Schedule

/-- How late, in nanoseconds, a tick may fire without moving the later ones. -/
def tolerance : Nat := 5000000

/-- When a tick with this deadline fires, waited for from `now` on. -/
def firing (deadline now : Nat) : Nat := max deadline now

/-- The deadline after a tick that was due at `deadline` and fired at `fired`. -/
def nextDeadline (period deadline fired : Nat) : Nat :=
  if deadline + tolerance < fired then fired + period else deadline + period

/-- The times at which work of the given durations starts, from a deadline and
the time from which its tick is waited for. -/
def starts (period : Nat) : Nat → Nat → List Nat → List Nat
  | _, _, [] => []
  | deadline, now, duration :: rest =>
    let start := firing deadline now
    start :: starts period (nextDeadline period deadline start) (start + duration) rest

theorem deadline_le_firing (deadline now : Nat) : deadline ≤ firing deadline now :=
  Nat.le_max_left _ _

theorem now_le_firing (deadline now : Nat) : now ≤ firing deadline now :=
  Nat.le_max_right _ _

theorem firing_of_le {deadline now : Nat} (h : now ≤ deadline) : firing deadline now = deadline :=
  Nat.max_eq_left h

/-- However late a tick fires, the next one is at least a period after it was due. -/
theorem add_period_le_nextDeadline (period deadline now : Nat) :
    deadline + period ≤ nextDeadline period deadline (firing deadline now) := by
  have := deadline_le_firing deadline now
  unfold nextDeadline
  split <;> omega

/-- The next tick is due a period after this one fires, or sooner by no more
than the tolerance. -/
theorem firing_add_period_le (period deadline now : Nat) :
    firing deadline now + period ≤
      nextDeadline period deadline (firing deadline now) + tolerance := by
  unfold nextDeadline
  split <;> omega

theorem nextDeadline_self (period deadline : Nat) :
    nextDeadline period deadline deadline = deadline + period := by
  unfold nextDeadline
  split <;> rfl

theorem deadline_lt_nextDeadline {period : Nat} (h : 0 < period) (deadline now : Nat) :
    deadline < nextDeadline period deadline (firing deadline now) := by
  have := add_period_le_nextDeadline period deadline now
  omega

end UsageMeter.Schedule
