import UsageMeter.Files
import UsageMeter.Time.Timestamp

/-!
What is to be seen at one moment: the files, the monotonic clock and the time
of day. Whatever reads the system is a function of the moments it reads at.
-/
namespace UsageMeter

/-- The system at one moment. -/
structure Moment where
  files : Files
  /-- Nanoseconds of the monotonic clock. -/
  now : UInt64
  /-- The time of day. -/
  clock : Time.Timestamp

end UsageMeter
