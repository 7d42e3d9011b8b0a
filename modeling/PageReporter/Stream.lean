/-!
# Output streams

Where lines of output go.
-/

namespace PageReporter

/-- The two streams of the terminal. -/
inductive Stream
  | out
  | err
deriving DecidableEq

/-- A line of output with its stream. -/
abbrev Line := Stream × String

end PageReporter
