import VideoProbe.Decimal.Digits
import VideoProbe.Text.Quoted

/-!
# Why a probe gives no metadata

The words for such an error are what is recorded as the outcome of the job, so a client reads
them.
-/

namespace VideoProbe

/-- Why a probe gives no metadata. -/
inductive ProbeError where
  /-- The program cannot be started. -/
  | spawn (reason : String)
  /-- The program ends with a failure. -/
  | failed (detail : String)
  /-- The program prints something that is not a probe document. -/
  | parse (reason : String)
  /-- A time in the document is not a finite number. -/
  | invalidNumber (field value : String)
  /-- The program runs for longer than it may, given in whole seconds. -/
  | timedOut (seconds : Nat)
  | cancelled
  deriving DecidableEq, Repr

namespace ProbeError

/-- A probe error in words. -/
def message : ProbeError → String
  | spawn reason => "failed to run ffprobe: " ++ reason
  | failed detail => "ffprobe failed: " ++ detail
  | parse reason => "failed to parse ffprobe output: " ++ reason
  | invalidNumber field value => "failed to parse " ++ field ++ ": " ++ Text.quote value
  | timedOut seconds => "ffprobe timed out after " ++ Decimal.ofNat seconds ++ "s"
  | cancelled => "probe cancelled"

/-- The probe was cancelled; it may be run again. -/
def isCancelled : ProbeError → Bool
  | cancelled => true
  | _ => false

end ProbeError

end VideoProbe
