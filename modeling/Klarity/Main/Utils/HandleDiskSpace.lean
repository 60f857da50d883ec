import Mathlib.Algebra.Order.Ring.Unbundled.Rat
import Mathlib.Data.Nat.Notation

set_option autoImplicit false

/-! # The disk space poller

What the closure of `handleDiskSpace()` keeps, and what a check makes of it once the probe of the disk has
answered. Sizes are in bytes and exact, and a required one is what a caller gives, so any number; intervals
are in milliseconds. `isTest` is that of the environment, and `prettysize` is the package of this name.

`diskSpaceCheckInterval` names the timer that the variable holds, cleared or not; `timers` are the timers
that fire, with their periods. -/

namespace Klarity.HandleDiskSpace

/-! ## Configuration -/

def diskSpaceRequiredDefault : ℚ := 2 * 1073741274

def diskSpaceRequiredMarginPercentage : ℚ := 10

def diskSpaceRecommendedPercentage : ℚ := 15

def longInterval : ℕ := 10 * 60 * 1000

def mediumInterval : ℕ := 60 * 1000

def shortInterval (isTest : Bool) : ℕ :=
  if isTest then 2000 else 10 * 1000

/-! ## Checks -/

/-- What the probe of the disk answers. -/
inductive Probe
  | space (free size : ℕ)
  | failed
  deriving DecidableEq, Repr

structure Check where
  forceDiskSpaceRequired : Option ℚ
  probe : Probe
  deriving DecidableEq, Repr

structure Response where
  isNotEnoughDiskSpace : Bool
  diskSpaceRequired : String
  diskSpaceMissing : String
  diskSpaceRecommended : String
  diskSpaceAvailable : String
  deriving DecidableEq, Repr

structure State where
  diskSpaceCheckInterval : Option ℕ := none
  diskSpaceCheckIntervalLength : ℕ := longInterval
  isNotEnoughDiskSpace : Bool := false
  timers : List (ℕ × ℕ) := []
  started : ℕ := 0
  sent : List Response := []
  deriving DecidableEq, Repr

def clearInterval (s : State) : State :=
  { s with timers := s.timers.filter fun timer => s.diskSpaceCheckInterval ≠ some timer.1 }

def setDiskSpaceIntervalChecking (s : State) (interval : ℕ) : State :=
  let cleared := clearInterval s
  { cleared with
    diskSpaceCheckInterval := some s.started
    diskSpaceCheckIntervalLength := interval
    timers := cleared.timers ++ [(s.started, interval)]
    started := s.started + 1 }

/-- A forced requirement of zero counts as none. -/
def diskSpaceRequired : Option ℚ → ℚ
  | none => diskSpaceRequiredDefault
  | some required => if required = 0 then diskSpaceRequiredDefault else required

def diskSpaceRequiredMargin (required : ℚ) : ℚ :=
  required - required * diskSpaceRequiredMarginPercentage / 100

def enoughInterval (available : ℕ) (required : ℚ) : ℕ :=
  if required * 2 ≤ available then longInterval else mediumInterval

/-- The timers and the flag after the disk has been probed. -/
def classify (isTest : Bool) (s : State) (available : ℕ) (required : ℚ) : State :=
  if (available : ℚ) ≤ diskSpaceRequiredMargin required then
    if s.isNotEnoughDiskSpace then s
    else { setDiskSpaceIntervalChecking s (shortInterval isTest) with isNotEnoughDiskSpace := true }
  else if required ≤ available then
    if s.isNotEnoughDiskSpace then
      { setDiskSpaceIntervalChecking s (enoughInterval available required) with
        isNotEnoughDiskSpace := false }
    else if enoughInterval available required ≠ s.diskSpaceCheckIntervalLength then
      setDiskSpaceIntervalChecking s (enoughInterval available required)
    else s
  else s

/-- The `catch` block. -/
def probeFailed (s : State) : State :=
  let cleared :=
    match s.diskSpaceCheckInterval with
    | none => s
    | some _ => { clearInterval s with diskSpaceCheckIntervalLength := longInterval }
  { cleared with sent := cleared.sent ++ [⟨false, "", "", "", ""⟩] }

def handleCheckDiskSpace (isTest : Bool) (prettysize : ℚ → String) (s : State) (check : Check) : State :=
  let required := diskSpaceRequired check.forceDiskSpaceRequired
  match check.probe with
  | .failed => probeFailed s
  | .space free size =>
      let classified := classify isTest s free required
      let missing := max (required - free) 0
      let recommended := size * diskSpaceRecommendedPercentage / 100
      { classified with
        sent := classified.sent ++
          [⟨classified.isNotEnoughDiskSpace, prettysize required, prettysize missing,
            prettysize recommended, prettysize free⟩] }

/-- The poller once the default interval has been started. -/
def start : State :=
  setDiskSpaceIntervalChecking {} longInterval

end Klarity.HandleDiskSpace
