import Mathlib.Algebra.Order.Ring.Unbundled.Rat

set_option autoImplicit false

/-! # Downloads

The states and events of a download (`DH_STATES` in `node-downloader-helper`) and its persisted record.
A record is a JavaScript object: a number of it can be missing, and a `NaN` is stored as `null`. -/

namespace Klarity

inductive DownloadEventType
  | start
  | download
  | progress
  | ended
  | timeout
  | stop
  | pause
  | error
  deriving DecidableEq, Repr

inductive DownloadState
  | idle
  | skipped
  | started
  | downloading
  | retry
  | paused
  | resumed
  | stopped
  | finished
  | failed
  deriving DecidableEq, Repr

/-- The numbers of a record. -/
inductive DownloadFigure
  | remainingSize
  | serverFileSize
  | diskFileSize
  | downloadSize
  | progress
  | speed
  deriving DecidableEq, Repr

inductive StoredNumber
  | missing
  | null
  | number (value : ℚ)
  deriving DecidableEq, Repr

structure DownloadDataUpdate where
  state : DownloadState
  figures : DownloadFigure → Option ℚ := fun _ => none
  incomplete : Option Bool := none
  message : Option String := none

structure DownloadData where
  state : DownloadState
  figures : DownloadFigure → StoredNumber
  incomplete : Option Bool
  isResumed : Option Bool
  message : Option String

def DownloadData.default : DownloadData where
  state := .idle
  figures _ := .number 0
  incomplete := some false
  isResumed := some false
  message := none

namespace StoredNumber

/-- `Math.max()` of a stored number and a number. -/
def max : StoredNumber → ℚ → StoredNumber
  | missing, _ => null
  | null, n => number (Max.max 0 n)
  | number o, n => number (Max.max o n)

def AtLeast (n : ℚ) : StoredNumber → Prop
  | number o => n ≤ o
  | _ => False

theorem atLeast_max {stored : StoredNumber} (h : stored ≠ missing) (n : ℚ) :
    (stored.max n).AtLeast n := by
  cases stored with
  | missing => exact absurd rfl h
  | null => exact le_max_right 0 n
  | number o => exact le_max_right o n

theorem max_ne_missing {stored : StoredNumber} (h : stored ≠ missing) (n : ℚ) :
    stored.max n ≠ missing := by
  cases stored with
  | missing => exact absurd rfl h
  | _ => simp [max]

theorem AtLeast.max {stored : StoredNumber} {m : ℚ} (h : stored.AtLeast m) (n : ℚ) :
    (stored.max n).AtLeast m := by
  cases stored with
  | number o => exact le_max_of_le_left h
  | _ => exact h.elim

end StoredNumber

/-! ## Merging an update into a record -/

/-- The sizes, the progress and the speed only grow; whatever else is given replaces what was there. -/
def DownloadData.mergeWith (old : Option DownloadData) (new : DownloadDataUpdate) : DownloadData where
  state := new.state
  figures figure :=
    let stored := (old.map fun data => data.figures figure).getD .missing
    match new.figures figure with
    | none => stored
    | some n => if figure = .remainingSize then .number n else stored.max n
  incomplete := new.incomplete <|> old.bind (·.incomplete)
  isResumed := old.bind (·.isResumed)
  message := new.message <|> old.bind (·.message)

namespace DownloadData

/-- No figure of the record is missing. -/
def Complete (data : DownloadData) : Prop :=
  ∀ figure, data.figures figure ≠ .missing

/-- Every figure that the update reports is at most the one of the record. -/
def Covers (data : DownloadData) (update : DownloadDataUpdate) : Prop :=
  ∀ figure n, figure ≠ .remainingSize → update.figures figure = some n →
    (data.figures figure).AtLeast n

theorem complete_default : default.Complete := by
  intro figure h
  cases h

section

variable {old : DownloadData} {new : DownloadDataUpdate} {figure : DownloadFigure}

theorem mergeWith_figures_of_none (h : new.figures figure = none) :
    (mergeWith (some old) new).figures figure = old.figures figure := by
  simp only [mergeWith, h, Option.map_some, Option.getD_some]

theorem mergeWith_figures_of_some {n : ℚ} (h : new.figures figure = some n) :
    (mergeWith (some old) new).figures figure =
      if figure = .remainingSize then .number n else (old.figures figure).max n := by
  simp only [mergeWith, h, Option.map_some, Option.getD_some]

theorem mergeWith_covers (hold : old.Complete) (new : DownloadDataUpdate) :
    (mergeWith (some old) new).Covers new := by
  intro figure n hfigure hn
  rw [mergeWith_figures_of_some hn, if_neg hfigure]
  exact StoredNumber.atLeast_max (hold figure) n

theorem Covers.mergeWith {update : DownloadDataUpdate} (h : old.Covers update)
    (new : DownloadDataUpdate) : (mergeWith (some old) new).Covers update := by
  intro figure n hfigure hn
  have hcovered := h figure n hfigure hn
  rcases hnew : new.figures figure with _ | m
  · rw [mergeWith_figures_of_none hnew]
    exact hcovered
  · rw [mergeWith_figures_of_some hnew, if_neg hfigure]
    exact hcovered.max m

theorem Complete.mergeWith (h : old.Complete) (new : DownloadDataUpdate) :
    (mergeWith (some old) new).Complete := by
  intro figure
  rcases hnew : new.figures figure with _ | m
  · rw [mergeWith_figures_of_none hnew]
    exact h figure
  · rw [mergeWith_figures_of_some hnew]
    split
    · simp
    · exact StoredNumber.max_ne_missing (h figure) m

end

end DownloadData

end Klarity
