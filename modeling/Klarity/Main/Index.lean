import Klarity.Main.Bcc.BccNode

set_option autoImplicit false

/-! # The application and its node

The window and the menu call `safeExit()`, the disk space is checked again and again, and a crash of the
node arms a timer that restarts it. Each acts on the node by the state it finds it in, and nobody waits
for the others.

`safeExit()` ends the application once the `stop()` it awaits is settled; the model lets it end at any
time after the call, so the runs of the application are among its runs. -/

namespace Klarity

/-- `stopping` is set while `safeExit()` awaits `stop()`, and `exiting` once `safeExitWithCode(0)` was
    called without it. -/
structure App where
  bccNode : Option BccNode := none
  crashTimers : ℕ := 0
  stopping : Bool := false
  exiting : Bool := false
  exited : Bool := false
  deriving DecidableEq, Repr

namespace App

open BccNode (BccNodeConfig)

/-- `node` is what goes on inside the node, `restart` the channel on which the user asks for it. -/
inductive Event
  | setupBccNode (config : BccNodeConfig)
  | safeExit
  | onCheckDiskSpace (isNotEnoughDiskSpace : Bool)
  | crashTimer
  | restart
  | node (e : BccNode.Event)
  | exit
  deriving DecidableEq, Repr

/-- The exit handler has just changed the state to `CRASHED`. -/
def crashes (node node' : BccNode) : Bool :=
  decide ((node'.tasks.countP fun t => t.point.waits) < node.tasks.countP fun t => t.point.waits) &&
    decide (node'.state = .crashed)

def safeExit (s : App) : App :=
  match s.bccNode with
  | none => { s with exiting := true }
  | some node =>
      if node.state = .stopped then { s with exiting := true }
      else if node.state = .stopping then { s with bccNode := some { node with exitOnStop := true } }
      else { s with bccNode := some (node.stop []), stopping := true }

def onCheckDiskSpace (isNotEnoughDiskSpace : Bool) (node : BccNode) : BccNode :=
  if isNotEnoughDiskSpace then
    if node.state ≠ .stopping ∧ node.state ≠ .stopped then node.stop [] else node
  else if node.state ≠ .starting ∧ node.state ≠ .running then node.restart false []
  else node

/-- The application is asked to exit. -/
def leaving (s : App) : Bool :=
  s.stopping || s.exiting || s.bccNode.any (·.exitOnStop)

def step (s : App) (e : Event) : Option App :=
  if s.exited then none
  else
    match e with
    | .setupBccNode config =>
        if s.bccNode.isNone then
          some { s with bccNode := some (({} : BccNode).start (some config) false []) }
        else none
    | .safeExit => some s.safeExit
    | .onCheckDiskSpace isNotEnoughDiskSpace =>
        some { s with bccNode := s.bccNode.map (onCheckDiskSpace isNotEnoughDiskSpace) }
    | .crashTimer =>
        if 0 < s.crashTimers then
          some { s with
            bccNode := s.bccNode.map fun node => node.restart false []
            crashTimers := s.crashTimers - 1 }
        else none
    | .restart => some { s with bccNode := s.bccNode.map fun node => node.restart true [] }
    | .node e =>
        if e.isCall then none
        else
          s.bccNode.bind fun node =>
            (node.step e).map fun node' =>
              { s with
                bccNode := some node'
                crashTimers := if crashes node node' then s.crashTimers + 1 else s.crashTimers }
    | .exit => if s.leaving then some { s with exited := true } else none

def machine : Machine App Event where
  init := {}
  step := step

end App

end Klarity
