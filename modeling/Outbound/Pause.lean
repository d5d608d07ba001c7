/-!
# Pausing

A switch says whether the program is paused. Every use of it counts as a change, also one that
leaves it as it was, and a subscriber knows how many changes it has seen.
-/
namespace Outbound

/-- Whether the program is paused. -/
structure PauseSwitch where
  /-- Whether it is paused. -/
  paused : Bool := false
  /-- How often the switch was used. -/
  changes : Nat := 0
  deriving DecidableEq, Inhabited

/-- Someone who watches a switch. -/
structure PauseWatcher where
  /-- The changes seen. -/
  seen : Nat
  deriving DecidableEq, Inhabited

namespace PauseSwitch

/-- Pause or resume. -/
def set (switch : PauseSwitch) (paused : Bool) : PauseSwitch :=
  ⟨paused, switch.changes + 1⟩

/-- Pause. -/
def pause (switch : PauseSwitch) : PauseSwitch := switch.set true

/-- Resume. -/
def resume (switch : PauseSwitch) : PauseSwitch := switch.set false

/-- Whether a wait for activity is over, as of now. -/
def isActive (switch : PauseSwitch) : Bool := !switch.paused

/-- Watch the switch from now on. -/
def watch (switch : PauseSwitch) : PauseWatcher := ⟨switch.changes⟩

/-- Whether there is a change that a watcher has not seen. -/
def hasChanged (switch : PauseSwitch) (watcher : PauseWatcher) : Bool :=
  watcher.seen != switch.changes

end PauseSwitch

end Outbound
