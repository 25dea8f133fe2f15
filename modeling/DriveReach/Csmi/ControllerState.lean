/-!
# Controller state

Whether a controller works, as its driver reports it.
-/

namespace DriveReach.Csmi

inductive ControllerState where
  | good
  | failed
  | offline
  | powerOff
  | unknown (value : UInt32)
  deriving DecidableEq, Repr

namespace ControllerState

/-- The state a status word stands for. -/
def ofWord (w : UInt32) : ControllerState :=
  if w = 1 then good
  else if w = 2 then failed
  else if w = 3 then offline
  else if w = 4 then powerOff
  else unknown w

def name : ControllerState → String
  | good => "Good"
  | failed => "Failed"
  | offline => "Offline"
  | powerOff => "PowerOff"
  | unknown value => s!"Unknown({value.toNat})"

end ControllerState

end DriveReach.Csmi
