import DriveReach.Text
/-!
# Expected identities

The model and serial number that a caller expects of a device.
-/

namespace DriveReach

/-- A model and a serial number. -/
structure Identity where
  model : String
  serial : String
  deriving DecidableEq, Repr

/-- A device answers to an identity when the serial numbers agree and, if a model is expected, the
models do; blanks around them do not matter. A blank serial number is answered by no device. -/
def Identity.accepts (expected : Identity) (model serial : String) : Bool :=
  let wanted := Text.trim expected.serial
  let wantedModel := Text.trim expected.model
  !wanted.isEmpty && wanted == Text.trim serial &&
    (wantedModel.isEmpty || wantedModel == Text.trim model)

end DriveReach
