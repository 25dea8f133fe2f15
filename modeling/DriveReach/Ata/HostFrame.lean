import DriveReach.Ata.Frame
/-!
# The command frame

The register frame that the host sends (type 27h, 20 bytes):

| byte  | field                                 |
|-------|---------------------------------------|
| 1     | command bit (7), PM port (3:0)        |
| 2     | command                               |
| 3, 11 | features, low and high byte           |
| 4-6   | LBA 23:0                              |
| 7     | device                                |
| 8-10  | LBA 47:24                             |
| 12-13 | count                                 |
| 14    | isochronous command completion        |
| 15    | control                               |
| 16-19 | auxiliary                             |

Each field has a reader and a writer; a writer touches the bytes of its own field only.
-/

namespace DriveReach.Ata

/-- A register frame from the host. -/
structure HostFrame where
  bytes : Vector UInt8 20
  deriving DecidableEq, Repr

namespace HostFrame

/-- A frame with the command bit set and all fields zero. -/
def blank : HostFrame := ⟨Bytes.fixed 20 [FrameKind.registerHostToDevice.code, 0x80] 0⟩

/-- The frame at the front of a buffer. -/
def parse (b : Bytes) : Except FrameFault HostFrame :=
  (FrameKind.registerHostToDevice.cut 20 b).map HostFrame.mk

/-- The places of the features and of the auxiliary field, least significant first. -/
def featuresPlaces : List Nat := [3, 11]
def auxiliaryPlaces : List Nat := [16, 17, 18, 19]

/-! ## Readers -/

/-- Byte `i`. -/
def byte (f : HostFrame) (i : Nat) : UInt8 := Bytes.nth f.bytes i

/-- The frame updates the command register. -/
def isCommand (f : HostFrame) : Bool := f.byte 1 &&& 0x80 != 0

def pmPort (f : HostFrame) : UInt8 := pmPortOf (f.byte 1)

def command (f : HostFrame) : UInt8 := f.byte 2

def features (f : HostFrame) : UInt16 := UInt16.ofNat (Bytes.numberAt f.bytes featuresPlaces)

def lba (f : HostFrame) : UInt64 := lbaOf f.bytes

def device (f : HostFrame) : UInt8 := f.byte 7

def count (f : HostFrame) : UInt16 := countOf f.bytes

def icc (f : HostFrame) : UInt8 := f.byte 14

def control (f : HostFrame) : UInt8 := f.byte 15

def auxiliary (f : HostFrame) : UInt32 := UInt32.ofNat (Bytes.numberAt f.bytes auxiliaryPlaces)

/-! ## Writers -/

/-- The frame with byte `i` replaced. -/
def setByte (f : HostFrame) (i : Nat) (b : UInt8) : HostFrame := ⟨f.bytes.setIfInBounds i b⟩

/-- Keeps the upper half of byte 1. -/
def setPmPort (f : HostFrame) (port : UInt8) : HostFrame :=
  f.setByte 1 ((f.byte 1 &&& 0xF0) ||| (port &&& 0x0F))

def setCommand (f : HostFrame) (command : UInt8) : HostFrame := f.setByte 2 command

def setFeatures (f : HostFrame) (features : UInt16) : HostFrame :=
  ⟨Bytes.setNumber f.bytes featuresPlaces features.toNat⟩

/-- Drops the bits of `lba` above 47. -/
def setLba (f : HostFrame) (lba : UInt64) : HostFrame :=
  ⟨Bytes.setNumber f.bytes lbaPlaces lba.toNat⟩

def setDevice (f : HostFrame) (device : UInt8) : HostFrame := f.setByte 7 device

def setCount (f : HostFrame) (count : UInt16) : HostFrame :=
  ⟨Bytes.setNumber f.bytes countPlaces count.toNat⟩

def setIcc (f : HostFrame) (icc : UInt8) : HostFrame := f.setByte 14 icc

def setControl (f : HostFrame) (control : UInt8) : HostFrame := f.setByte 15 control

def setAuxiliary (f : HostFrame) (auxiliary : UInt32) : HostFrame :=
  ⟨Bytes.setNumber f.bytes auxiliaryPlaces auxiliary.toNat⟩

end HostFrame

end DriveReach.Ata
