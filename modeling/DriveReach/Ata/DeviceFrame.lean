import DriveReach.Ata.Frame
/-!
# Frames from the device, and data

Two register frames report how a command ended: Register Device to Host carries the status in byte
2, PIO Setup carries the status the transfer ends with in byte 15. `StatusFrame` is either of them.
The remaining frames signal set device bits, DMA and BIST, and carry data.
-/

namespace DriveReach.Ata

/-! ## Register frames -/

/-- Register Device to Host (34h). -/
structure DeviceFrame where
  bytes : Vector UInt8 20
  deriving DecidableEq, Repr

namespace DeviceFrame

/-- The frame at the front of a buffer. -/
def parse (b : Bytes) : Except FrameFault DeviceFrame :=
  (FrameKind.registerDeviceToHost.cut 20 b).map DeviceFrame.mk

def interrupt (f : DeviceFrame) : Bool := interruptOf (Bytes.nth f.bytes 1)

def pmPort (f : DeviceFrame) : UInt8 := pmPortOf (Bytes.nth f.bytes 1)

def status (f : DeviceFrame) : UInt8 := Bytes.nth f.bytes 2

def error (f : DeviceFrame) : UInt8 := Bytes.nth f.bytes 3

def lba (f : DeviceFrame) : UInt64 := lbaOf f.bytes

def device (f : DeviceFrame) : UInt8 := Bytes.nth f.bytes 7

def count (f : DeviceFrame) : UInt16 := countOf f.bytes

end DeviceFrame

/-- PIO Setup (5Fh). -/
structure PioSetupFrame where
  bytes : Vector UInt8 20
  deriving DecidableEq, Repr

namespace PioSetupFrame

/-- The frame at the front of a buffer. -/
def parse (b : Bytes) : Except FrameFault PioSetupFrame :=
  (FrameKind.pioSetup.cut 20 b).map PioSetupFrame.mk

def interrupt (f : PioSetupFrame) : Bool := interruptOf (Bytes.nth f.bytes 1)

/-- The data flows from the device to the host. -/
def toHost (f : PioSetupFrame) : Bool := toHostOf (Bytes.nth f.bytes 1)

def pmPort (f : PioSetupFrame) : UInt8 := pmPortOf (Bytes.nth f.bytes 1)

/-- The status before the transfer. -/
def status (f : PioSetupFrame) : UInt8 := Bytes.nth f.bytes 2

def error (f : PioSetupFrame) : UInt8 := Bytes.nth f.bytes 3

def lba (f : PioSetupFrame) : UInt64 := lbaOf f.bytes

def device (f : PioSetupFrame) : UInt8 := Bytes.nth f.bytes 7

def count (f : PioSetupFrame) : UInt16 := countOf f.bytes

/-- The status after the transfer. -/
def endStatus (f : PioSetupFrame) : UInt8 := Bytes.nth f.bytes 15

/-- The bytes that the following data frame moves. -/
def transferCount (f : PioSetupFrame) : UInt16 :=
  UInt16.ofNat (Bytes.numberAt f.bytes [16, 17])

end PioSetupFrame

/-- A frame that reports the end of a command. -/
inductive StatusFrame where
  | register (frame : DeviceFrame)
  | pioSetup (frame : PioSetupFrame)
  deriving DecidableEq, Repr

namespace StatusFrame

/-- The status frame at the front of a buffer, by its type byte. -/
def parse (b : Bytes) : Except FrameFault StatusFrame :=
  if b.length < registerFrameLength then .error (.tooShort registerFrameLength b.length)
  else match FrameKind.ofCode? (b.byteAt 0) with
    | some .registerDeviceToHost => (DeviceFrame.parse b).map .register
    | some .pioSetup => (PioSetupFrame.parse b).map .pioSetup
    | _ => .error (.unexpectedKind (b.byteAt 0))

def pmPort : StatusFrame → UInt8
  | .register f => f.pmPort
  | .pioSetup f => f.pmPort

end StatusFrame

/-! ## Signals -/

/-- Set Device Bits (A1h). -/
structure SetDeviceBitsFrame where
  bytes : Vector UInt8 8
  deriving DecidableEq, Repr

namespace SetDeviceBitsFrame

/-- The frame at the front of a buffer. -/
def parse (b : Bytes) : Except FrameFault SetDeviceBitsFrame :=
  (FrameKind.setDeviceBits.cut 8 b).map SetDeviceBitsFrame.mk

def pmPort (f : SetDeviceBitsFrame) : UInt8 := pmPortOf (Bytes.nth f.bytes 1)

def interrupt (f : SetDeviceBitsFrame) : Bool := interruptOf (Bytes.nth f.bytes 1)

def notification (f : SetDeviceBitsFrame) : Bool := Bytes.nth f.bytes 1 &&& 0x80 != 0

/-- Bits 6:4 and 2:0 of the status; this frame reserves the other two. -/
def status (f : SetDeviceBitsFrame) : UInt8 := Bytes.nth f.bytes 2 &&& 0x77

def error (f : SetDeviceBitsFrame) : UInt8 := Bytes.nth f.bytes 3

/-- The completion bits of queued commands. -/
def sActive (f : SetDeviceBitsFrame) : UInt32 := Bytes.le32 f.bytes.toList 4

end SetDeviceBitsFrame

/-- DMA Activate (39h). -/
structure DmaActivateFrame where
  bytes : Vector UInt8 4
  deriving DecidableEq, Repr

namespace DmaActivateFrame

/-- The frame at the front of a buffer. -/
def parse (b : Bytes) : Except FrameFault DmaActivateFrame :=
  (FrameKind.dmaActivate.cut 4 b).map DmaActivateFrame.mk

def pmPort (f : DmaActivateFrame) : UInt8 := pmPortOf (Bytes.nth f.bytes 1)

end DmaActivateFrame

/-- DMA Setup (41h). -/
structure DmaSetupFrame where
  bytes : Vector UInt8 28
  deriving DecidableEq, Repr

namespace DmaSetupFrame

/-- The frame at the front of a buffer. -/
def parse (b : Bytes) : Except FrameFault DmaSetupFrame :=
  (FrameKind.dmaSetup.cut 28 b).map DmaSetupFrame.mk

def pmPort (f : DmaSetupFrame) : UInt8 := pmPortOf (Bytes.nth f.bytes 1)

/-- The data flows from the device to the host. -/
def toHost (f : DmaSetupFrame) : Bool := toHostOf (Bytes.nth f.bytes 1)

def interrupt (f : DmaSetupFrame) : Bool := interruptOf (Bytes.nth f.bytes 1)

def autoActivate (f : DmaSetupFrame) : Bool := Bytes.nth f.bytes 1 &&& 0x80 != 0

def bufferId (f : DmaSetupFrame) : UInt64 := Bytes.le64 f.bytes.toList 4

def bufferOffset (f : DmaSetupFrame) : UInt32 := Bytes.le32 f.bytes.toList 16

def transferCount (f : DmaSetupFrame) : UInt32 := Bytes.le32 f.bytes.toList 20

end DmaSetupFrame

/-- BIST Activate (58h). -/
structure BistFrame where
  bytes : Vector UInt8 12
  deriving DecidableEq, Repr

namespace BistFrame

/-- The frame at the front of a buffer. -/
def parse (b : Bytes) : Except FrameFault BistFrame :=
  (FrameKind.bist.cut 12 b).map BistFrame.mk

def pmPort (f : BistFrame) : UInt8 := pmPortOf (Bytes.nth f.bytes 1)

/-- The bits that define the test pattern. -/
def pattern (f : BistFrame) : UInt8 := Bytes.nth f.bytes 2

def dataHigh (f : BistFrame) : UInt32 := Bytes.le32 f.bytes.toList 4

def dataLow (f : BistFrame) : UInt32 := Bytes.le32 f.bytes.toList 8

end BistFrame

/-! ## Data -/

/-- A data frame (46h): its header dword and whole dwords of payload. -/
structure DataFrame where
  bytes : Bytes
  deriving DecidableEq, Repr

namespace DataFrame

/-- The buffer as a data frame; the length is looked at before the type. -/
def parse (b : Bytes) : Except FrameFault DataFrame :=
  if b.length < dataFrameMinLength ∨ dataFrameMaxLength < b.length ∨ b.length % 4 ≠ 0 then
    .error (.badDataLength b.length)
  else if b.byteAt 0 ≠ FrameKind.data.code then .error (.unexpectedKind (b.byteAt 0))
  else .ok ⟨b⟩

def pmPort (f : DataFrame) : UInt8 := pmPortOf (f.bytes.byteAt 1)

/-- The bytes behind the header dword. -/
def payload (f : DataFrame) : Bytes := f.bytes.drop dataFrameMinLength

end DataFrame

end DriveReach.Ata
