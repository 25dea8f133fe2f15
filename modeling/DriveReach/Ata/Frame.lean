import DriveReach.Text.Hex
/-!
# SATA frames

A frame information structure (FIS) opens with a type byte. `FrameKind` lists the types with their
codes and lengths, and `FrameKind.cut` takes a frame of a given type from the front of a buffer.

Every register frame spreads its 48-bit LBA over bytes 4 to 6 and 8 to 10 and keeps its count in
bytes 12 and 13; the readers of these shared places are here.
-/

namespace DriveReach.Ata

/-- Why bytes are not the frame that was asked for. -/
inductive FrameFault where
  | tooShort (needed got : Nat)
  | unexpectedKind (code : UInt8)
  /-- A data frame is 4 to 8196 bytes long, in whole dwords. -/
  | badDataLength (length : Nat)
  deriving DecidableEq, Repr

/-- The text that reports a frame fault. -/
def FrameFault.message : FrameFault → String
  | .tooShort needed got => s!"frame too short: need {needed} bytes, got {got}"
  | .unexpectedKind code => "unexpected FIS type " ++ Hex.marked code
  | .badDataLength length => s!"invalid data FIS length {length}"

def FrameFault.kind : FrameFault → String
  | .tooShort .. => "Fis.TooShort"
  | .unexpectedKind _ => "Fis.UnexpectedType"
  | .badDataLength _ => "Fis.BadDataLength"

/-! ## Lengths -/

/-- The length of the three register frames. -/
def registerFrameLength : Nat := 20
def setDeviceBitsFrameLength : Nat := 8
def dmaActivateFrameLength : Nat := 4
def dmaSetupFrameLength : Nat := 28
def bistFrameLength : Nat := 12
/-- A data frame without payload: its header dword. -/
def dataFrameMinLength : Nat := 4
/-- A data frame with 2048 payload dwords. -/
def dataFrameMaxLength : Nat := 8196

/-! ## Types -/

/-- The defined frame types. -/
inductive FrameKind where
  | registerHostToDevice
  | registerDeviceToHost
  | dmaActivate
  | dmaSetup
  | data
  | bist
  | pioSetup
  | setDeviceBits
  deriving DecidableEq, Repr

namespace FrameKind

def all : List FrameKind :=
  [.registerHostToDevice, .registerDeviceToHost, .dmaActivate, .dmaSetup, .data, .bist, .pioSetup,
    .setDeviceBits]

/-- The type byte. -/
def code : FrameKind → UInt8
  | registerHostToDevice => 0x27
  | registerDeviceToHost => 0x34
  | dmaActivate => 0x39
  | dmaSetup => 0x41
  | data => 0x46
  | bist => 0x58
  | pioSetup => 0x5F
  | setDeviceBits => 0xA1

def name : FrameKind → String
  | registerHostToDevice => "RegisterH2d"
  | registerDeviceToHost => "RegisterD2h"
  | dmaActivate => "DmaActivate"
  | dmaSetup => "DmaSetup"
  | data => "Data"
  | bist => "Bist"
  | pioSetup => "PioSetup"
  | setDeviceBits => "SetDeviceBits"

/-- The type a type byte stands for. -/
def ofCode? (code : UInt8) : Option FrameKind := all.find? (·.code == code)

/-- The length of a frame, which only the data frame leaves open. -/
def length? : FrameKind → Option Nat
  | registerHostToDevice | registerDeviceToHost | pioSetup => some registerFrameLength
  | setDeviceBits => some setDeviceBitsFrameLength
  | dmaActivate => some dmaActivateFrameLength
  | dmaSetup => some dmaSetupFrameLength
  | bist => some bistFrameLength
  | data => none

/-- The first `n` bytes of `b` when they are all there and open with the type's code. -/
def cut (kind : FrameKind) (n : Nat) (b : Bytes) : Except FrameFault (Vector UInt8 n) :=
  if b.length < n then .error (.tooShort n b.length)
  else if b.byteAt 0 ≠ kind.code then .error (.unexpectedKind (b.byteAt 0))
  else .ok (b.fixed n 0)

end FrameKind

/-! ## Places shared by frames -/

/-- The port multiplier port in byte 1. -/
def pmPortOf (b : UInt8) : UInt8 := b &&& 0x0F

/-- The interrupt bit of byte 1. -/
def interruptOf (b : UInt8) : Bool := b &&& 0x40 != 0

/-- The direction bit of byte 1: the device sends. -/
def toHostOf (b : UInt8) : Bool := b &&& 0x20 != 0

/-- The places of a register frame's LBA, least significant first. -/
def lbaPlaces : List Nat := [4, 5, 6, 8, 9, 10]

/-- The places of a register frame's count, least significant first. -/
def countPlaces : List Nat := [12, 13]

/-- The 48-bit LBA of a register frame. -/
def lbaOf (b : Vector UInt8 20) : UInt64 := UInt64.ofNat (Bytes.numberAt b lbaPlaces)

/-- The 16-bit count of a register frame. -/
def countOf (b : Vector UInt8 20) : UInt16 := UInt16.ofNat (Bytes.numberAt b countPlaces)

end DriveReach.Ata
