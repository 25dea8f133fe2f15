import DriveReach.Scsi.Fault
/-!
# Command descriptor blocks

A `Cdb` holds at most 40 bytes. `Cdb.ofBytes` accepts 1 to 40 bytes; the constructors below build
the commands that probing a device needs.
-/

namespace DriveReach.Scsi

/-- A command of at most 40 bytes. -/
structure Cdb where
  bytes : Bytes
  length_le : bytes.length ≤ maxCdbLength
  deriving DecidableEq

namespace Cdb

/-- The command with the given bytes; an empty or overlong string is no command. -/
def ofBytes (b : Bytes) : Except Fault Cdb :=
  if b.isEmpty then .error .emptyCdb
  else if h : b.length ≤ maxCdbLength then .ok ⟨b, h⟩
  else .error (.cdbTooLong b.length)

/-- A command of zeros; a length above 40 counts as 40. -/
def zeroed (length : Nat) : Cdb :=
  ⟨Bytes.zeros (min length maxCdbLength), by
    rw [Bytes.length_zeros]; exact Nat.min_le_right _ _⟩

/-- The command with one byte replaced; outside its length nothing changes. -/
def setByte (c : Cdb) (i : Nat) (b : UInt8) : Cdb :=
  ⟨c.bytes.set i b, by simpa using c.length_le⟩

def length (c : Cdb) : Nat := c.bytes.length

def isEmpty (c : Cdb) : Bool := c.bytes.isEmpty

/-- The first byte, zero for an empty command. -/
def opcode (c : Cdb) : UInt8 := c.bytes.byteAt 0

/-! ## Commands -/

def testUnitReady : Cdb := zeroed 6

def requestSense (allocation : UInt8) : Cdb :=
  ⟨[Opcode.requestSense, 0, 0, 0, allocation, 0], by simp [maxCdbLength]⟩

/-- INQUIRY, for a vital product data page when `vpd` is set. -/
def inquiry (vpd : Bool) (page : UInt8) (allocation : UInt16) : Cdb :=
  ⟨[Opcode.inquiry, if vpd then 1 else 0, page] ++ Bytes.toBE 2 allocation.toNat ++ [0], by
    simp [Bytes.toBE, maxCdbLength]⟩

def readCapacity10 : Cdb := ⟨Opcode.readCapacity10 :: Bytes.zeros 9, by simp [maxCdbLength]⟩

/-- A 16-byte command with an LBA and a transfer length. -/
def transfer16 (opcode : UInt8) (lba : UInt64) (blocks : UInt32) : Cdb :=
  ⟨[opcode, 0] ++ Bytes.toBE 8 lba.toNat ++ Bytes.toBE 4 blocks.toNat ++ [0, 0], by
    simp [Bytes.toBE, maxCdbLength]⟩

def read16 (lba : UInt64) (blocks : UInt32) : Cdb := transfer16 Opcode.read16 lba blocks

def write16 (lba : UInt64) (blocks : UInt32) : Cdb := transfer16 Opcode.write16 lba blocks

def reportLuns (select : UInt8) (allocation : UInt32) : Cdb :=
  ⟨[Opcode.reportLuns, 0, select, 0, 0, 0] ++ Bytes.toBE 4 allocation.toNat ++ [0, 0], by
    simp [Bytes.toBE, maxCdbLength]⟩

end Cdb

end DriveReach.Scsi
