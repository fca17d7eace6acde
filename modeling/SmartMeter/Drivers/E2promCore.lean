import SmartMeter.Platform.I2cCore

/-! The AT24C512 and the driver functions of `wm_e2prom.c` (`EE_TYPE` is above `AT24C16`,
so every access sends a two-byte cell address). -/

namespace SmartMeter

open I2cBus

def at24c512 : Layout UInt16 where
  address := 0xA0
  width := 2
  shiftIn := fun pointer byte => pointer * 256 + byte.toUInt16
  next := fun pointer => pointer + 1
  writable := fun _ _ => true

abbrev Eeprom := Device at24c512

section

variable {σ : Type} [Target σ]

def at24cxxReadOneByte (readAddr : UInt16) : StateM (I2cController σ) UInt8 := do
  tlsI2cWriteByte 0xA0 1
  let _ ← tlsI2cWaitAck
  tlsI2cWriteByte (readAddr >>> 8).toUInt8 0
  let _ ← tlsI2cWaitAck
  tlsI2cWriteByte (readAddr % 256).toUInt8 0
  let _ ← tlsI2cWaitAck
  tlsI2cWriteByte 0xA1 1
  let _ ← tlsI2cWaitAck
  tlsI2cReadByte 0 1

def at24cxxWriteOneByte (writeAddr : UInt16) (dataToWrite : UInt8) :
    StateM (I2cController σ) Unit := do
  tlsI2cWriteByte 0xA0 1
  let _ ← tlsI2cWaitAck
  tlsI2cWriteByte (writeAddr >>> 8).toUInt8 0
  let _ ← tlsI2cWaitAck
  tlsI2cWriteByte (writeAddr % 256).toUInt8 0
  let _ ← tlsI2cWaitAck
  tlsI2cWriteByte dataToWrite 0
  let _ ← tlsI2cWaitAck
  tlsI2cStop

/-- `t` counts up while `left` turns remain. A shift by 32 or more is outside what C defines. -/
def at24cxxWriteLenFrom (writeAddr : UInt16) (dataToWrite : UInt32) :
    Nat → Nat → StateM (I2cController σ) Unit
  | 0, _ => pure ()
  | left + 1, t => do
      at24cxxWriteOneByte (writeAddr + UInt16.ofNat t)
        ((dataToWrite >>> UInt32.ofNat (8 * t)) &&& 0xff).toUInt8
      at24cxxWriteLenFrom writeAddr dataToWrite left (t + 1)

def at24cxxWriteLenByte (writeAddr : UInt16) (dataToWrite : UInt32) (len : UInt8) :
    StateM (I2cController σ) Unit :=
  at24cxxWriteLenFrom writeAddr dataToWrite len.toNat 0

def at24cxxReadLenFrom (readAddr : UInt16) (len : UInt8) :
    Nat → Nat → UInt32 → StateM (I2cController σ) UInt32
  | 0, _, temp => pure temp
  | left + 1, t, temp => do
      let value ← at24cxxReadOneByte (readAddr + len.toUInt16 - UInt16.ofNat t - 1)
      at24cxxReadLenFrom readAddr len left (t + 1) ((temp <<< 8) + value.toUInt32)

def at24cxxReadLenByte (readAddr : UInt16) (len : UInt8) : StateM (I2cController σ) UInt32 :=
  at24cxxReadLenFrom readAddr len len.toNat 0 0

def at24cxxReadFrom : Nat → UInt16 → Nat → (Nat → UInt8) → StateM (I2cController σ) (Nat → UInt8)
  | 0, _, _, buffer => pure buffer
  | left + 1, readAddr, index, buffer => do
      let value ← at24cxxReadOneByte readAddr
      at24cxxReadFrom left (readAddr + 1) (index + 1) (Function.update buffer index value)

def at24cxxRead (readAddr : UInt16) (pBuffer : Nat → UInt8) (numToRead : UInt16) :
    StateM (I2cController σ) (Nat → UInt8) :=
  at24cxxReadFrom numToRead.toNat readAddr 0 pBuffer

/-- The loop of `AT24CXX_Write`. `pBuffer` is what the processor finds through the pointer,
so a null pointer reads the memory from address zero on. -/
def at24cxxWriteFrom : Nat → UInt16 → Nat → (Nat → UInt8) → StateM (I2cController σ) Unit
  | 0, _, _, _ => pure ()
  | left + 1, writeAddr, index, pBuffer => do
      at24cxxWriteOneByte writeAddr (pBuffer index)
      at24cxxWriteFrom left (writeAddr + 1) (index + 1) pBuffer

def at24cxxWrite (writeAddr : UInt16) (pBuffer : Nat → UInt8) (numToWrite : UInt16) :
    StateM (I2cController σ) Unit :=
  at24cxxWriteFrom numToWrite.toNat writeAddr 0 pBuffer

end

end SmartMeter
