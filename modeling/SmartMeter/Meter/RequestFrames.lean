import SmartMeter.Library.BitFields
import SmartMeter.Meter.Correction

/-!
The requests that `wm_meter.c` sends to the metering chip as a code: eight bytes from which the
operation, the twelve-bit address and the data are read back.
-/

namespace SmartMeter

open BitFields

def RegAddr : Type := {addr : UInt16 // addr.toNat < 4096}

inductive RegRequest
  | write (addr : RegAddr) (data : UInt32)
  | read (addr : RegAddr)

structure DecodedRequest where
  operation : UInt8
  addr : UInt16
  data : UInt32
deriving Repr, DecidableEq

def RegRequest.decoded : RegRequest → DecodedRequest
  | write addr data => ⟨racWrite, addr.val, data⟩
  | read addr => ⟨racRead, addr.val, 1⟩

def DecodedRequest.frame (request : DecodedRequest) : Nat → UInt8 :=
  requestBuf request.addr request.operation (littleEndian request.data)

def RegRequest.bytes (request : RegRequest) : List UInt8 :=
  Buffer.toList request.decoded.frame 8

def decodeRequest (bytes : List UInt8) : DecodedRequest where
  operation := bytes.getD 1 0 &&& 0x0F
  addr := (bytes.getD 1 0 &&& 0xF0).toUInt16 <<< 4 + (bytes.getD 2 0).toUInt16
  data := registerData fun index => bytes.getD index 0

def CheckedRequest (bytes : List UInt8) : Prop :=
  bytes.length = 8 ∧ bytes.getD 0 0 = 0xFE ∧
    bytes.getD 7 0 = ~~~(bytes.take 7).foldl (· + ·) 0 + 0x33

section

variable (addr : RegAddr) {rac : UInt8}

theorem operationByte_toNat (small : rac.toNat < 16) :
    (((addr.val &&& 0x0F00) >>> 4).toUInt8 + rac).toNat =
      addr.val.toNat / 256 * 16 + rac.toNat := by
  have bound := addr.property
  have mask := and_mask addr.val.toNat 4 8
  simp only [Nat.reducePow, Nat.reduceSub, Nat.reduceShiftLeft] at mask
  simp only [UInt8.toNat_add, UInt16.toNat_toUInt8, UInt16.toNat_shiftRight, UInt16.toNat_and,
    UInt16.reduceToNat, mask, Nat.shiftRight_eq_div_pow, Nat.reduceMod, Nat.reducePow]
  omega

theorem operation_read (small : rac.toNat < 16) :
    (((addr.val &&& 0x0F00) >>> 4).toUInt8 + rac) &&& 0x0F = rac := by
  apply UInt8.toNat_inj.mp
  rw [UInt8.toNat_and, operationByte_toNat addr small]
  have mask := Nat.and_two_pow_sub_one_eq_mod (addr.val.toNat / 256 * 16 + rac.toNat) 4
  simp only [Nat.reducePow, Nat.reduceSub] at mask
  simp only [UInt8.reduceToNat, mask]
  omega

theorem addr_read (small : rac.toNat < 16) :
    ((((addr.val &&& 0x0F00) >>> 4).toUInt8 + rac) &&& 0xF0).toUInt16 <<< 4 +
      (addr.val &&& 0x00FF).toUInt8.toUInt16 = addr.val := by
  have bound := addr.property
  have high := and_mask (addr.val.toNat / 256 * 16 + rac.toNat) 4 4
  have low := Nat.and_two_pow_sub_one_eq_mod addr.val.toNat 8
  simp only [Nat.reducePow, Nat.reduceSub, Nat.reduceShiftLeft] at high low
  apply UInt16.toNat_inj.mp
  simp only [UInt16.toNat_add, UInt16.toNat_shiftLeft, UInt8.toNat_toUInt16, UInt8.toNat_and,
    UInt16.toNat_toUInt8, UInt16.toNat_and, operationByte_toNat addr small, UInt8.reduceToNat,
    UInt16.reduceToNat, high, low, Nat.shiftLeft_eq, Nat.reduceMod, Nat.reducePow]
  omega

end

theorem RegRequest.small (request : RegRequest) : request.decoded.operation.toNat < 16 := by
  cases request with
  | write addr data => exact (by decide : racWrite.toNat < 16)
  | read addr => exact (by decide : racRead.toNat < 16)

theorem RegRequest.addr_small (request : RegRequest) :
    ∃ addr : RegAddr, request.decoded.addr = addr.val := by
  cases request with
  | write addr data => exact ⟨addr, rfl⟩
  | read addr => exact ⟨addr, rfl⟩

theorem decodeRequest_bytes (request : RegRequest) :
    decodeRequest request.bytes = request.decoded := by
  obtain ⟨addr, known⟩ := request.addr_small
  have operation := operation_read addr request.small
  have place := addr_read addr request.small
  have value : registerData request.decoded.frame = request.decoded.data := joined_bytes _
  rw [← known] at operation place
  calc decodeRequest request.bytes
      = ⟨(((request.decoded.addr &&& 0x0F00) >>> 4).toUInt8 + request.decoded.operation) &&& 0x0F,
          ((((request.decoded.addr &&& 0x0F00) >>> 4).toUInt8 + request.decoded.operation) &&&
            0xF0).toUInt16 <<< 4 + (request.decoded.addr &&& 0x00FF).toUInt8.toUInt16,
          registerData request.decoded.frame⟩ := rfl
    _ = request.decoded := by rw [operation, place, value]

theorem RegRequest.checked (request : RegRequest) : CheckedRequest request.bytes := by
  refine ⟨Buffer.toList_length _ _, rfl, ?_⟩
  rfl

theorem RegRequest.decoded_inj {first second : RegRequest}
    (same : first.decoded = second.decoded) : first = second := by
  have operations : racWrite ≠ racRead := by decide
  cases first with
  | write addr data =>
      cases second with
      | write other word =>
          obtain ⟨_, place, content⟩ := DecodedRequest.mk.inj same
          rw [Subtype.ext place, content]
      | read other => exact absurd (congrArg DecodedRequest.operation same) operations
  | read addr =>
      cases second with
      | write other word => exact absurd (congrArg DecodedRequest.operation same).symm operations
      | read other => rw [Subtype.ext (congrArg DecodedRequest.addr same)]

theorem asked_bytes (addr : RegAddr) :
    Buffer.toList (requestBuf addr.val racRead [0x01, 0x00, 0x00, 0x00]) 8 =
      (RegRequest.read addr).bytes := by
  have one : [0x01, 0x00, 0x00, 0x00] = littleEndian 1 := by decide
  rw [one]
  rfl

/-- What the two functions send are frames of this code: checked, and read back as they were
meant, so that no two requests share a frame. -/
theorem requests_unambiguous :
    (∀ (task : MeterTask) (addr : RegAddr) (data : UInt32),
      ((writeV9261fReg addr.val data).run task).2.sent =
          task.sent ++ [(RegRequest.write addr data).bytes, (RegRequest.read addr).bytes] ∧
        ((readV9261fReg addr.val).run task).2.sent =
          task.sent ++ [(RegRequest.read addr).bytes]) ∧
      (∀ request : RegRequest, CheckedRequest request.bytes ∧
        decodeRequest request.bytes = request.decoded) ∧
      ∀ first second : RegRequest, first.bytes = second.bytes ↔ first = second := by
  refine ⟨?_, fun request => ⟨request.checked, decodeRequest_bytes request⟩, ?_⟩
  · intro task addr data
    have written : ((writeV9261fReg addr.val data).run task).2.sent =
        task.sent ++ [(RegRequest.write addr data).bytes] ++
          [Buffer.toList (requestBuf addr.val racRead [0x01, 0x00, 0x00, 0x00]) 8] := rfl
    have read : ((readV9261fReg addr.val).run task).2.sent = task.sent ++
        [Buffer.toList (requestBuf addr.val racRead [0x01, 0x00, 0x00, 0x00]) 8] := rfl
    rw [written, read, asked_bytes, List.append_assoc]
    exact ⟨rfl, rfl⟩
  · intro first second
    constructor
    · intro same
      apply RegRequest.decoded_inj
      rw [← decodeRequest_bytes first, same, decodeRequest_bytes second]
    · exact congrArg RegRequest.bytes

end SmartMeter
