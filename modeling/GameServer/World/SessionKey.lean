import Mathlib.Data.UInt
import Mathlib.Tactic.Common

/-!
# GameServer.World.SessionKey

Connection identities (`server_common/session/session_key.h`).

A connection is the pair of its slot index `sid` and the `serial` it got
when the slot was handed out; `0` is invalid for either.  The two halves
are packed into one 64-bit key, and the packing is injective — so a table
keyed by packed keys is a table keyed by connections.
-/

namespace GameServer

/-- `dc::IsValidSessionKey`. -/
def isValidSessionKey (sid serial : UInt32) : Bool := sid != 0 && serial != 0

/-- `dc::PackSessionKey`. -/
def packSessionKey (sid serial : UInt32) : UInt64 :=
  (sid.toUInt64 <<< 32) ||| serial.toUInt64

/-- `dc::UnpackSessionSid`. -/
def unpackSessionSid (key : UInt64) : UInt32 := (key >>> 32).toUInt32

/-- `dc::UnpackSessionSerial`. -/
def unpackSessionSerial (key : UInt64) : UInt32 := (key &&& 0xFFFFFFFF).toUInt32

@[simp] theorem isValidSessionKey_eq_true {sid serial : UInt32} :
    isValidSessionKey sid serial = true ↔ sid ≠ 0 ∧ serial ≠ 0 := by
  simp [isValidSessionKey]

/-- The slot is the high half of a key, the serial the low one. -/
theorem toNat_packSessionKey (sid serial : UInt32) :
    (packSessionKey sid serial).toNat = sid.toNat * 2 ^ 32 + serial.toNat := by
  have hserial := serial.toNat_lt
  have hsid := sid.toNat_lt
  have hlt : sid.toNat * 2 ^ 32 < 2 ^ 64 := by omega
  simp only [packSessionKey, UInt64.toNat_or, UInt64.toNat_shiftLeft, UInt32.toNat_toUInt64,
    Nat.shiftLeft_eq]
  rw [show (32 : UInt64).toNat % 64 = 32 from rfl, Nat.mod_eq_of_lt hlt]
  -- the low half is below 2^32, so `|` adds it
  rw [← Nat.shiftLeft_eq, ← Nat.shiftLeft_add_eq_or_of_lt hserial, Nat.shiftLeft_eq]

/-- The slot is unpacked as it was packed. -/
@[simp] theorem unpackSessionSid_packSessionKey (sid serial : UInt32) :
    unpackSessionSid (packSessionKey sid serial) = sid := by
  apply UInt32.toNat_inj.mp
  have hserial := serial.toNat_lt
  have hsid := sid.toNat_lt
  simp only [unpackSessionSid, UInt64.toNat_toUInt32, UInt64.toNat_shiftRight,
    toNat_packSessionKey]
  rw [show (32 : UInt64).toNat % 64 = 32 from rfl, Nat.shiftRight_eq_div_pow]
  omega

/-- So is the serial. -/
@[simp] theorem unpackSessionSerial_packSessionKey (sid serial : UInt32) :
    unpackSessionSerial (packSessionKey sid serial) = serial := by
  apply UInt32.toNat_inj.mp
  have hserial := serial.toNat_lt
  simp only [unpackSessionSerial, UInt64.toNat_toUInt32, UInt64.toNat_and, toNat_packSessionKey]
  rw [show (0xFFFFFFFF : UInt64).toNat = 2 ^ 32 - 1 from rfl, Nat.and_two_pow_sub_one_eq_mod]
  omega

/-- And a key is what its halves pack to. -/
@[simp] theorem packSessionKey_unpack (key : UInt64) :
    packSessionKey (unpackSessionSid key) (unpackSessionSerial key) = key := by
  apply UInt64.toNat_inj.mp
  have hkey := key.toNat_lt
  simp only [toNat_packSessionKey, unpackSessionSid, unpackSessionSerial, UInt64.toNat_toUInt32,
    UInt64.toNat_shiftRight, UInt64.toNat_and]
  rw [show (32 : UInt64).toNat % 64 = 32 from rfl, Nat.shiftRight_eq_div_pow,
    show (0xFFFFFFFF : UInt64).toNat = 2 ^ 32 - 1 from rfl, Nat.and_two_pow_sub_one_eq_mod]
  omega

/-- Distinct connections have distinct keys. -/
@[simp] theorem packSessionKey_inj {sid serial sid' serial' : UInt32} :
    packSessionKey sid serial = packSessionKey sid' serial' ↔ sid = sid' ∧ serial = serial' := by
  constructor
  · intro h
    have hsid := congrArg unpackSessionSid h
    have hserial := congrArg unpackSessionSerial h
    simp only [unpackSessionSid_packSessionKey] at hsid
    simp only [unpackSessionSerial_packSessionKey] at hserial
    exact ⟨hsid, hserial⟩
  · rintro ⟨rfl, rfl⟩
    rfl

end GameServer
