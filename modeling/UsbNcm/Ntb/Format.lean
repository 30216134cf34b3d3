import Mathlib.Algebra.Group.Nat.Defs
import Mathlib.Tactic.Common

/-!
# The two NTB formats (`ncm.h`, `ntb.cpp`)

The sizes, field positions and signatures that the two instantiations of `NcmTransferBlock` use.
-/

namespace UsbNcm.Ntb

inductive NtbFormat
  | ntb16
  | ntb32
  deriving DecidableEq, Repr

namespace NtbFormat

/-- `sizeof(PTR_SIZE)` -/
def ptrSize : NtbFormat → Nat
  | ntb16 => 2
  | ntb32 => 4

/-- `sizeof(NTH)` -/
def sizeofNth : NtbFormat → Nat
  | ntb16 => 12
  | ntb32 => 16

/-- `sizeof(NDP)` -/
def sizeofNdp : NtbFormat → Nat
  | ntb16 => 8
  | ntb32 => 16

/-- `sizeof(DPE)` -/
def sizeofDpe : NtbFormat → Nat
  | ntb16 => 4
  | ntb32 => 8

def nthSignature : NtbFormat → Nat
  | ntb16 => 0x484D434E -- 'HMCN'
  | ntb32 => 0x686D636E -- 'hmcn'

def ndpSignature : NtbFormat → Nat
  | ntb16 => 0x304D434E -- '0MCN'
  | ntb32 => 0x306D636E -- '0mcn'

-- NcmTransferHeader: Signature at 0, then HeaderLength, Sequence, BlockLength, NdpIndex.
def nthHeaderLengthAt : Nat := 4

def nthSequenceAt : Nat := 6

def nthBlockLengthAt : Nat := 8

def nthNdpIndexAt (fmt : NtbFormat) : Nat := 8 + fmt.ptrSize

-- NcmDatagramPointerTable: Signature at 0, then Length; NDP32 has a reserved word before the link.
def ndpLengthAt : Nat := 4

def ndpNextNdpIndexAt : NtbFormat → Nat
  | ntb16 => 6
  | ntb32 => 8

/-- All sizes and positions of a format at once, for arithmetic. -/
theorem sizes (fmt : NtbFormat) :
    (fmt.ptrSize = 2 ∧ fmt.sizeofNth = 12 ∧ fmt.sizeofNdp = 8 ∧ fmt.sizeofDpe = 4 ∧
        fmt.nthNdpIndexAt = 10 ∧ fmt.ndpNextNdpIndexAt = 6) ∨
      (fmt.ptrSize = 4 ∧ fmt.sizeofNth = 16 ∧ fmt.sizeofNdp = 16 ∧ fmt.sizeofDpe = 8 ∧
        fmt.nthNdpIndexAt = 12 ∧ fmt.ndpNextNdpIndexAt = 8) := by
  cases fmt
  · exact Or.inl ⟨rfl, rfl, rfl, rfl, rfl, rfl⟩
  · exact Or.inr ⟨rfl, rfl, rfl, rfl, rfl, rfl⟩

theorem lt_of_ptrSize {n : Nat} (fmt : NtbFormat) (h : n < 256 ^ fmt.ptrSize) : n < 2 ^ 32 := by
  rcases fmt.sizes with hs | hs <;> (rw [hs.1] at h; omega)

end NtbFormat

/-- `sizeof(ETHERNET_HEADER)` -/
def sizeofEthernetHeader : Nat := 14

@[ext]
structure DatagramPointer where
  datagramIndex : Nat
  datagramLength : Nat
  deriving DecidableEq, Repr

inductive NtStatus
  | success
  | noMoreEntries
  | badData
  | bufferTooSmall
  | insufficientResources
  | deviceHardwareError
  | unsuccessful
  deriving DecidableEq, Repr

-- STATUS_NO_MORE_ENTRIES is a warning, so NT_SUCCESS is false for it as for the errors.
def NtStatus.ntSuccess : NtStatus → Bool
  | success => true
  | _ => false

theorem NtStatus.eq_success {status : NtStatus} (h : status.ntSuccess) : status = success := by
  cases status
  · rfl
  all_goals cases h

end UsbNcm.Ntb
