import UsbNcm.Ntb.Construct

/-!
# What the two sides negotiate (`ncm.h`, `callbacks.h`)

The parameters that a function reports, the ones that a driver creates its adapter with, and the
transfer blocks that the queues of the adapter create from them.
-/

open Exec ByteMemory UsbNcm.Ring

namespace UsbNcm

/-- `NTB_PARAMETERS` -/
structure NtbParameters where
  wLength : UInt16
  bmNtbFormatsSupported : UInt16
  dwNtbInMaxSize : UInt32
  wNdpInDivisor : UInt16
  wNdpInPayloadRemainder : UInt16
  wNdpInAlignment : UInt16
  wReserved : UInt16
  dwNtbOutMaxSize : UInt32
  wNdpOutDivisor : UInt16
  wNdpOutPayloadRemainder : UInt16
  wNdpOutAlignment : UInt16
  wNtbOutMaxDatagrams : UInt16
  deriving DecidableEq, Repr

/-- `USBNCM_ADAPTER_PARAMETERS` -/
structure AdapterParameters where
  use32BitNtb : Bool
  macAddress : List UInt8
  maxDatagramSize : UInt16
  txMaxNtbDatagramCount : UInt16
  txMaxNtbSize : UInt32
  txNdpAlignment : UInt16
  txNdpDivisor : UInt16
  txNdpPayloadRemainder : UInt16
  deriving DecidableEq, Repr

namespace Ntb.NcmTransferBlock

variable {tb tb' : NcmTransferBlock} {params : AdapterParameters}

/-- The block that `InitializeQueue` of either queue creates. -/
def ncmTransferBlockCreate (params : AdapterParameters) : Except Stop NcmTransferBlock :=
  initializeNtb params.txMaxNtbDatagramCount params.txNdpAlignment params.txNdpDivisor
    params.txNdpPayloadRemainder params.use32BitNtb

structure CreatedFrom (params : AdapterParameters) (tb : NcmTransferBlock) : Prop where
  format : tb.format = if params.use32BitNtb then .ntb32 else .ntb16
  ntbMaxDatagrams : tb.ntbMaxDatagrams = params.txMaxNtbDatagramCount
  ndpAlignment : tb.ndpAlignment = params.txNdpAlignment
  ndpDivisor : tb.ndpDivisor = params.txNdpDivisor
  ndpPayloadRemainder : tb.ndpPayloadRemainder = params.txNdpPayloadRemainder

theorem createdFrom_of_create (h : ncmTransferBlockCreate params = .ok tb) :
    CreatedFrom params tb := by
  unfold ncmTransferBlockCreate initializeNtb at h
  split at h
  · cases h
  · cases h
    exact ⟨rfl, rfl, rfl, rfl, rfl⟩

theorem CreatedFrom.started (h : CreatedFrom params tb) (buffer : Memory) (bufferLength : Nat) :
    CreatedFrom params (tb.started buffer bufferLength) :=
  ⟨h.format, h.ntbMaxDatagrams, h.ndpAlignment, h.ndpDivisor, h.ndpPayloadRemainder⟩

theorem CreatedFrom.accept {p f : Nat} (h : CreatedFrom params tb) (pi : NcmPacketIterator p f) :
    CreatedFrom params (tb.accept pi) :=
  ⟨h.format, h.ntbMaxDatagrams, h.ndpAlignment, h.ndpDivisor, h.ndpPayloadRemainder⟩

end Ntb.NcmTransferBlock

end UsbNcm
