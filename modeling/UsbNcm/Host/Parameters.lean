import UsbNcm.Parameters

/-! # What the host driver accepts and creates its adapter with (`host/device.cpp`) -/

open UsbNcm.Ntb

namespace UsbNcm.Host

/-- `MAX_HOST_NTB_SIZE` -/
def maxHostNtbSize : UInt32 := 0x10000

/-- `MAX_HOST_MTU_SIZE` -/
def maxHostMtuSize : UInt16 := 9014

/-- `MAX_HOST_TX_NTB_DATAGRAM_COUNT` -/
def maxHostTxNtbDatagramCount : UInt16 := 16

/-- The members of the host device that `SelectConfiguration` fills in. -/
structure HostConfiguration where
  use32BitNtb : Bool
  ntbParamters : NtbParameters
  hostSelectedNtbInMaxSize : UInt32
  maxDatagramSize : UInt16
  macAddress : List UInt8

/-- Step 3 of `SelectConfiguration`, from the `wMaxSegmentSize` of the ECM descriptor. -/
def selectMtu (device : HostConfiguration) (wMaxSegmentSize : UInt16) : HostConfiguration :=
  { device with maxDatagramSize := min wMaxSegmentSize maxHostMtuSize }

/-- Step 5 of `SelectConfiguration`, with the parameters that the device returned. A 32-bit format
chosen earlier stays chosen. -/
def selectNtbParameters (device : HostConfiguration) (ntbParamters : NtbParameters) :
    NtStatus × HostConfiguration :=
  let device := { device with ntbParamters := ntbParamters }
  if ntbParamters.bmNtbFormatsSupported &&& 0x1 = 0 then (.deviceHardwareError, device)
  else
    (.success,
      { device with
        use32BitNtb :=
          if ntbParamters.bmNtbFormatsSupported &&& 0x2 ≠ 0 then true else device.use32BitNtb
        hostSelectedNtbInMaxSize := min ntbParamters.dwNtbInMaxSize maxHostNtbSize })

/-- The parameters that `CreateAdapter` passes on. -/
def adapterParameters (device : HostConfiguration) : AdapterParameters where
  use32BitNtb := device.use32BitNtb
  macAddress := device.macAddress
  maxDatagramSize := device.maxDatagramSize
  txMaxNtbDatagramCount :=
    if device.ntbParamters.wNtbOutMaxDatagrams > 0 then device.ntbParamters.wNtbOutMaxDatagrams
    else maxHostTxNtbDatagramCount
  txMaxNtbSize := device.ntbParamters.dwNtbOutMaxSize
  txNdpAlignment := device.ntbParamters.wNdpOutAlignment
  txNdpDivisor := device.ntbParamters.wNdpOutDivisor
  txNdpPayloadRemainder := device.ntbParamters.wNdpOutPayloadRemainder

/-- Whatever the device returned is taken over, also when it is refused. -/
theorem selectNtbParameters_ntbParamters (device : HostConfiguration)
    (ntbParamters : NtbParameters) :
    (selectNtbParameters device ntbParamters).2.ntbParamters = ntbParamters := by
  unfold selectNtbParameters
  dsimp only
  split <;> rfl

theorem selectNtbParameters_ntSuccess_iff (device : HostConfiguration)
    (ntbParamters : NtbParameters) :
    (selectNtbParameters device ntbParamters).1.ntSuccess ↔
      ntbParamters.bmNtbFormatsSupported &&& 0x1 ≠ 0 := by
  unfold selectNtbParameters
  dsimp only
  split
  · next hformat => exact iff_of_false Bool.false_ne_true (not_not.mpr hformat)
  · next hformat => exact iff_of_true rfl hformat

theorem hostSelectedNtbInMaxSize_le {device : HostConfiguration} {ntbParamters : NtbParameters}
    (h : (selectNtbParameters device ntbParamters).1 = .success) :
    (selectNtbParameters device ntbParamters).2.hostSelectedNtbInMaxSize ≤ maxHostNtbSize := by
  unfold selectNtbParameters at h ⊢
  dsimp only at h ⊢
  split at h
  · cases h
  · next hsupported =>
    rw [if_neg hsupported]
    change (if _ ≤ maxHostNtbSize then _ else maxHostNtbSize) ≤ maxHostNtbSize
    split
    · assumption
    · exact UInt32.le_refl _

theorem headerFits_iff (device : HostConfiguration) {wMaxSegmentSize : Nat}
    (hlt : wMaxSegmentSize < 65536) :
    sizeofEthernetHeader ≤
        (selectMtu device (UInt16.ofNat wMaxSegmentSize)).maxDatagramSize.toNat ↔
      sizeofEthernetHeader ≤ wMaxSegmentSize := by
  have hnat : (UInt16.ofNat wMaxSegmentSize).toNat = wMaxSegmentSize :=
    UInt16.toNat_ofNat_of_lt' hlt
  change _ ≤ (if UInt16.ofNat wMaxSegmentSize ≤ maxHostMtuSize then _ else _ : UInt16).toNat ↔ _
  split
  · rw [hnat]
  · next hlarge =>
    have hgt : 9014 < (UInt16.ofNat wMaxSegmentSize).toNat :=
      UInt16.lt_iff_toNat_lt.mp (UInt16.not_le.mp hlarge)
    rw [hnat] at hgt
    exact iff_of_true (by decide) (by unfold sizeofEthernetHeader; omega)

end UsbNcm.Host
