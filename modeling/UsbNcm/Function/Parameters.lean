import UsbNcm.Parameters

/-! # What the function driver reports and creates its adapter with (`function/device.cpp`) -/

namespace UsbNcm.Function

/-- `MAX_HOST_NTB_SIZE` -/
def maxHostNtbSize : UInt32 := 0x10000

/-- What `SetParameters` puts in `m_NtbParamters`. -/
def ntbParameters : NtbParameters where
  wLength := 0x1C
  bmNtbFormatsSupported := 0x0003
  dwNtbInMaxSize := 0x10000
  wNdpInDivisor := 0x0004
  wNdpInPayloadRemainder := 0x0
  wNdpInAlignment := 0x0004
  wReserved := 0
  dwNtbOutMaxSize := 0x10000
  wNdpOutDivisor := 0x0004
  wNdpOutPayloadRemainder := 0x0
  wNdpOutAlignment := 0x0004
  wNtbOutMaxDatagrams := 0x0000

/-- The parameters that `CreateAdapter` passes on. -/
def adapterParameters (ntbParamters : NtbParameters) (use32BitNtb : Bool)
    (adapterMacAddress : List UInt8) (hostSelectedNtbInMaxSize : UInt32) : AdapterParameters where
  use32BitNtb := use32BitNtb
  macAddress := adapterMacAddress
  maxDatagramSize := 9014
  txMaxNtbDatagramCount := 16
  txMaxNtbSize := hostSelectedNtbInMaxSize
  txNdpAlignment := ntbParamters.wNdpInAlignment
  txNdpDivisor := ntbParamters.wNdpInDivisor
  txNdpPayloadRemainder := ntbParamters.wNdpInPayloadRemainder

end UsbNcm.Function
