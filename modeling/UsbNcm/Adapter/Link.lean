import UsbNcm.Parameters

/-! # The link of an adapter (`adapter.cpp`) -/

open UsbNcm.Ntb

namespace UsbNcm.Adapter

inductive MediaConnectState
  | unknown
  | connected
  | disconnected
  deriving DecidableEq, Repr

inductive MediaDuplexState
  | unknown
  | full
  deriving DecidableEq, Repr

/-- A `NET_ADAPTER_LINK_STATE`. Pause functions and auto negotiation are the same in all of them. -/
structure NetAdapterLinkState where
  txLinkSpeed : UInt64
  rxLinkSpeed : UInt64
  mediaConnectState : MediaConnectState
  mediaDuplexState : MediaDuplexState
  deriving DecidableEq, Repr

structure AdapterLink where
  linkUp : Bool
  txLinkSpeed : UInt64
  rxLinkSpeed : UInt64
  -- what NetAdapterSetLinkState was called with, the last call at the end
  reported : List NetAdapterLinkState
  deriving DecidableEq, Repr

def ndisLinkSpeedUnknown : UInt64 := 0xFFFFFFFFFFFFFFFF

/-- The MTU that `StartAdapter` sets, a difference of 64-bit numbers. -/
def linkLayerMtuSize (params : AdapterParameters) : UInt64 :=
  params.maxDatagramSize.toUInt64 - UInt64.ofNat sizeofEthernetHeader

theorem linkLayerMtuSize_exact_iff (params : AdapterParameters) :
    (linkLayerMtuSize params).toNat + sizeofEthernetHeader = params.maxDatagramSize.toNat ↔
      sizeofEthernetHeader ≤ params.maxDatagramSize.toNat := by
  have hlt := params.maxDatagramSize.toNat_lt
  unfold linkLayerMtuSize sizeofEthernetHeader
  rw [UInt64.toNat_sub, UInt16.toNat_toUInt64, UInt64.toNat_ofNat']
  omega

/-- The link after `StartAdapter`. -/
def startedLink : AdapterLink where
  linkUp := false
  txLinkSpeed := 0
  rxLinkSpeed := 0
  reported := [⟨ndisLinkSpeedUnknown, ndisLinkSpeedUnknown, .unknown, .full⟩]

namespace AdapterLink

def setLinkState (link : AdapterLink) (linkUp : Bool) : AdapterLink :=
  let currentLinkState : NetAdapterLinkState :=
    if linkUp then ⟨link.txLinkSpeed, link.rxLinkSpeed, .connected, .full⟩
    else ⟨0, 0, .disconnected, .unknown⟩
  { link with linkUp := linkUp, reported := link.reported ++ [currentLinkState] }

def setLinkSpeed (link : AdapterLink) (upLinkSpeed downLinkSpeed : UInt64) : AdapterLink :=
  { link with txLinkSpeed := upLinkSpeed, rxLinkSpeed := downLinkSpeed }

end AdapterLink

end UsbNcm.Adapter
