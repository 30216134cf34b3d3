import UsbNcm.Adapter.RxContents

/-!
# The receive filter (`adapter.cpp`, `rxqueue.cpp`)

What a packet filter asks for, in terms of the destination of a frame, against what
`MatchPacketFilter` looks at: the first byte of the destination, and not the multicast list.
-/

open Exec ByteMemory UsbNcm.Ntb UsbNcm.Ntb.NcmTransferBlock

namespace UsbNcm.Adapter

def ndisPacketTypeMulticast : UInt32 := 0x2

def ncmSupportedPacketFilters : UInt32 :=
  ndisPacketTypeDirected ||| ndisPacketTypeMulticast ||| ndisPacketTypeAllMulticast |||
    ndisPacketTypeBroadcast ||| ndisPacketTypePromiscuous

def ncmMaxMcastList : Nat := 1

abbrev EthernetAddress := Vector UInt8 6

/-- What NETRECEIVEFILTER stands for: the framework sets only what the adapter has advertised. -/
structure NetReceiveFilter where
  packetFilter : UInt32
  multicastAddresses : List EthernetAddress
  supported : packetFilter &&& ~~~ncmSupportedPacketFilters = 0
  multicastAddresses_le : multicastAddresses.length ≤ ncmMaxMcastList

namespace NcmAdapter

def setPacketFilter (ncmAdapter : NcmAdapter) (packetFilter : UInt32) : NcmAdapter :=
  { ncmAdapter with packetFilters := packetFilter }

def evtSetReceiveFilter (ncmAdapter : NcmAdapter) (handle : NetReceiveFilter) : NcmAdapter :=
  ncmAdapter.setPacketFilter handle.packetFilter

end NcmAdapter

/-! ## What the filter asks for -/

def broadcastAddress : EthernetAddress := #v[0xff, 0xff, 0xff, 0xff, 0xff, 0xff]

def IsGroup (address : EthernetAddress) : Prop := address[0] &&& 1 ≠ 0

instance (address : EthernetAddress) : Decidable (IsGroup address) :=
  inferInstanceAs (Decidable (_ ≠ _))

namespace NetReceiveFilter

def Sets (handle : NetReceiveFilter) (mask : UInt32) : Prop := handle.packetFilter &&& mask ≠ 0

instance (handle : NetReceiveFilter) (mask : UInt32) : Decidable (handle.Sets mask) :=
  inferInstanceAs (Decidable (_ ≠ _))

def ListsMulticast (handle : NetReceiveFilter) (address : EthernetAddress) : Prop :=
  handle.Sets ndisPacketTypeMulticast ∧ address ∈ handle.multicastAddresses

instance (handle : NetReceiveFilter) (address : EthernetAddress) :
    Decidable (handle.ListsMulticast address) :=
  inferInstanceAs (Decidable (_ ∧ _))

/-- Which destinations an adapter with this address is to receive. -/
def Wants (handle : NetReceiveFilter) (current address : EthernetAddress) : Prop :=
  handle.Sets ndisPacketTypePromiscuous ∨
    (address = broadcastAddress ∧ handle.Sets ndisPacketTypeBroadcast) ∨
    (IsGroup address ∧ address ≠ broadcastAddress ∧
      (handle.Sets ndisPacketTypeAllMulticast ∨ handle.ListsMulticast address)) ∨
    (¬ IsGroup address ∧ address = current ∧ handle.Sets ndisPacketTypeDirected)

instance (handle : NetReceiveFilter) (current address : EthernetAddress) :
    Decidable (handle.Wants current address) :=
  inferInstanceAs (Decidable (_ ∨ _))

/-- Which destinations `matchPacketFilter` lets through. -/
def Matches (handle : NetReceiveFilter) (current address : EthernetAddress) : Prop :=
  handle.Sets ndisPacketTypePromiscuous ∨
    if IsGroup address then
      if address[0] = 0xff then handle.Sets ndisPacketTypeBroadcast
      else handle.Sets ndisPacketTypeAllMulticast
    else handle.Sets ndisPacketTypeDirected ∧ address = current

/-- Where the two agree, for group addresses other than broadcast: with a first byte of 0xff the
broadcast flag has to stand for the multicast ones, and otherwise the list must not be needed. -/
def GroupAgrees (handle : NetReceiveFilter) (address : EthernetAddress) : Prop :=
  if address[0] = 0xff then
    handle.Sets ndisPacketTypeBroadcast ↔
      handle.Sets ndisPacketTypeAllMulticast ∨ handle.ListsMulticast address
  else handle.Sets ndisPacketTypeAllMulticast ∨ ¬ handle.ListsMulticast address

variable {handle : NetReceiveFilter} {current address : EthernetAddress}

theorem isGroup_broadcast : IsGroup broadcastAddress := by decide

theorem matches_iff_wants :
    (handle.Matches current address ↔ handle.Wants current address) ↔
      handle.Sets ndisPacketTypePromiscuous ∨ ¬ IsGroup address ∨ address = broadcastAddress ∨
        handle.GroupAgrees address := by
  unfold Matches Wants GroupAgrees
  by_cases hpromiscuous : handle.Sets ndisPacketTypePromiscuous
  · simp only [hpromiscuous, true_or]
  · by_cases hbroadcast : address = broadcastAddress
    · subst hbroadcast
      have hfirst : broadcastAddress[0] = 0xff := rfl
      simp [hpromiscuous, isGroup_broadcast, hfirst]
    · by_cases hgroup : IsGroup address
      · simp only [hpromiscuous, hbroadcast, hgroup, not_true, not_false_iff, false_or, false_and,
          true_and, or_false, if_true, ne_eq]
        split
        · rfl
        · tauto
      · simp only [hpromiscuous, hbroadcast, hgroup, not_false_iff, false_or, false_and, true_and,
          true_or, if_false, iff_true]
        exact and_comm

end NetReceiveFilter

/-! ## What the queue does -/

namespace NcmAdapter

variable {ncmAdapter : NcmAdapter} {handle : NetReceiveFilter} {m : Memory} {frame : Nat}
  {address : EthernetAddress}

theorem hasFilter_evtSetReceiveFilter (mask : UInt32) :
    (ncmAdapter.evtSetReceiveFilter handle).hasFilter mask = true ↔ handle.Sets mask := by
  simp [hasFilter, evtSetReceiveFilter, setPacketFilter, NetReceiveFilter.Sets]

theorem hasFilter_or (mask mask' : UInt32) :
    ncmAdapter.hasFilter (mask ||| mask') =
      (ncmAdapter.hasFilter mask || ncmAdapter.hasFilter mask') := by
  have hor : ncmAdapter.packetFilters &&& (mask ||| mask') =
      ncmAdapter.packetFilters &&& mask ||| ncmAdapter.packetFilters &&& mask' := by
    simp [← UInt32.toBitVec_inj, BitVec.and_or_distrib_left]
  unfold hasFilter
  rw [hor, Bool.eq_iff_iff]
  simp [UInt32.or_eq_zero_iff, imp_iff_not_or]

theorem matchPacketFilter_evtSetReceiveFilter (ncmAdapter : NcmAdapter) (handle : NetReceiveFilter)
    (h : Holds m frame address.toList) :
    ∃ wants, (ncmAdapter.evtSetReceiveFilter handle).matchPacketFilter m frame = .ok wants ∧
      (wants = true ↔ handle.Matches ncmAdapter.currentMacAddress address) := by
  have hfirst : readByte m frame = .ok address[0] := by
    have := h 0 (by simp)
    rw [readByte, show m frame = m (frame + 0) from rfl, this]
    simp
  have haddress : readBytes m frame 6 = .ok address.toList := by
    simpa using readBytes_of_holds h
  unfold matchPacketFilter NetReceiveFilter.Matches
  simp only [hfirst, haddress, ok_bind, hasFilter_or]
  by_cases hgroup : IsGroup address
  · rw [if_pos (show address[0] &&& 1 ≠ 0 from hgroup), if_pos hgroup]
    by_cases hff : address[0] = 0xff
    · rw [if_pos hff, if_pos hff]
      refine ⟨_, rfl, ?_⟩
      rw [Bool.or_eq_true, hasFilter_evtSetReceiveFilter, hasFilter_evtSetReceiveFilter, or_comm]
    · rw [if_neg hff, if_neg hff]
      refine ⟨_, rfl, ?_⟩
      rw [Bool.or_eq_true, hasFilter_evtSetReceiveFilter, hasFilter_evtSetReceiveFilter, or_comm]
  · rw [if_neg (show ¬ address[0] &&& 1 ≠ 0 from hgroup), if_neg hgroup]
    simp only [hasFilter_evtSetReceiveFilter]
    split
    · next hpromiscuous => exact ⟨true, rfl, by simp [hpromiscuous]⟩
    · next hpromiscuous =>
      split
      · next hdirected =>
        refine ⟨_, rfl, ?_⟩
        simp [hpromiscuous, hdirected, evtSetReceiveFilter, setPacketFilter, Vector.toList_inj]
      · next hdirected => exact ⟨false, rfl, by simp [hpromiscuous, hdirected]⟩

end NcmAdapter

namespace NcmRxQueue

variable {q : NcmRxQueue} {handle : NetReceiveFilter} {b : RxBuffer} {d : DatagramPointer}
  {address : EthernetAddress}

def setReceiveFilter (q : NcmRxQueue) (handle : NetReceiveFilter) : NcmRxQueue :=
  { q with ncmAdapter := q.ncmAdapter.evtSetReceiveFilter handle }

/-- The next pass of `getNextFrame` finds datagram `d` in an accepted NTB, in `b`. -/
inductive Finds (q : NcmRxQueue) (b : RxBuffer) (d : DatagramPointer) : Prop
  | processing {tb : NcmTransferBlock} : q.rxBufferInProcessing = some b →
    q.ntb.buffer = ofBytes b.bytes → q.ntb.getNextDatagram 64 = .ok (.success, d, tb) → Finds q b d
  | dequeued {rest : List RxBuffer} {tb tb' : NcmTransferBlock} : q.rxBufferInProcessing = none →
    q.rxBufferQueue = b :: rest →
    q.ntb.reInitializeBuffer 64 (ofBytes b.bytes) b.bytes.length .rx = .ok (.success, tb) →
    tb.getNextDatagram 64 = .ok (.success, d, tb') → Finds q b d

/-- The frame begins with this destination address. -/
def HasDestination (b : RxBuffer) (d : DatagramPointer) (address : EthernetAddress) : Prop :=
  Holds (ofBytes b.bytes) d.datagramIndex address.toList

/-- The next pass of `getNextFrame` leaves the loop with `d`. -/
def DeliversNext (q : NcmRxQueue) (d : DatagramPointer) : Prop :=
  ∃ q', getNextFrameBody q = .ok (.leave (.success, d, q'))

/-- The pass delivers a datagram that it finds, or skips it. -/
theorem Finds.body {wants : Bool} (h : Finds q b d)
    (hwants : q.ncmAdapter.wantsFrame (ofBytes b.bytes) d = .ok wants) :
    ∃ q', getNextFrameBody q = .ok (if wants then .leave (.success, d, q') else .again q') := by
  cases h with
  | @processing tb hprocessing hbuffer hcall =>
    obtain ⟨-, hbuffer'⟩ := getNextDatagram_buffer hcall
    refine ⟨q.setNtb tb, ?_⟩
    rw [getNextFrameBody_processing hprocessing]
    apply nextFrame_of_datagram hcall
    rw [hbuffer', hbuffer]
    exact hwants
  | @dequeued rest tb tb' hnone hqueue hinit hcall =>
    obtain ⟨-, hbuffer⟩ := reInitializeBuffer_buffer hinit
    obtain ⟨-, hbuffer'⟩ := getNextDatagram_buffer hcall
    refine ⟨(q.dequeued b rest tb).setNtb tb', ?_⟩
    rw [getNextFrameBody_accepts hnone hqueue hinit,
      getNextFrameBody_processing (q := q.dequeued b rest tb) (b := b) rfl]
    apply nextFrame_of_datagram (q := q.dequeued b rest tb) hcall
    rw [hbuffer', hbuffer]
    exact hwants

theorem Finds.delivers_iff {wants : Bool} (h : Finds q b d)
    (hwants : q.ncmAdapter.wantsFrame (ofBytes b.bytes) d = .ok wants) :
    q.DeliversNext d ↔ wants = true := by
  obtain ⟨q', hbody⟩ := h.body hwants
  unfold DeliversNext
  rw [hbody]
  cases wants with
  | true => exact ⟨fun _ => rfl, fun _ => ⟨q', rfl⟩⟩
  | false =>
    constructor
    · rintro ⟨q'', hleave⟩
      cases hleave
    · nofun

/-- With the filter set, a frame that is found is delivered when it is not longer than the adapter
takes and its destination gets through the filter. -/
theorem delivers_iff_matches (h : Finds (q.setReceiveFilter handle) b d)
    (hlength : sizeofEthernetHeader ≤ d.datagramLength) (haddress : HasDestination b d address) :
    (q.setReceiveFilter handle).DeliversNext d ↔
      d.datagramLength ≤ q.ncmAdapter.parameters.maxDatagramSize.toNat ∧
        handle.Matches q.ncmAdapter.currentMacAddress address := by
  obtain ⟨wants, hmatch, hiff⟩ :=
    NcmAdapter.matchPacketFilter_evtSetReceiveFilter q.ncmAdapter handle haddress
  by_cases hmax : d.datagramLength ≤ q.ncmAdapter.parameters.maxDatagramSize.toNat
  · have hwants : (q.setReceiveFilter handle).ncmAdapter.wantsFrame (ofBytes b.bytes) d =
        .ok wants := by
      unfold NcmAdapter.wantsFrame
      rw [if_neg (by change ¬ (_ ∨ _ > q.ncmAdapter.parameters.maxDatagramSize.toNat); omega)]
      exact hmatch
    rw [h.delivers_iff hwants, hiff]
    exact (and_iff_right hmax).symm
  · have hwants : (q.setReceiveFilter handle).ncmAdapter.wantsFrame (ofBytes b.bytes) d =
        .ok false := by
      unfold NcmAdapter.wantsFrame
      rw [if_pos (by change _ ∨ _ > q.ncmAdapter.parameters.maxDatagramSize.toNat; omega)]
    rw [h.delivers_iff hwants]
    exact ⟨nofun, fun hdelivers => absurd hdelivers.1 hmax⟩

/-- A frame is delivered exactly when the filter asks for it, if it is not too long and its
destination is not one of the group addresses that the filter and the code treat differently, or if
it is too long and not asked for. -/
theorem delivers_iff_wants (h : Finds (q.setReceiveFilter handle) b d)
    (hlength : sizeofEthernetHeader ≤ d.datagramLength) (haddress : HasDestination b d address) :
    ((q.setReceiveFilter handle).DeliversNext d ↔
        handle.Wants q.ncmAdapter.currentMacAddress address) ↔
      if d.datagramLength ≤ q.ncmAdapter.parameters.maxDatagramSize.toNat then
        handle.Sets ndisPacketTypePromiscuous ∨ ¬ IsGroup address ∨ address = broadcastAddress ∨
          handle.GroupAgrees address
      else ¬ handle.Wants q.ncmAdapter.currentMacAddress address := by
  rw [delivers_iff_matches h hlength haddress]
  split
  · next hmax =>
    rw [and_iff_right hmax]
    exact NetReceiveFilter.matches_iff_wants
  · next hmax => simp only [hmax, false_and, false_iff]

/-! ## Two frames that are classified wrongly -/

/-- An NTB with a frame of 14 bytes to this address. -/
def frameTo (address : EthernetAddress) : RxBuffer where
  handle := 1
  useContinuousRequestTarget := true
  bytes :=
    [0x4E, 0x43, 0x4D, 0x48, 12, 0, 0, 0, 42, 0, 26, 0] ++ address.toList ++
      [2, 0, 0, 0, 0, 2, 0x08, 0x00, 0x4E, 0x43, 0x4D, 0x30, 16, 0, 0, 0, 12, 0, 14, 0, 0, 0, 0, 0]
  bytes_lt := by simp

def queueWithFrameTo (address : EthernetAddress) : NcmRxQueue :=
  waitingQueue (exampleAdapter 0) (initialBlock 16 4 4 0 false) [frameTo address]

/-- A group address with the first byte of the broadcast address. -/
def almostBroadcast : EthernetAddress := #v[0xff, 0, 0, 0, 0, 1]

def broadcastOnly : NetReceiveFilter where
  packetFilter := ndisPacketTypeBroadcast
  multicastAddresses := []
  supported := by decide
  multicastAddresses_le := by decide

def allHosts : EthernetAddress := #v[0x01, 0x00, 0x5e, 0, 0, 1]

def allHostsListed : NetReceiveFilter where
  packetFilter := ndisPacketTypeMulticast
  multicastAddresses := [allHosts]
  supported := by decide
  multicastAddresses_le := by decide

theorem almostBroadcast_found :
    ((queueWithFrameTo almostBroadcast).setReceiveFilter broadcastOnly).Finds
      (frameTo almostBroadcast) ⟨12, 14⟩ :=
  .dequeued rfl rfl rfl rfl

theorem allHosts_found :
    ((queueWithFrameTo allHosts).setReceiveFilter allHostsListed).Finds
      (frameTo allHosts) ⟨12, 14⟩ :=
  .dequeued rfl rfl rfl rfl

theorem almostBroadcast_destination :
    HasDestination (frameTo almostBroadcast) ⟨12, 14⟩ almostBroadcast := by
  unfold HasDestination Holds
  decide

theorem allHosts_destination : HasDestination (frameTo allHosts) ⟨12, 14⟩ allHosts := by
  unfold HasDestination Holds
  decide

/-- The one is delivered though only broadcast frames are asked for, the other is not though it is
on the list. -/
theorem delivers_not_wants :
    (((queueWithFrameTo almostBroadcast).setReceiveFilter broadcastOnly).Finds
        (frameTo almostBroadcast) ⟨12, 14⟩ ∧
      HasDestination (frameTo almostBroadcast) ⟨12, 14⟩ almostBroadcast ∧
      ((queueWithFrameTo almostBroadcast).setReceiveFilter broadcastOnly).DeliversNext ⟨12, 14⟩ ∧
      ¬ broadcastOnly.Wants (exampleAdapter 0).currentMacAddress almostBroadcast) ∧
    (((queueWithFrameTo allHosts).setReceiveFilter allHostsListed).Finds
        (frameTo allHosts) ⟨12, 14⟩ ∧
      HasDestination (frameTo allHosts) ⟨12, 14⟩ allHosts ∧
      ¬ ((queueWithFrameTo allHosts).setReceiveFilter allHostsListed).DeliversNext ⟨12, 14⟩ ∧
      allHostsListed.Wants (exampleAdapter 0).currentMacAddress allHosts) := by
  refine ⟨⟨almostBroadcast_found, almostBroadcast_destination, ?_, by decide⟩,
    allHosts_found, allHosts_destination, ?_, by decide⟩
  · apply (delivers_iff_matches almostBroadcast_found (by decide) almostBroadcast_destination).mpr
    exact ⟨by decide, Or.inr (by decide)⟩
  · intro hdelivers
    have hmatches := (delivers_iff_matches allHosts_found (by decide) allHosts_destination).mp hdelivers
    rcases hmatches.2 with hpromiscuous | hgroup
    · exact absurd hpromiscuous (by decide)
    · exact absurd hgroup (by decide)

theorem delivers_iff_wants_allHosts :
    (((queueWithFrameTo allHosts).setReceiveFilter allHostsListed).DeliversNext ⟨12, 14⟩ ↔
        allHostsListed.Wants (exampleAdapter 0).currentMacAddress allHosts) ↔
      if 14 ≤ 9014 then
        allHostsListed.Sets ndisPacketTypePromiscuous ∨ ¬ IsGroup allHosts ∨
          allHosts = broadcastAddress ∨ allHostsListed.GroupAgrees allHosts
      else ¬ allHostsListed.Wants (exampleAdapter 0).currentMacAddress allHosts :=
  delivers_iff_wants allHosts_found (by decide) allHosts_destination

end NcmRxQueue

end UsbNcm.Adapter
