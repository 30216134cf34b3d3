import UsbNcm.Adapter.RxFrames

/-!
# Buffers whose last bytes are a frame

For every size that has room for a table there are bytes from which the adapter gets a frame that
ends with the last of them.
-/

open Exec ByteMemory UsbNcm.Ntb UsbNcm.Ntb.NcmTransferBlock

namespace UsbNcm.Adapter

theorem NcmAdapter.wantsFrame_promiscuous {ncmAdapter : NcmAdapter} {m : Memory}
    {frame : DatagramPointer} (hfilter : ncmAdapter.packetFilters = ndisPacketTypePromiscuous)
    (hmin : sizeofEthernetHeader ≤ frame.datagramLength)
    (hmax : frame.datagramLength ≤ ncmAdapter.parameters.maxDatagramSize.toNat)
    (hmapped : (m frame.datagramIndex).isSome) : ncmAdapter.wantsFrame m frame = .ok true := by
  obtain ⟨first, hfirst⟩ := readByte_ok hmapped
  unfold wantsFrame matchPacketFilter hasFilter
  rw [if_neg (by omega), hfirst, ok_bind, hfilter]
  split
  · split <;> rfl
  · rfl

namespace NcmRxQueue

variable {ncmAdapter : NcmAdapter} {fmt : NtbFormat} {size : Nat}

/-- There is a frame in the last 14 bytes of a buffer of this size. -/
def LastFrame (ncmAdapter : NcmAdapter) (fmt : NtbFormat) (size : Nat) (bytes : List UInt8) : Prop :=
  bytes.length = size ∧ ∀ (q : NcmRxQueue) (b : RxBuffer), q.pending = [] →
    q.ncmAdapter = ncmAdapter → q.ntb.format = fmt → b.bytes = bytes →
      ∃ data, Delivers (q.rxBufferQueueEnqueueBuffer b)
        [⟨b.handle, ⟨size - sizeofEthernetHeader, sizeofEthernetHeader⟩, data⟩]

/-! ## One table -/

def oneTable (fmt : NtbFormat) (size : Nat) (d : DatagramPointer) : List UInt8 :=
  leBytes 4 fmt.nthSignature ++ leBytes 2 fmt.sizeofNth ++ leBytes 2 0 ++ leBytes fmt.ptrSize size ++
    leBytes fmt.ptrSize fmt.sizeofNth ++
    (leBytes 4 fmt.ndpSignature ++ leBytes 2 fmt.minDptSize ++
      List.replicate (fmt.ndpNextNdpIndexAt - 6) 0 ++ leBytes fmt.ptrSize 0 ++
      List.replicate (fmt.sizeofNdp - fmt.ndpNextNdpIndexAt - fmt.ptrSize) 0 ++
      leBytes fmt.ptrSize d.datagramIndex ++ leBytes fmt.ptrSize d.datagramLength ++
      leBytes fmt.ptrSize 0 ++ leBytes fmt.ptrSize 0) ++
    List.replicate (size - fmt.sizeofNth - fmt.minDptSize) 0

theorem oneTable_length {d : DatagramPointer} (h : fmt.sizeofNth + fmt.minDptSize ≤ size) :
    (oneTable fmt size d).length = size := by
  unfold oneTable
  simp only [List.length_append, leBytes_length, List.length_replicate]
  cases fmt
  · change 28 ≤ size at h
    change 28 + (size - 12 - 16) = size
    omega
  · change 48 ≤ size at h
    change 48 + (size - 16 - 32) = size
    omega

theorem readLe_piece {m : Memory} {a n v : Nat} (h : Holds m a (leBytes n v)) (hv : v < 256 ^ n) :
    readLe m a n = .ok v := by
  rw [readLe_of_holds h, Nat.mod_eq_of_lt hv]

theorem walk_oneTable {d : DatagramPointer} (h : fmt.sizeofNth + fmt.minDptSize ≤ size)
    (hsize : size < 256 ^ fmt.ptrSize) (hd : d.InBlock fmt size) :
    Walk fmt (oneTable fmt size d) [d] := by
  have hlen := oneTable_length (d := d) h
  have hholds : Holds (ofBytes (oneTable fmt size d)) 0 (oneTable fmt size d) := holds_ofBytes _
  have hd' := hd
  obtain ⟨hindex, hpos, hend⟩ := hd'
  simp only [oneTable, holds_append, List.length_append, leBytes_length, List.length_replicate]
    at hholds
  obtain ⟨⟨⟨⟨⟨⟨hsignature, hheaderLength⟩, -⟩, hblock⟩, hfirst⟩, ⟨⟨⟨⟨⟨⟨⟨⟨hndp, hlength⟩, -⟩, hlink⟩,
    -⟩, hdIndex⟩, hdLength⟩, hnull⟩, -⟩⟩, -⟩ := hholds
  refine ⟨size, fmt.sizeofNth, 0, [d], [], ?_, ?_, .last, rfl⟩
  · rw [hlen]
    cases fmt
    all_goals
      refine ⟨by omega, readLe_piece hsignature (by decide), readLe_piece hheaderLength (by decide),
        ⟨size, readLe_piece hblock hsize, Nat.le_refl _, ?_⟩, readLe_piece hfirst (by decide)⟩
      rw [if_pos (by omega)]
  · have hentry : Entries fmt (ofBytes (oneTable fmt size d)) size (fmt.sizeofNth + fmt.minDptSize)
        (fmt.sizeofNth + fmt.sizeofNdp) [d] := by
      cases fmt
      · exact .entry (by decide) ⟨readLe_piece hdIndex (by omega), readLe_piece hdLength (by omega)⟩
          hd (.null (by decide) ⟨0, readLe_piece hnull (by decide), Or.inl rfl⟩)
      · exact .entry (by decide) ⟨readLe_piece hdIndex (by omega), readLe_piece hdLength (by omega)⟩
          hd (.null (by decide) ⟨0, readLe_piece hnull (by decide), Or.inl rfl⟩)
    cases fmt
    · exact ⟨⟨by decide, h⟩, readLe_piece hndp (by decide), ⟨16, readLe_piece hlength (by decide),
        by decide, by decide, h, hentry⟩, readLe_piece hlink (by decide), Or.inl rfl⟩
    · exact ⟨⟨by decide, h⟩, readLe_piece hndp (by decide), ⟨32, readLe_piece hlength (by decide),
        by decide, by decide, h, hentry⟩, readLe_piece hlink (by decide), Or.inl rfl⟩

/-! ## An empty table behind a link -/

/-- One short datagram, a link to a table that begins with a null entry, and behind that entry the
last 14 bytes. The block length leaves them out. -/
def emptySecondTable : List UInt8 :=
  [0x4E, 0x43, 0x4D, 0x48, 12, 0, 0, 0, 44, 0, 12, 0,
    0x4E, 0x43, 0x4D, 0x30, 16, 0, 28, 0, 12, 0, 1, 0, 0, 0, 0, 0,
    0x4E, 0x43, 0x4D, 0x30, 16, 0, 0, 0, 0, 0, 0, 0, 0xF2, 0xFF, 14, 0] ++
  List.replicate 65492 0

theorem emptySecondTable_length : emptySecondTable.length = 0x10000 := by
  rw [emptySecondTable, List.length_append, List.length_replicate]
  rfl

/-- The transfer block at the first of the two tables. -/
def atFirst (tb : NcmTransferBlock) : NcmTransferBlock :=
  (tb.opened (ofBytes emptySecondTable) 0x10000 44 12).atTable 28 1

def atSecond (tb : NcmTransferBlock) : NcmTransferBlock := (atFirst tb).advanceCursor.atTable 0 0

theorem atSecond_format (tb : NcmTransferBlock) : (atSecond tb).format = tb.format := by
  simp [atSecond, atFirst]

theorem atSecond_buffer (tb : NcmTransferBlock) : (atSecond tb).buffer = ofBytes emptySecondTable := by
  simp [atSecond, atFirst]

/-- The calls return the datagram, the null entry, and the entry behind the null entry. -/
theorem calls_emptySecondTable {tb : NcmTransferBlock} (hformat : tb.format = .ntb16) :
    tb.reInitializeBuffer 64 (ofBytes emptySecondTable) 0x10000 .rx = .ok (.success, atFirst tb) ∧
      (atFirst tb).getNextDatagram 64 = .ok (.success, ⟨12, 1⟩, (atFirst tb).advanceCursor) ∧
      (atFirst tb).advanceCursor.getNextDatagram 64 =
        .ok (.success, ⟨0, 0⟩, (atSecond tb).advanceCursor) ∧
      (atSecond tb).advanceCursor.getNextDatagram 64 =
        .ok (.success, ⟨65522, 14⟩, (atSecond tb).advanceCursor.advanceCursor) := by
  have hheader : NthHeader .ntb16 (ofBytes emptySecondTable) 0x10000 44 12 :=
    ⟨by decide, rfl, rfl, ⟨44, rfl, by decide, rfl⟩, rfl⟩
  have hfirst : NdpTable .ntb16 (ofBytes emptySecondTable) 44 12 [⟨12, 1⟩] 28 :=
    ⟨⟨by decide, by decide⟩, rfl, ⟨16, rfl, by decide, by decide, by decide,
      .entry (by decide) ⟨rfl, rfl⟩ ⟨by decide, by decide, by decide⟩
        (.null (by decide) ⟨0, rfl, Or.inl rfl⟩)⟩, rfl, Or.inr ⟨by decide, by decide⟩⟩
  have hsecond : NdpTable .ntb16 (ofBytes emptySecondTable) 44 28 [] 0 :=
    ⟨⟨by decide, by decide⟩, rfl, ⟨16, rfl, by decide, by decide, by decide,
      .null (by decide) ⟨0, rfl, Or.inl rfl⟩⟩, rfl, Or.inl rfl⟩
  have hmapped : ∀ a < 0x10000, (ofBytes emptySecondTable a).isSome := by
    intro a ha
    exact mapped_ofBytes _ a (by rwa [emptySecondTable_length])
  rw [← hformat] at hheader hfirst
  obtain ⟨hinit, hat⟩ := reInitializeBuffer_of_table (by decide) hmapped hheader hfirst
  obtain ⟨hentry, hindex, hat1⟩ := hat.getNextDatagram_entry Nat.zero_lt_one
  rw [hformat] at hat1
  refine ⟨hinit, hentry, ?_, ?_⟩
  · refine (hat1.getNextDatagram_link hindex hsecond).trans ?_
    have hnull : (atSecond tb).currentDatagram = .ok ⟨0, 0⟩ := by
      apply currentDatagram_of_entry
      rw [atSecond_format, hformat, atSecond_buffer]
      exact ⟨rfl, rfl⟩
    change ((atSecond tb).currentDatagram >>= _) = _
    rw [hnull]
    rfl
  · apply getNextDatagram_of_entry Nat.one_ne_zero
    rw [advanceCursor_format, atSecond_format, hformat, advanceCursor_buffer, atSecond_buffer]
    exact ⟨rfl, rfl⟩

/-! ## With a promiscuous filter -/

theorem body_skips {q : NcmRxQueue} {b : RxBuffer} {d : DatagramPointer} {tb' : NcmTransferBlock}
    {m : Memory} (hprocessing : q.rxBufferInProcessing = some b)
    (hcall : q.ntb.getNextDatagram 64 = .ok (.success, d, tb')) (hbuffer : tb'.buffer = m)
    (hwants : q.ncmAdapter.wantsFrame m d = .ok false) :
    getNextFrameBody q = .ok (.again (q.setNtb tb')) := by
  subst hbuffer
  exact (getNextFrameBody_processing hprocessing).trans (nextFrame_of_datagram hcall hwants)

theorem body_returns {q : NcmRxQueue} {b : RxBuffer} {d : DatagramPointer} {tb' : NcmTransferBlock}
    {m : Memory} (hprocessing : q.rxBufferInProcessing = some b)
    (hcall : q.ntb.getNextDatagram 64 = .ok (.success, d, tb')) (hbuffer : tb'.buffer = m)
    (hwants : q.ncmAdapter.wantsFrame m d = .ok true) :
    getNextFrameBody q = .ok (.leave (.success, d, q.setNtb tb')) := by
  subst hbuffer
  exact (getNextFrameBody_processing hprocessing).trans (nextFrame_of_datagram hcall hwants)

section Promiscuous

variable (hfilter : ncmAdapter.packetFilters = ndisPacketTypePromiscuous)
  (hmax : sizeofEthernetHeader ≤ ncmAdapter.parameters.maxDatagramSize.toNat)

include hfilter hmax

theorem lastFrame_oneTable (h : fmt.sizeofNth + fmt.minDptSize ≤ size)
    (hsize : size < 256 ^ fmt.ptrSize) :
    LastFrame ncmAdapter fmt size
      (oneTable fmt size ⟨size - sizeofEthernetHeader, sizeofEthernetHeader⟩) := by
  refine ⟨oneTable_length h, ?_⟩
  rintro q b hpending rfl rfl hbytes
  have hin : DatagramPointer.InBlock q.ntb.format size
      ⟨size - sizeofEthernetHeader, sizeofEthernetHeader⟩ := by
    unfold NtbFormat.minDptSize at h
    refine ⟨?_, Nat.succ_pos 13, ?_⟩
    · change _ ≤ size - 14
      rcases q.ntb.format.sizes with ⟨-, h2, h3, h4, -, -⟩ | ⟨-, h2, h3, h4, -, -⟩ <;> omega
    · change size - 14 + 14 ≤ size
      rcases q.ntb.format.sizes with ⟨-, h2, h3, h4, -, -⟩ | ⟨-, h2, h3, h4, -, -⟩ <;> omega
  have hwalk := walk_oneTable h hsize hin
  rw [← hbytes] at hwalk
  have hwanted : q.ncmAdapter.wanted (ofBytes b.bytes)
      ⟨size - sizeofEthernetHeader, sizeofEthernetHeader⟩ = true := by
    apply NcmAdapter.wanted_of_ok
    apply NcmAdapter.wantsFrame_promiscuous hfilter (Nat.le_refl _) hmax
    have hlen : b.bytes.length = size := by rw [hbytes, oneTable_length h]
    apply mapped_ofBytes
    rw [hlen]
    exact Nat.lt_of_lt_of_le (Nat.lt_add_of_pos_right hin.2.1) hin.2.2
  refine ⟨frameBytes b ⟨size - sizeofEthernetHeader, sizeofEthernetHeader⟩, ?_⟩
  rw [delivers_alone_iff hpending (Or.inr hwalk)]
  simp [delivered, hwanted]

/-- The entry behind the null entry is returned without a check. -/
theorem lastFrame_emptySecondTable : LastFrame ncmAdapter .ntb16 0x10000 emptySecondTable := by
  refine ⟨emptySecondTable_length, ?_⟩
  rintro q b hpending rfl hformat hbytes
  obtain ⟨hnone, hqueue⟩ := List.append_eq_nil_iff.mp hpending
  obtain ⟨hinit, hcall1, hcall2, hcall3⟩ := calls_emptySecondTable hformat
  have hshort : ∀ m d, d.datagramLength < sizeofEthernetHeader →
      q.ncmAdapter.wantsFrame m d = .ok false := by
    intro m d hlt
    unfold NcmAdapter.wantsFrame
    rw [if_pos (Or.inl hlt)]
  have hlast : q.ncmAdapter.wantsFrame (ofBytes emptySecondTable) ⟨65522, 14⟩ = .ok true :=
    NcmAdapter.wantsFrame_promiscuous hfilter (Nat.le_refl _) hmax
      (mapped_ofBytes _ _ (by rw [emptySecondTable_length]; decide))
  have hdata : readBytes (ofBytes emptySecondTable) 65522 14 = .ok (frameBytes b ⟨65522, 14⟩) := by
    rw [← hbytes]
    apply readBytes_frameBytes (d := ⟨65522, 14⟩)
    rw [hbytes, emptySecondTable_length]
    exact Nat.le_refl _
  rw [← emptySecondTable_length, ← hbytes] at hinit
  let q0 := (q.rxBufferQueueEnqueueBuffer b).dequeued b [] (atFirst q.ntb)
  have hbody : getNextFrameBody (q.rxBufferQueueEnqueueBuffer b) = getNextFrameBody q0 := by
    apply getNextFrameBody_accepts (q := q.rxBufferQueueEnqueueBuffer b)
    · exact (rxBufferInProcessing_of_pending hpending : q.rxBufferInProcessing = none)
    · rw [rxBufferQueueEnqueueBuffer, hqueue, List.nil_append]
    · exact hinit
  have hadapter : ∀ tb, (q0.setNtb tb).ncmAdapter = q.ncmAdapter := fun _ => rfl
  have hbody0 : getNextFrameBody q0 = .ok (.again (q0.setNtb (atFirst q.ntb).advanceCursor)) :=
    body_skips (b := b) rfl hcall1 rfl (hshort _ ⟨12, 1⟩ (by decide))
  have hbody1 : getNextFrameBody (q0.setNtb (atFirst q.ntb).advanceCursor) =
      .ok (.again (q0.setNtb (atSecond q.ntb).advanceCursor)) :=
    body_skips (b := b) rfl hcall2 rfl (by rw [hadapter]; exact hshort _ ⟨0, 0⟩ (by decide))
  have hbody2 : getNextFrameBody (q0.setNtb (atSecond q.ntb).advanceCursor) =
      .ok (.leave (.success, ⟨65522, 14⟩, q0.setNtb (atSecond q.ntb).advanceCursor.advanceCursor)) :=
    body_returns (b := b) rfl hcall3 (atSecond_buffer q.ntb) (by rw [hadapter]; exact hlast)
  refine ⟨frameBytes b ⟨65522, 14⟩, ?_⟩
  rw [delivers_again (hbody.trans hbody0), delivers_again hbody1, delivers_frame hbody2 rfl hdata]
  exact Or.inr ⟨[], rfl, .nothing⟩

theorem exists_lastFrame (h : fmt.sizeofNth + fmt.minDptSize ≤ size) (hsize : size ≤ 0x10000) :
    ∃ bytes, LastFrame ncmAdapter fmt size bytes := by
  by_cases hlt : size < 256 ^ fmt.ptrSize
  · exact ⟨_, lastFrame_oneTable hfilter hmax h hlt⟩
  · -- only the 16-bit field of a buffer of 0x10000 bytes is too small
    cases fmt
    · obtain rfl : size = 0x10000 := Nat.le_antisymm hsize (Nat.not_lt.mp hlt)
      exact ⟨_, lastFrame_emptySecondTable hfilter hmax⟩
    · exact absurd (Nat.lt_of_le_of_lt hsize (by decide)) hlt

end Promiscuous

end NcmRxQueue

end UsbNcm.Adapter
