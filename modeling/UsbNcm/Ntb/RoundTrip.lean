import UsbNcm.Ntb.Layout
import UsbNcm.Ntb.Parse

/-!
# What the builder writes, the parser reads

The NTB that `SetNdp` finishes has the header and the table that the parser accepts, and its
datagrams come out with their bytes, in order.
-/

open Exec ByteMemory UsbNcm.Ring

namespace UsbNcm.Ntb.NcmTransferBlock

variable {p f : Nat} {tb tb' : NcmTransferBlock}
  {acc : List (NcmTransferBlock × NcmPacketIterator p f)} {m : Memory} {fmt : NtbFormat}
  {blockLength : Nat} {ds : List DatagramPointer}

/-! ## Reading a block to its end -/

/-- The successful calls from `tb` on return datagrams with these bytes, and then there are no more
entries. -/
inductive Receives : NcmTransferBlock → List (List UInt8) → Prop
  | done {tb tb' : NcmTransferBlock} {d : DatagramPointer} :
    getNextDatagram 64 tb = .ok (.noMoreEntries, d, tb') → Receives tb []
  | datagram {tb tb' : NcmTransferBlock} {d : DatagramPointer} {data : List UInt8}
      {rest : List (List UInt8)} :
    getNextDatagram 64 tb = .ok (.success, d, tb') →
      readBytes tb.buffer d.datagramIndex d.datagramLength = .ok data →
        Receives tb' rest → Receives tb (data :: rest)

theorem AtTable.receives (h : tb.AtTable fmt m blockLength ds) (hlast : tb.nextNdpIndex = 0)
    {contents : List (List UInt8)}
    (hdata : List.Forall₂ (fun d data => readBytes m d.datagramIndex d.datagramLength = .ok data)
      (ds.drop tb.currentNdpDatagramIndex) contents) : Receives tb contents := by
  induction contents generalizing tb with
  | nil =>
    have hnil := List.forall₂_nil_right_iff.mp hdata
    have hle := List.drop_eq_nil_iff.mp hnil
    have hindex : tb.currentNdpDatagramIndex = ds.length := Nat.le_antisymm h.index_le hle
    exact .done (h.getNextDatagram_fails hindex (getNextNdp_of_zero hlast) (by decide))
  | cons data rest ih =>
    have hlt : tb.currentNdpDatagramIndex < ds.length := by
      by_contra hge
      rw [List.drop_eq_nil_of_le (Nat.not_lt.mp hge)] at hdata
      cases hdata
    obtain ⟨hcall, hindex, hat⟩ := h.getNextDatagram_entry hlt
    rw [List.drop_eq_getElem_cons hlt] at hdata
    cases hdata with
    | cons hread hrest =>
      refine .datagram hcall ?_ (ih hat hlast ?_)
      · rw [h.buffer_eq]
        exact hread
      · rw [hindex]
        exact hrest

/-! ## The written block -/

/-- `m` has the bytes of the finished NTB. -/
def HasNtb (tb : NcmTransferBlock) (m : Memory) : Prop := ∀ a < tb.ndpEnd, m a = tb.written a

theorem HasNtb.readLe_eq (h : tb.HasNtb m) {a n : Nat} (hle : a + n ≤ tb.ndpEnd) :
    readLe m a n = readLe tb.written a n :=
  readLe_congr fun i _ hi => h i (by omega)

theorem HasNtb.field (h : tb.HasNtb m) (hplaced : tb.NdpPlaced) {a n v : Nat}
    (hmem : (a, leBytes n v) ∈ tb.ndpWrites ++ tb.blockWrites) (hlt : v < 256 ^ n)
    (hle : a + n ≤ tb.ndpEnd) : readLe m a n = .ok v := by
  rw [h.readLe_eq hle]
  exact readLe_written hplaced hmem hlt

structure Fits (tb : NcmTransferBlock) : Prop where
  count_pos : 0 < tb.currentNdpDatagramCount
  ndpEnd_lt : tb.ndpEnd < 256 ^ tb.format.ptrSize
  ndpLength_lt : tb.ndpLength < 2 ^ 16

theorem ndpEnd_eq (tb : NcmTransferBlock) : tb.ndpEnd = tb.ndpOffset + tb.ndpLength := by
  rw [ndpEnd, ndpLength, Nat.add_assoc]

theorem ndpLength_eq (tb : NcmTransferBlock) :
    tb.ndpLength = tb.format.sizeofNdp + (tb.currentNdpDatagramCount + 1) * tb.format.sizeofDpe :=
  rfl

theorem signatures_lt (fmt : NtbFormat) :
    fmt.nthSignature < 256 ^ 4 ∧ fmt.ndpSignature < 256 ^ 4 ∧ fmt.sizeofNth < 256 ^ 2 := by
  cases fmt <;> decide

theorem Fits.nthHeader (h : tb.Fits) (hb : tb.Bounded) (hm : tb.HasNtb m) {bufferLength : Nat}
    (hle : tb.ndpEnd ≤ bufferLength) :
    NthHeader tb.format m bufferLength tb.ndpEnd tb.ndpOffset := by
  have hplaced := hb.ndpPlaced
  have hge := hplaced.ndpOffset_ge
  have hlt := h.ndpEnd_lt
  have hlen := h.ndpLength_lt
  have hend := ndpEnd_eq tb
  obtain ⟨hnth, -, hsize⟩ := signatures_lt tb.format
  have hs := tb.format.sizes
  have hpos : 0 < tb.ndpEnd := by omega
  have hblock : tb.ndpEnd = tb.ndpOffset + tb.ndpLength % 256 ^ 2 := by
    rw [Nat.mod_eq_of_lt (by omega), hend]
  refine ⟨by omega, ?_, ?_, ⟨tb.ndpEnd, ?_, hle, (if_pos hpos).symm⟩, ?_⟩
  · exact hm.field hplaced (by simp [ndpWrites]) hnth (by omega)
  · refine hm.field hplaced (by simp [ndpWrites]) hsize ?_
    unfold NtbFormat.nthHeaderLengthAt
    omega
  · refine hm.field hplaced ?_ hlt ?_
    · rw [hblock]
      simp [blockWrites]
    · unfold NtbFormat.nthBlockLengthAt
      omega
  · exact hm.field hplaced (by simp [blockWrites]) (by omega) (by omega)

theorem Fits.entries (h : tb.Fits) (hb : tb.Bounded) (hl : tb.Laid acc) (hm : tb.HasNtb m)
    (hpos : ∀ x ∈ acc, 0 < ncmGetPacketDataLength x.2) :
    Entries tb.format m tb.ndpEnd tb.ndpEnd (tb.ndpOffset + tb.format.sizeofNdp)
      (acc.map record) := by
  have hlt := h.ndpEnd_lt
  have hend := ndpEnd_eq tb
  have hlength := ndpLength_eq tb
  have hcount := hl.count
  have hndp : tb.ndpOffset < 256 ^ tb.format.ptrSize := by omega
  have hle := hb.ndpOffset_bounds.1
  -- the words of the entries lie before the end of the table
  have hword : ∀ i ≤ acc.length, tb.ndpOffset + tb.format.sizeofNdp + i * tb.format.sizeofDpe +
      tb.format.ptrSize + tb.format.ptrSize ≤ tb.ndpEnd := by
    intro i hi
    rcases tb.format.sizes with hs | hs <;> (simp only [hs] at *; omega)
  refine Entries.of_get ?_ ?_ ?_
  · intro i hi
    rw [List.length_map] at hi
    rw [List.getElem_map]
    have hmem := List.getElem_mem hi
    have hbound := hword i (Nat.le_of_lt hi)
    obtain ⟨hindex, hdlen⟩ := hl.entryAt hb hi
    rw [hl.record_cut hb hndp hmem] at hindex hdlen
    refine ⟨⟨?_, ?_⟩, ?_⟩
    · rw [hm.readLe_eq (by omega)]
      exact hindex
    · rw [hm.readLe_eq (by omega)]
      exact hdlen
    · obtain ⟨hge, hinside⟩ := hl.inside _ hmem
      rw [← ncmGetPacketDataLength_eq] at hinside
      refine ⟨hge, hpos _ hmem, ?_⟩
      unfold record
      dsimp only
      omega
  · have hbound := hword acc.length (Nat.le_refl _)
    obtain ⟨datagramIndex, hindex, hnull⟩ := hl.nullAt hb
    rw [List.length_map]
    refine ⟨datagramIndex, ?_, ?_⟩
    · rw [hm.readLe_eq (by omega)]
      exact hindex
    · rw [hm.readLe_eq (by omega)]
      exact hnull
  · have hbound := hword acc.length (Nat.le_refl _)
    rw [List.length_map]
    rcases tb.format.sizes with hs | hs <;> omega

theorem Fits.ndpTable (h : tb.Fits) (hb : tb.Bounded) (hl : tb.Laid acc) (hm : tb.HasNtb m)
    (hpos : ∀ x ∈ acc, 0 < ncmGetPacketDataLength x.2) :
    NdpTable tb.format m tb.ndpEnd tb.ndpOffset (acc.map record) 0 := by
  have hplaced := hb.ndpPlaced
  have hcount := h.count_pos
  have hlen := h.ndpLength_lt
  have hend := ndpEnd_eq tb
  have hlength := ndpLength_eq tb
  obtain ⟨-, hsig, -⟩ := signatures_lt tb.format
  have hmin : tb.format.minDptSize ≤ tb.ndpLength ∧ tb.ndpLength % 4 = 0 := by
    unfold NtbFormat.minDptSize
    rcases tb.format.sizes with hs | hs <;> (simp only [hs] at *; omega)
  have hroom : tb.ndpOffset + 16 ≤ tb.ndpEnd := by
    rcases tb.format.sizes with hs | hs <;> (simp only [hs] at *; omega)
  refine ⟨⟨hplaced.ndpOffset_ge, by omega⟩, ?_,
    ⟨tb.ndpLength, ?_, hmin.1, hmin.2, Nat.le_of_eq hend.symm, ?_⟩, ?_, Or.inl rfl⟩
  · exact hm.field hplaced (by simp [ndpWrites]) hsig (by omega)
  · refine hm.field hplaced (by simp [ndpWrites]) (by omega) ?_
    unfold NtbFormat.ndpLengthAt
    omega
  · rw [← hend]
    exact h.entries hb hl hm hpos
  · refine hm.field hplaced (by simp [ndpWrites]) (Nat.pow_pos (by decide)) ?_
    rcases tb.format.sizes with hs | hs <;> omega

theorem HasNtb.data (hm : tb.HasNtb m) (hb : tb.Bounded) (hl : tb.Laid acc)
    {x : NcmTransferBlock × NcmPacketIterator p f} (hx : x ∈ acc) :
    readBytes m (record x).datagramIndex (record x).datagramLength = .ok (packetData x.2) := by
  obtain ⟨hge, hinside⟩ := hl.inside x hx
  have hle := hb.ndpOffset_bounds.1
  have hplaced := hb.ndpPlaced
  have hplacedEnd := hplaced.ndpEnd_le
  have hend := ndpEnd_eq tb
  have hheld : Holds m x.1.datagramOffset (packetData x.2) := by
    refine holds_congr ?_ (hl.held x hx)
    intro i h1 h2
    rw [hm i (by omega), written_outside hplaced (by omega) (by omega) (Or.inl (by omega))]
  have hread := readBytes_of_holds hheld
  rw [← ncmGetPacketDataLength_eq] at hread
  exact hread

theorem HasNtb.contents (hm : tb.HasNtb m) (hb : tb.Bounded) (hl : tb.Laid acc) :
    List.Forall₂ (fun d data => readBytes m d.datagramIndex d.datagramLength = .ok data)
      (acc.map record) (acc.map fun x => packetData x.2) := by
  rw [List.forall₂_map_left_iff, List.forall₂_map_right_iff, List.forall₂_same]
  intro x hx
  exact hm.data hb hl hx

/-! ## From one end to the other -/

theorem mem_of_mem_trace {pis : List (NcmPacketIterator p f)}
    {x : NcmTransferBlock × NcmPacketIterator p f} (h : x ∈ tb.trace pis) : x.2 ∈ pis := by
  induction pis generalizing tb with
  | nil => simp [trace] at h
  | cons pi rest ih =>
    unfold trace at h
    split at h
    · rcases List.mem_cons.mp h with rfl | h
      · exact List.mem_cons_self
      · exact List.mem_cons_of_mem _ (ih h)
    · exact List.mem_cons_of_mem _ (ih h)

/-- The written bytes, read out of the buffer and followed by others. -/
theorem hasNtb_of_readBytes {bytes : List UInt8} (h : readBytes tb.written 0 tb.ndpEnd = .ok bytes)
    (trailing : List UInt8) :
    tb.HasNtb (ofBytes (bytes ++ trailing)) ∧ tb.ndpEnd ≤ (bytes ++ trailing).length := by
  obtain ⟨hlen, hheld⟩ := holds_of_readBytes h
  constructor
  · intro a ha
    have hbyte := hheld a (by omega)
    rw [Nat.zero_add] at hbyte
    rw [hbyte, ofBytes, List.getElem?_append_left (by omega), List.getElem?_eq_getElem]
  · rw [List.length_append]
    omega

/-- A receiver gets the accepted packets, whatever the two blocks did before and whatever follows
the NTB in the transfer. -/
theorem receives_accepted (tb rx : NcmTransferBlock) (hformat : rx.format = tb.format)
    (halign : tb.ndpAlignment ≠ 0) (hdiv : tb.ndpDivisor ≠ 0) (content trailing : List UInt8)
    (pis : List (NcmPacketIterator p f)) (hpos : ∀ pi ∈ pis, 0 < ncmGetPacketDataLength pi)
    (hsome : (tb.started (ofBytes content) content.length).trace pis ≠ [])
    (hbuffer : ((tb.started (ofBytes content) content.length).offers pis).ndpEnd ≤ content.length)
    (hptr : ((tb.started (ofBytes content) content.length).offers pis).ndpEnd <
      256 ^ tb.format.ptrSize)
    (hndp : ((tb.started (ofBytes content) content.length).offers pis).ndpLength < 2 ^ 16) :
    ∃ transferLength sent bytes rx',
      ((tb.started (ofBytes content) content.length).offers pis).setNdp =
          .ok (transferLength, sent) ∧
        readBytes sent.buffer 0 transferLength = .ok bytes ∧
        reInitializeBuffer 64 rx (ofBytes (bytes ++ trailing)) (bytes ++ trailing).length .rx =
          .ok (.success, rx') ∧
        Receives rx' (((tb.started (ofBytes content) content.length).trace pis).map
          fun x => packetData x.2) := by
  obtain ⟨hb, hl⟩ := offers_laid tb halign hdiv (ofBytes content) content.length pis
  obtain ⟨⟨hfmt, hmapped⟩, -⟩ := offers_invariant
    (fun tb' => tb'.format = tb.format ∧ ∀ a < content.length, (tb'.buffer a).isSome)
    (fun _ _ h _ => ⟨h.1, fun a ha => write_isSome (h.2 a ha) _ _⟩)
    (show (tb.started (ofBytes content) content.length).format = tb.format ∧ _ from
      ⟨rfl, mapped_ofBytes content⟩) pis
  have htrace : ∀ x ∈ (tb.started (ofBytes content) content.length).trace pis,
      0 < ncmGetPacketDataLength x.2 := fun x hx => hpos x.2 (mem_of_mem_trace hx)
  generalize (tb.started (ofBytes content) content.length).offers pis = built at *
  generalize (tb.started (ofBytes content) content.length).trace pis = acc at *
  rw [← hfmt] at hptr hformat
  have hfits : built.Fits := by
    refine ⟨?_, hptr, hndp⟩
    rw [hl.count]
    exact List.length_pos_of_ne_nil hsome
  have hset := setNdp_spec (Nat.ne_of_gt hfits.count_pos) hb.ndpPlaced
  rw [Nat.mod_eq_of_lt (show built.ndpLength < 256 ^ 2 by omega), ← ndpEnd_eq,
    Nat.mod_eq_of_lt hptr] at hset
  obtain ⟨bytes, hbytes⟩ := readBytes_ok (m := built.written) (a := 0) (n := built.ndpEnd)
    (fun i _ hi => writeAll_isSome (hmapped i (by omega)) _)
  obtain ⟨hm, hle⟩ := hasNtb_of_readBytes hbytes trailing
  have hheader := hfits.nthHeader hb hm hle
  have htable := hfits.ndpTable hb hl hm htrace
  rw [← hformat] at hheader htable
  have hblock : built.ndpEnd < 2 ^ 32 := built.format.lt_of_ptrSize hptr
  obtain ⟨haccept, hat⟩ := reInitializeBuffer_of_table hblock
    (mapped_ofBytes (bytes ++ trailing)) hheader htable
  exact ⟨_, _, bytes, _, hset, hbytes, haccept, hat.receives rfl (hm.contents hb hl)⟩

/-- Two packets are taken, and the third one, which is too long for what is left, is not. -/
theorem receives_accepted_threePackets :
    ∃ transferLength sent bytes rx',
      (((initialBlock 16 4 4 0 false).started (ofBytes (List.replicate 64 0)) 64).offers
          [singlePacket 4, singlePacket 5, singlePacket 60]).setNdp = .ok (transferLength, sent) ∧
        readBytes sent.buffer 0 transferLength = .ok bytes ∧
        reInitializeBuffer 64 (initialBlock 16 4 4 0 false) (ofBytes (bytes ++ [0]))
          (bytes ++ [0]).length .rx = .ok (.success, rx') ∧
        Receives rx' ((((initialBlock 16 4 4 0 false).started (ofBytes (List.replicate 64 0))
          64).trace [singlePacket 4, singlePacket 5, singlePacket 60]).map fun x => packetData x.2) :=
  receives_accepted (initialBlock 16 4 4 0 false) (initialBlock 16 4 4 0 false) rfl (by decide)
    (by decide) (List.replicate 64 0) [0] [singlePacket 4, singlePacket 5, singlePacket 60]
    (by decide) (by decide) (by decide) (by decide) (by decide)

end UsbNcm.Ntb.NcmTransferBlock
