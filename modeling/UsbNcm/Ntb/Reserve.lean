import UsbNcm.Ntb.Layout

/-!
# The room that the builder reserves

`CopyNextDatagram` tests for room before it counts the datagram, and `SetNdp` uses the room after.
-/

open Exec ByteMemory UsbNcm.Ring

namespace UsbNcm.Ntb.NcmTransferBlock

variable {p f : Nat}

/-! ## The end of the buffer -/

/-- `setNdp` writes inside the buffer only, and the transfer is no longer than the buffer. -/
structure StaysInBuffer (tb : NcmTransferBlock) : Prop where
  ndpEnd_le : tb.ndpEnd ≤ tb.bufferLength
  result : ∃ transferLength tb', tb.setNdp = .ok (transferLength, tb') ∧
    transferLength ≤ tb.bufferLength ∧
    ∀ a < 2 ^ 64, tb.bufferLength ≤ a → tb'.buffer a = tb.buffer a

/-- The room that the datagram, the NDP and all entries up to the null entry take. The test of
`copyNextDatagram` leaves one entry out. -/
def NullEntryFits (tb : NcmTransferBlock) (pi : NcmPacketIterator p f) : Prop :=
  tb.ndpOffsetAfter (ncmGetPacketDataLength pi) + tb.format.sizeofNdp +
    (tb.currentNdpDatagramCount + 2) * tb.format.sizeofDpe ≤ tb.bufferLength

theorem Bounded.staysInBuffer_iff {tb : NcmTransferBlock} (h : tb.Bounded)
    (hcount : tb.currentNdpDatagramCount ≠ 0) : tb.StaysInBuffer ↔ tb.ndpEnd ≤ tb.bufferLength := by
  constructor
  · intro hstays
    exact hstays.ndpEnd_le
  · intro hend
    have hplaced := h.ndpPlaced
    refine ⟨hend, _, _, setNdp_spec hcount hplaced, ?_, ?_⟩
    · have hlen : tb.ndpLength % 256 ^ 2 ≤ tb.ndpLength := Nat.mod_le _ _
      have hmod := Nat.mod_le (tb.ndpOffset + tb.ndpLength % 256 ^ 2) (256 ^ tb.format.ptrSize)
      unfold ndpEnd at hend
      unfold ndpLength at hlen hmod ⊢
      omega
    · intro a ha hge
      have hnth := hplaced.ndpOffset_ge
      have hle : tb.ndpOffset ≤ tb.ndpEnd := by
        unfold ndpEnd
        omega
      exact written_outside hplaced ha (by omega) (Or.inr (by omega))

/-- After any offers of which one was accepted, `setNdp` stays in the buffer exactly when the last
accepted packet left room for one entry more than the test asked for. -/
theorem setNdp_staysInBuffer_iff (tb : NcmTransferBlock) (halign : tb.ndpAlignment ≠ 0)
    (hdiv : tb.ndpDivisor ≠ 0) (buffer : Memory) (bufferLength : Nat)
    (pis : List (NcmPacketIterator p f))
    (hsome : (tb.started buffer bufferLength).trace pis ≠ []) :
    ((tb.started buffer bufferLength).offers pis).StaysInBuffer ↔
      ∀ tb1 pi, ((tb.started buffer bufferLength).trace pis).getLast? = some (tb1, pi) →
        tb1.NullEntryFits pi := by
  obtain ⟨⟨tb1, pi⟩, hlast⟩ := Option.ne_none_iff_exists'.mp
    (fun hnone => hsome (List.getLast?_eq_none_iff.mp hnone))
  have hbounded := offers_invariant Bounded (fun _ _ h ha => h.accept ha)
    (started_bounded buffer bufferLength halign hdiv) pis
  have heq := offers_eq hlast
  have hcount : (tb1.accept pi).currentNdpDatagramCount ≠ 0 := Nat.succ_ne_zero _
  have hfinal := hbounded.1
  rw [heq] at hfinal ⊢
  rw [hfinal.staysInBuffer_iff hcount, accept_ndpEnd, hlast]
  constructor
  · rintro hfits tb2 pi2 h
    cases h
    exact hfits
  · intro hfits
    exact hfits tb1 pi rfl

theorem setNdp_staysInBuffer_iff_2018 :
    ((initialBlock 16 4 4 0 false).started (fun _ => none) 2048).trace [singlePacket 2018] ≠ [] ∧
      ((((initialBlock 16 4 4 0 false).started (fun _ => none) 2048).offers
          [singlePacket 2018]).StaysInBuffer ↔
        ∀ tb1 pi, (((initialBlock 16 4 4 0 false).started (fun _ => none) 2048).trace
          [singlePacket 2018]).getLast? = some (tb1, pi) → tb1.NullEntryFits pi) := by
  have hsome : ((initialBlock 16 4 4 0 false).started (fun _ => none) 2048).trace
      [singlePacket 2018] ≠ [] := by
    decide
  exact ⟨hsome, setNdp_staysInBuffer_iff (initialBlock 16 4 4 0 false) (by decide) (by decide)
    (fun _ => none) 2048 [singlePacket 2018] hsome⟩

/-- One packet that fills a buffer of 2048 bytes: the table ends at 2052. -/
theorem setNdp_leaves_buffer :
    (((initialBlock 16 4 4 0 false).started (fun _ => none) 2048).offers
        [singlePacket 2022]).currentNdpDatagramCount = 1 ∧
      (((initialBlock 16 4 4 0 false).started (fun _ => none) 2048).offers
        [singlePacket 2022]).ndpEnd = 2052 ∧
      ¬ (((initialBlock 16 4 4 0 false).started (fun _ => none) 2048).offers
        [singlePacket 2022]).StaysInBuffer := by
  refine ⟨by decide, by decide, ?_⟩
  intro hstays
  exact absurd hstays.ndpEnd_le (by decide)

/-! ## The width of the fields -/

/-- `setNdp` stores every offset and length as it is, and returns where the table ends. -/
def Untruncated (tb : NcmTransferBlock)
    (acc : List (NcmTransferBlock × NcmPacketIterator p f)) : Prop :=
  ∃ transferLength tb', tb.setNdp = .ok (transferLength, tb') ∧
    (∀ i (h : i < acc.length), EntryAt tb.format tb'.buffer
      (tb.ndpOffset + tb.format.sizeofNdp + i * tb.format.sizeofDpe) (record acc[i])) ∧
    readLe tb'.buffer tb.format.nthNdpIndexAt tb.format.ptrSize = .ok tb.ndpOffset ∧
    readLe tb'.buffer (tb.ndpOffset + NtbFormat.ndpLengthAt) 2 =
      .ok (tb.format.sizeofNdp + tb.datagramPointerTableSize) ∧
    readLe tb'.buffer NtbFormat.nthBlockLengthAt tb.format.ptrSize = .ok tb.ndpEnd ∧
    transferLength = tb.ndpEnd ∧ 0 < transferLength

/-- When the other fields have room, all depends on the block length. -/
theorem Laid.untruncated_iff {tb : NcmTransferBlock}
    {acc : List (NcmTransferBlock × NcmPacketIterator p f)} (h : tb.Laid acc) (hb : tb.Bounded)
    (hsome : acc ≠ []) (hndp : tb.ndpOffset < 256 ^ tb.format.ptrSize)
    (hlen : tb.ndpLength < 2 ^ 16) :
    Untruncated tb acc ↔ tb.ndpEnd < 256 ^ tb.format.ptrSize := by
  have hplaced := hb.ndpPlaced
  have hcount : tb.currentNdpDatagramCount ≠ 0 := by
    rw [h.count]
    exact fun hzero => hsome (List.length_eq_zero_iff.mp hzero)
  have hndpEnd : tb.ndpOffset + tb.ndpLength % 256 ^ 2 = tb.ndpEnd := by
    rw [Nat.mod_eq_of_lt (by omega), ndpEnd, ndpLength, Nat.add_assoc]
  have hset := setNdp_spec hcount hplaced
  rw [hndpEnd] at hset
  have hpos : 0 < 256 ^ tb.format.ptrSize := Nat.pow_pos (by decide)
  constructor
  · rintro ⟨transferLength, tb', hset', -, -, -, -, hlength, -⟩
    rw [hset] at hset'
    cases hset'
    rw [← hlength]
    exact Nat.mod_lt _ hpos
  · intro hend
    refine ⟨_, _, hset, ?_, ?_, ?_, ?_, Nat.mod_eq_of_lt hend, ?_⟩
    · intro i hi
      have hentry := h.entryAt hb hi
      rw [h.record_cut hb hndp (List.getElem_mem hi)] at hentry
      exact hentry
    · exact readLe_written hplaced (by simp [blockWrites]) hndp
    · have hlength : readLe tb.written (tb.ndpOffset + NtbFormat.ndpLengthAt) 2 =
          .ok tb.ndpLength :=
        readLe_written hplaced (by simp [ndpWrites]) (by omega)
      exact hlength
    · refine readLe_written hplaced ?_ hend
      rw [← hndpEnd]
      simp [blockWrites]
    · rw [Nat.mod_eq_of_lt hend]
      have hge := hplaced.ndpOffset_ge
      unfold ndpEnd
      rcases tb.format.sizes with hs | hs <;> omega

end UsbNcm.Ntb.NcmTransferBlock
