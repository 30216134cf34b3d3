import UsbNcm.Ntb.Construct

/-!
# What the transmitted bytes depend on

The buffer of a transmit request is used again and again. A byte that no write of the builder reaches
is transmitted as it was before.
-/

open Exec ByteMemory AlignUp UsbNcm.Ring

namespace UsbNcm.Ntb.NcmTransferBlock

variable {p f : Nat} {tb tb' : NcmTransferBlock} {data : List UInt8} {datas : List (List UInt8)}
  {pi : NcmPacketIterator p f} {pis : List (NcmPacketIterator p f)}

/-- The contents of the packets that are accepted. -/
def accepted (tb : NcmTransferBlock) (pis : List (NcmPacketIterator p f)) : List (List UInt8) :=
  (tb.trace pis).map fun x => packetData x.2

/-- All that a block keeps when a new buffer is started. -/
structure SameParameters (tb tb' : NcmTransferBlock) : Prop where
  format : tb'.format = tb.format
  sequence : tb'.sequence = tb.sequence
  ntbMaxDatagrams : tb'.ntbMaxDatagrams = tb.ntbMaxDatagrams
  ndpAlignment : tb'.ndpAlignment = tb.ndpAlignment
  ndpDivisor : tb'.ndpDivisor = tb.ndpDivisor
  ndpPayloadRemainder : tb'.ndpPayloadRemainder = tb.ndpPayloadRemainder

/-- Whatever the two buffers held, blocks with the same parameters that accept packets with the same
contents transmit the same bytes. -/
def DisclosesNothing (tb : NcmTransferBlock) (bufferLength : Nat)
    (pis : List (NcmPacketIterator p f)) : Prop :=
  ∀ (tb' : NcmTransferBlock) (m m' : Memory) (pis' : List (NcmPacketIterator p f)),
    SameParameters tb tb' →
      (tb'.started m' bufferLength).accepted pis' = (tb.started m bufferLength).accepted pis →
        ∃ transferLength sent sent',
          ((tb.started m bufferLength).offers pis).setNdp = .ok (transferLength, sent) ∧
          ((tb'.started m' bufferLength).offers pis').setNdp = .ok (transferLength, sent') ∧
          ∀ a < transferLength, sent'.buffer a = sent.buffer a

/-! ## Packets as their contents -/

/-- `accept`, for a packet with these contents. -/
def place (tb : NcmTransferBlock) (data : List UInt8) : NcmTransferBlock :=
  { tb with
    buffer := write tb.buffer tb.datagramOffset data
    datagramPointerTable := tb.datagramPointerTable.set tb.currentNdpDatagramCount
      ⟨tb.datagramOffset % 256 ^ tb.format.ptrSize, data.length % 256 ^ tb.format.ptrSize⟩
    currentNdpDatagramCount := tb.currentNdpDatagramCount + 1
    currentBufferOffset := (tb.datagramOffset + data.length) % 2 ^ 64 }

def placeAll (tb : NcmTransferBlock) (datas : List (List UInt8)) : NcmTransferBlock :=
  datas.foldl place tb

/-- The padding that nobody writes: before each datagram, before the NDP and in an NDP32. -/
def gaps (tb : NcmTransferBlock) : List (List UInt8) → List (Nat × Nat)
  | [] =>
    (tb.currentBufferOffset, tb.ndpOffset) ::
      match tb.format with
      | .ntb16 => []
      -- Reserved6 and Reserved12
      | .ntb32 => [(tb.ndpOffset + 6, tb.ndpOffset + 8), (tb.ndpOffset + 12, tb.ndpOffset + 16)]
  | data :: rest => (tb.currentBufferOffset, tb.datagramOffset) :: (tb.place data).gaps rest

/-- `BlockLength`, as it is stored. -/
def storedBlockLength (tb : NcmTransferBlock) : Nat :=
  (tb.ndpOffset + tb.ndpLength % 256 ^ 2) % 256 ^ tb.format.ptrSize

/-- No padding begins in the part of the block that is transmitted. -/
def NoPaddingSent (tb : NcmTransferBlock) (datas : List (List UInt8)) : Prop :=
  ∀ g ∈ tb.gaps datas, g.1 < g.2 → (tb.placeAll datas).storedBlockLength ≤ g.1

theorem accept_eq_place (tb : NcmTransferBlock) (pi : NcmPacketIterator p f) :
    tb.accept pi = tb.place (packetData pi) := by
  unfold accept place
  rw [ncmGetPacketDataLength_eq]

theorem trace_of_not_accepts (h : ¬ tb.Accepts pi) (pis : List (NcmPacketIterator p f)) :
    tb.trace (pi :: pis) = tb.trace pis := by
  rw [trace, copyNextDatagram_of_not_accepts h]

theorem offers_of_not_accepts (h : ¬ tb.Accepts pi) (pis : List (NcmPacketIterator p f)) :
    tb.offers (pi :: pis) = tb.offers pis := by
  rw [offers, List.foldl_cons, copyNextDatagram_of_not_accepts h]
  rfl

theorem offers_eq_placeAll (tb : NcmTransferBlock) (pis : List (NcmPacketIterator p f)) :
    tb.offers pis = tb.placeAll (tb.accepted pis) := by
  induction pis generalizing tb with
  | nil => rfl
  | cons pi pis ih =>
    unfold accepted
    by_cases ha : tb.Accepts pi
    · rw [offers_of_accepts ha, trace_of_accepts ha, ih, accept_eq_place]
      rfl
    · rw [offers_of_not_accepts ha, trace_of_not_accepts ha, ih]
      rfl

/-- The block stays bounded along the way, and no packet is too long. -/
def Placed (tb : NcmTransferBlock) : List (List UInt8) → Prop
  | [] => tb.Bounded
  | data :: rest => tb.Bounded ∧ data.length < 2 ^ 42 ∧ (tb.place data).Placed rest

theorem placed_accepted (h : tb.Bounded) (pis : List (NcmPacketIterator p f)) :
    tb.Placed (tb.accepted pis) := by
  induction pis generalizing tb with
  | nil => exact h
  | cons pi pis ih =>
    unfold accepted
    by_cases ha : tb.Accepts pi
    · have hnext := ih (h.accept ha)
      rw [accept_eq_place] at hnext
      rw [trace_of_accepts ha, accept_eq_place]
      refine ⟨h, ?_, hnext⟩
      rw [← ncmGetPacketDataLength_eq]
      exact ncmGetPacketDataLength_lt pi
    · rw [trace_of_not_accepts ha]
      exact ih h

theorem Placed.bounded (h : tb.Placed datas) : tb.Bounded := by
  cases datas with
  | nil => exact h
  | cons data rest => exact h.1

theorem Placed.last (h : tb.Placed datas) : (tb.placeAll datas).Bounded := by
  induction datas generalizing tb with
  | nil => exact h
  | cons data rest ih => exact ih h.2.2

/-! ## The writes do not depend on the buffer -/

def placements (tb : NcmTransferBlock) : List (List UInt8) → List (Nat × List UInt8)
  | [] => []
  | data :: rest => (tb.datagramOffset, data) :: (tb.place data).placements rest

/-- All writes up to the end of `setNdp`. -/
def allWrites (tb : NcmTransferBlock) (datas : List (List UInt8)) : List (Nat × List UInt8) :=
  tb.placements datas ++ ((tb.placeAll datas).ndpWrites ++ (tb.placeAll datas).blockWrites)

def withBuffer (tb : NcmTransferBlock) (m : Memory) : NcmTransferBlock := { tb with buffer := m }

theorem placeAll_withBuffer (tb : NcmTransferBlock) (m : Memory) (datas : List (List UInt8)) :
    (tb.withBuffer m).placeAll datas =
      (tb.placeAll datas).withBuffer (writeAll m (tb.placements datas)) := by
  induction datas generalizing tb m with
  | nil => rfl
  | cons data rest ih => exact ih (tb.place data) (write m tb.datagramOffset data)

theorem setNdp_withBuffer (h : tb.Placed datas) (hsome : (tb.placeAll datas).currentNdpDatagramCount ≠ 0)
    (m : Memory) :
    ∃ sent, ((tb.withBuffer m).placeAll datas).setNdp =
        .ok ((tb.placeAll datas).storedBlockLength, sent) ∧
      sent.buffer = writeAll m (tb.allWrites datas) := by
  have hplaced : ((tb.placeAll datas).withBuffer (writeAll m (tb.placements datas))).NdpPlaced := by
    obtain ⟨h1, h2, h3⟩ := h.last.ndpPlaced
    exact ⟨h1, h2, h3⟩
  rw [placeAll_withBuffer]
  refine ⟨_, setNdp_spec hsome hplaced, ?_⟩
  unfold allWrites
  rw [writeAll_append]
  rfl

/-! ## What the writes cover -/

variable {a : Nat}

def InGap (gs : List (Nat × Nat)) (a : Nat) : Prop := ∃ g ∈ gs, g.1 ≤ a ∧ a < g.2

theorem inGap_cons {g : Nat × Nat} {gs : List (Nat × Nat)} :
    InGap (g :: gs) a ↔ (g.1 ≤ a ∧ a < g.2) ∨ InGap gs a := by
  simp [InGap]

theorem place_offset (h : tb.Bounded) (hlt : data.length < 2 ^ 42) :
    (tb.place data).currentBufferOffset = tb.datagramOffset + data.length := by
  have hoffset := h.offset_lt
  have hd := h.datagramOffset_bounds
  unfold place
  exact Nat.mod_eq_of_lt (by omega)

theorem Placed.offset_le (h : tb.Placed datas) :
    tb.currentBufferOffset ≤ (tb.placeAll datas).currentBufferOffset := by
  induction datas generalizing tb with
  | nil => exact Nat.le_refl _
  | cons data rest ih =>
    obtain ⟨hb, hlt, hrest⟩ := h
    have hnext := ih hrest
    have hd := hb.datagramOffset_bounds
    rw [place_offset hb hlt] at hnext
    change tb.currentBufferOffset ≤ ((tb.place data).placeAll rest).currentBufferOffset
    omega

/-- Datagrams and padding come behind what is there already. -/
theorem Placed.behind (h : tb.Placed datas) :
    (∀ w ∈ tb.placements datas, tb.currentBufferOffset ≤ w.1) ∧
      ∀ g ∈ tb.gaps datas, tb.currentBufferOffset ≤ g.1 := by
  induction datas generalizing tb with
  | nil =>
    have hndp := Bounded.ndpOffset_bounds h
    refine ⟨List.forall_mem_nil _, fun g hg => ?_⟩
    unfold gaps at hg
    rcases List.mem_cons.mp hg with rfl | hg
    · exact Nat.le_refl _
    · split at hg
      · cases hg
      · simp only [List.mem_cons, List.not_mem_nil, or_false] at hg
        rcases hg with rfl | rfl <;> (dsimp only; omega)
  | cons data rest ih =>
    obtain ⟨hb, hlt, hrest⟩ := h
    obtain ⟨hplacements, hgaps⟩ := ih hrest
    have hd := hb.datagramOffset_bounds
    have hoffset := place_offset hb hlt
    constructor
    · intro w hw
      rcases List.mem_cons.mp hw with rfl | hw
      · exact hd.1
      · have := hplacements w hw
        omega
    · intro g hg
      rcases List.mem_cons.mp hg with rfl | hg
      · exact Nat.le_refl _
      · have := hgaps g hg
        omega

/-- The headers are written at the NDP and in the NTH. -/
theorem covered_headers (hge : tb.format.sizeofNth ≤ a)
    (hcovered : Covered (tb.ndpWrites ++ tb.blockWrites) a) : tb.ndpOffset ≤ a := by
  obtain ⟨w, hw, hwa, haw⟩ := hcovered
  rcases tb.format.sizes with hs | hs <;>
    simp [ndpWrites, blockWrites, NtbFormat.ndpLengthAt, NtbFormat.nthHeaderLengthAt,
      NtbFormat.nthSequenceAt, NtbFormat.nthBlockLengthAt, hs] at hw hge <;>
    rcases hw with rfl | rfl | rfl | rfl | rfl | rfl | rfl | rfl | rfl <;>
    simp at hwa haw <;> omega

theorem covered_ndp (h : tb.Bounded) (hge : tb.ndpOffset ≤ a) (hend : a < tb.ndpEnd) :
    Covered (tb.ndpWrites ++ tb.blockWrites) a ↔ ¬ InGap (tb.gaps []) a := by
  have hlen := h.tableBytes_length
  have hnth := h.ndpPlaced.ndpOffset_ge
  have hbounds := h.ndpOffset_bounds
  unfold ndpEnd at hend
  cases hformat : tb.format <;>
    simp [ndpWrites, blockWrites, gaps, InGap, NtbFormat.ndpLengthAt, NtbFormat.nthHeaderLengthAt,
      NtbFormat.nthSequenceAt, NtbFormat.nthBlockLengthAt, NtbFormat.nthNdpIndexAt,
      NtbFormat.ndpNextNdpIndexAt, NtbFormat.ptrSize, NtbFormat.sizeofNdp, NtbFormat.sizeofNth,
      hformat, hlen] at * <;> omega

theorem placeAll_format (tb : NcmTransferBlock) (datas : List (List UInt8)) :
    (tb.placeAll datas).format = tb.format := by
  induction datas generalizing tb with
  | nil => rfl
  | cons data rest ih => exact ih (tb.place data)

/-- Nothing is written before the current offset but the NTH. -/
theorem Placed.not_covered_before (h : tb.Placed datas) (hnth : tb.format.sizeofNth ≤ a)
    (hlt : a < tb.currentBufferOffset) : ¬ Covered (tb.allWrites datas) a := by
  unfold allWrites
  rw [covered_append, not_or]
  constructor
  · rintro ⟨w, hw, hwa, -⟩
    have := h.behind.1 w hw
    omega
  · intro hheaders
    have hndp := covered_headers (by rwa [placeAll_format]) hheaders
    have hbounds := h.last.ndpOffset_bounds
    have hoffset := h.offset_le
    omega

theorem Placed.covered_iff (h : tb.Placed datas) (hge : tb.currentBufferOffset ≤ a)
    (hend : a < (tb.placeAll datas).ndpEnd) :
    Covered (tb.allWrites datas) a ↔ ¬ InGap (tb.gaps datas) a := by
  induction datas generalizing tb with
  | nil =>
    by_cases hndp : tb.ndpOffset ≤ a
    · exact covered_ndp h hndp hend
    · refine iff_of_false (fun hcovered => hndp ?_) (fun hnot => hnot ?_)
      · exact covered_headers (Nat.le_trans (Bounded.offset_ge h) hge) hcovered
      · exact inGap_cons.mpr (Or.inl ⟨hge, Nat.lt_of_not_le hndp⟩)
  | cons data rest ih =>
    obtain ⟨hb, hlt, hrest⟩ := h
    have hoffset := place_offset hb hlt
    have hnth := Nat.le_trans hb.offset_ge hge
    change Covered ((tb.datagramOffset, data) :: (tb.place data).allWrites rest) a ↔
      ¬ InGap ((tb.currentBufferOffset, tb.datagramOffset) :: (tb.place data).gaps rest) a
    rw [covered_cons, inGap_cons]
    dsimp only
    by_cases hbefore : a < tb.datagramOffset
    · -- in the padding before the datagram
      refine iff_of_false (fun hcovered => ?_) (fun hnot => hnot (Or.inl ⟨hge, hbefore⟩))
      rcases hcovered with hin | hcovered
      · omega
      · exact hrest.not_covered_before hnth (by omega) hcovered
    · by_cases hinside : a < tb.datagramOffset + data.length
      · -- in the datagram
        refine iff_of_true (Or.inl ⟨by omega, hinside⟩) (fun hgap => ?_)
        rcases hgap with hin | ⟨g, hg, hga, -⟩
        · omega
        · have := hrest.behind.2 g hg
          omega
      · -- behind it
        rw [ih hrest (by omega) hend]
        have hnot : ¬ (tb.datagramOffset ≤ a ∧ a < tb.datagramOffset + data.length) := by omega
        have hnot' : ¬ (tb.currentBufferOffset ≤ a ∧ a < tb.datagramOffset) := by omega
        rw [or_iff_right hnot, or_iff_right hnot']

theorem covered_nth (tb : NcmTransferBlock) (datas : List (List UInt8))
    (hlt : a < tb.format.sizeofNth) :
    Covered (tb.allWrites datas) a := by
  have hformat := placeAll_format tb datas
  unfold allWrites
  rw [covered_append]
  right
  cases hf : tb.format <;>
    simp [ndpWrites, blockWrites, NtbFormat.nthHeaderLengthAt, NtbFormat.nthSequenceAt,
      NtbFormat.nthBlockLengthAt, NtbFormat.nthNdpIndexAt, NtbFormat.ptrSize, NtbFormat.sizeofNth,
      hformat, hf] at * <;> omega

theorem storedBlockLength_le (tb : NcmTransferBlock) : tb.storedBlockLength ≤ tb.ndpEnd := by
  have hmod := Nat.mod_le (tb.ndpOffset + tb.ndpLength % 256 ^ 2) (256 ^ tb.format.ptrSize)
  have hlength := Nat.mod_le tb.ndpLength (256 ^ 2)
  unfold storedBlockLength ndpEnd
  unfold ndpLength at hmod hlength ⊢
  omega

theorem placeAll_count (tb : NcmTransferBlock) (datas : List (List UInt8)) :
    (tb.placeAll datas).currentNdpDatagramCount = tb.currentNdpDatagramCount + datas.length := by
  induction datas generalizing tb with
  | nil => rfl
  | cons data rest ih =>
    change ((tb.place data).placeAll rest).currentNdpDatagramCount = _
    rw [ih, List.length_cons]
    unfold place
    dsimp only
    omega

/-! ## Two runs -/

theorem accepted_withBuffer (tb : NcmTransferBlock) (m : Memory)
    (pis : List (NcmPacketIterator p f)) : (tb.withBuffer m).accepted pis = tb.accepted pis := by
  induction pis generalizing tb m with
  | nil => rfl
  | cons pi pis ih =>
    unfold accepted
    by_cases ha : tb.Accepts pi
    · have ha' : (tb.withBuffer m).Accepts pi := ha
      rw [trace_of_accepts ha, trace_of_accepts ha', List.map_cons, List.map_cons]
      congr 1
      exact ih (tb.accept pi) (write m tb.datagramOffset (packetData pi))
    · have ha' : ¬ (tb.withBuffer m).Accepts pi := ha
      rw [trace_of_not_accepts ha, trace_of_not_accepts ha']
      exact ih tb m

/-- The block that a buffer is started with when it holds nothing. -/
def startedEmpty (tb : NcmTransferBlock) (bufferLength : Nat) : NcmTransferBlock :=
  tb.started (fun _ => none) bufferLength

theorem SameParameters.refl (tb : NcmTransferBlock) : SameParameters tb tb :=
  ⟨rfl, rfl, rfl, rfl, rfl, rfl⟩

theorem SameParameters.started_eq (h : SameParameters tb tb') (m : Memory) (bufferLength : Nat) :
    tb'.started m bufferLength = (tb.startedEmpty bufferLength).withBuffer m := by
  obtain ⟨h1, h2, h3, h4, h5, h6⟩ := h
  unfold startedEmpty started prepareToConstruct clearBlock withBuffer
  simp only [h1, h2, h3, h4, h5, h6]

/-- What any run with these packets transmits. -/
theorem SameParameters.setNdp (h : SameParameters tb tb') {bufferLength : Nat}
    (hplaced : (tb.startedEmpty bufferLength).Placed datas) (hsome : datas ≠ []) {m : Memory}
    (haccepted : (tb'.started m bufferLength).accepted pis = datas) :
    ∃ sent, ((tb'.started m bufferLength).offers pis).setNdp =
        .ok (((tb.startedEmpty bufferLength).placeAll datas).storedBlockLength, sent) ∧
      sent.buffer = writeAll m ((tb.startedEmpty bufferLength).allWrites datas) := by
  rw [offers_eq_placeAll, haccepted, h.started_eq]
  apply setNdp_withBuffer hplaced
  rw [placeAll_count]
  have := List.length_pos_of_ne_nil hsome
  omega

theorem accepted_started (tb : NcmTransferBlock) (bufferLength : Nat)
    (pis : List (NcmPacketIterator p f)) (m : Memory) : (tb.started m bufferLength).accepted pis =
      (tb.startedEmpty bufferLength).accepted pis := by
  rw [(SameParameters.refl tb).started_eq, accepted_withBuffer]

theorem placements_end (h : tb.Placed datas) :
    ∀ w ∈ tb.placements datas, w.1 + w.2.length ≤ 2 ^ 64 := by
  induction datas generalizing tb with
  | nil => exact List.forall_mem_nil _
  | cons data rest ih =>
    obtain ⟨hb, hlt, hrest⟩ := h
    intro w hw
    rcases List.mem_cons.mp hw with rfl | hw
    · have hoffset := hb.offset_lt
      have hd := hb.datagramOffset_bounds
      dsimp only
      omega
    · exact ih hrest w hw

theorem allWrites_end (h : tb.Placed datas) :
    ∀ w ∈ tb.allWrites datas, w.1 + w.2.length ≤ 2 ^ 64 := by
  intro w hw
  rcases List.mem_append.mp hw with hw | hw
  · exact placements_end h w hw
  · exact h.last.ndpPlaced.writes.1 w hw

section

variable {bufferLength : Nat} (halign : tb.ndpAlignment ≠ 0) (hdiv : tb.ndpDivisor ≠ 0)

include halign hdiv

theorem placed_startedEmpty (bufferLength : Nat) (pis : List (NcmPacketIterator p f)) :
    (tb.startedEmpty bufferLength).Placed ((tb.startedEmpty bufferLength).accepted pis) :=
  placed_accepted (started_bounded (fun _ => none) bufferLength halign hdiv) pis

/-- Two buffers that differ everywhere give it away. -/
theorem discloses_of_padding (hsome : (tb.startedEmpty bufferLength).accepted pis ≠ [])
    {g : Nat × Nat}
    (hg : g ∈ (tb.startedEmpty bufferLength).gaps ((tb.startedEmpty bufferLength).accepted pis))
    (hlt : g.1 < g.2)
    (hsent : g.1 < ((tb.startedEmpty bufferLength).placeAll
      ((tb.startedEmpty bufferLength).accepted pis)).storedBlockLength) :
    ¬ tb.DisclosesNothing bufferLength pis := by
  intro hdiscloses
  have hplaced := placed_startedEmpty halign hdiv bufferLength pis
  have hle := storedBlockLength_le
    ((tb.startedEmpty bufferLength).placeAll ((tb.startedEmpty bufferLength).accepted pis))
  have hend := hplaced.last.ndpPlaced.ndpEnd_le
  have haccepted := accepted_started tb bufferLength pis
  obtain ⟨sent0, hset0, hbuffer0⟩ := (SameParameters.refl tb).setNdp hplaced hsome
    (haccepted fun _ => some 0)
  obtain ⟨sent1, hset1, hbuffer1⟩ := (SameParameters.refl tb).setNdp hplaced hsome
    (haccepted fun _ => some 1)
  obtain ⟨transferLength, sent, sent', hset, hset', hsame⟩ := hdiscloses tb _ _ pis
    (SameParameters.refl tb) ((haccepted fun _ => some 1).trans (haccepted fun _ => some 0).symm)
  rw [hset0] at hset
  rw [hset1] at hset'
  cases hset
  cases hset'
  have hbyte := hsame g.1 hsent
  have hnot : ¬ Covered ((tb.startedEmpty bufferLength).allWrites
      ((tb.startedEmpty bufferLength).accepted pis)) g.1 := by
    rw [hplaced.covered_iff (hplaced.behind.2 g hg) (by omega), not_not]
    exact ⟨g, hg, Nat.le_refl _, hlt⟩
  rw [hbuffer0, hbuffer1, writeAll_not_covered (by omega) (allWrites_end hplaced) hnot,
    writeAll_not_covered (by omega) (allWrites_end hplaced) hnot] at hbyte
  exact absurd hbyte (by decide)

end

/-- For both formats, any alignments and divisors but 0, any buffer size and any packets of which one
is accepted: what is transmitted depends on nothing but the parameters, the sequence number and the
packets that were accepted, exactly when no padding begins in the transmitted part. -/
theorem disclosesNothing_iff (tb : NcmTransferBlock) (halign : tb.ndpAlignment ≠ 0)
    (hdiv : tb.ndpDivisor ≠ 0) (bufferLength : Nat) (pis : List (NcmPacketIterator p f))
    (hsome : (tb.startedEmpty bufferLength).accepted pis ≠ []) :
    tb.DisclosesNothing bufferLength pis ↔
      (tb.startedEmpty bufferLength).NoPaddingSent
        ((tb.startedEmpty bufferLength).accepted pis) := by
  constructor
  · intro hdiscloses g hg hlt
    by_contra hsent
    exact discloses_of_padding halign hdiv hsome hg hlt (Nat.lt_of_not_le hsent) hdiscloses
  · intro hnone tb' m m' pis' hsame hpis
    have hplaced := placed_startedEmpty halign hdiv bufferLength pis
    have hle := storedBlockLength_le
      ((tb.startedEmpty bufferLength).placeAll ((tb.startedEmpty bufferLength).accepted pis))
    have hend := hplaced.last.ndpPlaced.ndpEnd_le
    have haccepted := accepted_started tb bufferLength pis m
    obtain ⟨sent, hset, hbuffer⟩ := (SameParameters.refl tb).setNdp hplaced hsome haccepted
    obtain ⟨sent', hset', hbuffer'⟩ := hsame.setNdp hplaced hsome (hpis.trans haccepted)
    refine ⟨_, sent, sent', hset, hset', fun a ha => ?_⟩
    rw [hbuffer, hbuffer']
    apply writeAll_covered (by omega)
    by_cases hnth : a < (tb.startedEmpty bufferLength).format.sizeofNth
    · exact covered_nth _ _ hnth
    · rw [hplaced.covered_iff (Nat.le_of_not_lt hnth) (by omega)]
      rintro ⟨g, hg, hga, hag⟩
      have := hnone g hg (by omega)
      omega

/-- One packet of 60 bytes, with a divisor that leaves no padding. -/
theorem disclosesNothing_iff_60 :
    (initialBlock 16 4 2 0 false).DisclosesNothing 2048 [singlePacket 60] ↔
      ((initialBlock 16 4 2 0 false).startedEmpty 2048).NoPaddingSent
        (((initialBlock 16 4 2 0 false).startedEmpty 2048).accepted [singlePacket 60]) :=
  disclosesNothing_iff (initialBlock 16 4 2 0 false) (by decide) (by decide) 2048
    [singlePacket 60] (by decide)

/-- With the parameters of the function driver, the two bytes before the first datagram are
transmitted as they were. -/
theorem padding_disclosed :
    ¬ (initialBlock 16 4 4 0 false).DisclosesNothing 2048 [singlePacket 60] ∧
      ¬ (initialBlock 16 4 4 0 true).DisclosesNothing 2048 [singlePacket 60] := by
  constructor
  · exact discloses_of_padding (g := (12, 14)) (by decide) (by decide) (by decide) (by decide)
      (by decide) (by decide)
  · exact discloses_of_padding (g := (16, 18)) (by decide) (by decide) (by decide) (by decide)
      (by decide) (by decide)

end UsbNcm.Ntb.NcmTransferBlock
