import UsbNcm.Ring

/-!
# Measuring and gathering a packet (`ncmringiterator.h`)

Both loops go round the fragments of the packet. The second one also leaves when the buffer is full.
-/

open ByteMemory RingIndex Exec

namespace UsbNcm.Ring

variable {p f : Nat} {fragmentRing : NetRing f NetFragment}

/-! ## The loops -/

/-- The loop of `NcmGetPacketDataLength`, from the iterator and the length so far. -/
def lengthPass (fragmentRing : NetRing f NetFragment) :
    NcmOsRingIterator f × Nat → Except Stop (Pass (NcmOsRingIterator f × Nat) Nat)
  | (fi, length) =>
    if fi.hasAny then
      let fragment := fragmentRing.elements fi.index
      .ok (.again (fi.advance, (length + fragment.validLength.toNat) % 2 ^ 64))
    else .ok (.leave length)

def ncmGetPacketDataLengthLoop (fuel : Nat) (pi : NcmPacketIterator p f) : Except Stop Nat :=
  loop (lengthPass pi.osQueue.fragmentRing) fuel (pi.getFragmentIterator, 0)

structure CopyState (f : Nat) where
  fi : NcmOsRingIterator f
  memory : Memory
  bufferDest : Nat
  bufferLength : Nat
  bytesCopied : Nat

/-- The loop of `NcmCopyPacketDataToBuffer`. -/
def copyPass (fragmentRing : NetRing f NetFragment) (s : CopyState f) :
    Except Stop (Pass (CopyState f) (Memory × Nat)) :=
  if s.fi.hasAny ∧ s.bufferLength > 0 then
    let fragment := fragmentRing.elements s.fi.index
    let bytesToCopy :=
      if s.bufferLength < fragment.validLength.toNat then s.bufferLength
      else fragment.validLength.toNat
    .ok (.again
      { fi := s.fi.advance
        memory := write s.memory s.bufferDest (fragment.data.take bytesToCopy)
        bufferDest := (s.bufferDest + bytesToCopy) % 2 ^ 64
        bufferLength := s.bufferLength - bytesToCopy
        bytesCopied := (s.bytesCopied + bytesToCopy) % 2 ^ 64 })
  else .ok (.leave (s.memory, s.bytesCopied))

def ncmCopyPacketDataToBufferLoop (fuel : Nat) (m : Memory) (bufferDest : Nat)
    (pi : NcmPacketIterator p f) (bufferLength : Nat) : Except Stop (Memory × Nat) :=
  loop (copyPass pi.osQueue.fragmentRing) fuel ⟨pi.getFragmentIterator, m, bufferDest, bufferLength, 0⟩

/-! ## The fragments ahead -/

/-- The fragments that an iterator still has. -/
def fragmentsAhead (fragmentRing : NetRing f NetFragment) (fi : NcmOsRingIterator f) :
    List NetFragment :=
  (range fi.index fi.last).map fragmentRing.elements

theorem fragments_eq (pi : NcmPacketIterator p f) :
    pi.fragments = fragmentsAhead pi.osQueue.fragmentRing pi.getFragmentIterator := rfl

theorem fragmentsAhead_nil {fi : NcmOsRingIterator f} (h : fi.hasAny = false) :
    fragmentsAhead fragmentRing fi = [] := by
  rw [fragmentsAhead, NcmOsRingIterator.not_hasAny_iff.mp h, range, count_self]
  rfl

theorem fragmentsAhead_cons {fi : NcmOsRingIterator f} (h : fi.hasAny = true) :
    fragmentsAhead fragmentRing fi =
      fragmentRing.elements fi.index :: fragmentsAhead fragmentRing fi.advance := by
  rw [fragmentsAhead, range_of_ne (NcmOsRingIterator.hasAny_iff.mp h)]
  rfl

/-- With a pass for each fragment and one to leave, the loop measures them all. -/
theorem lengthPass_loop {fuel length : Nat} {fi : NcmOsRingIterator f} (hfuel : fi.getCount < fuel)
    (hsum : length + ((fragmentsAhead fragmentRing fi).flatMap NetFragment.data).length < 2 ^ 64) :
    loop (lengthPass fragmentRing) fuel (fi, length) =
      .ok (length + ((fragmentsAhead fragmentRing fi).flatMap NetFragment.data).length) := by
  induction fuel generalizing fi length with
  | zero => omega
  | succ fuel ih =>
    cases hany : fi.hasAny with
    | false =>
      have hpass : lengthPass fragmentRing (fi, length) = .ok (.leave length) := by
        simp [lengthPass, hany]
      rw [loop_leave hpass, fragmentsAhead_nil hany]
      rfl
    | true =>
      rw [fragmentsAhead_cons hany, List.flatMap_cons, List.length_append,
        NetFragment.data_length] at hsum ⊢
      have hpass : lengthPass fragmentRing (fi, length) = .ok (.again (fi.advance,
          length + (fragmentRing.elements fi.index).validLength.toNat)) := by
        simp only [lengthPass, hany, if_true]
        rw [Nat.mod_eq_of_lt (by omega)]
      rw [NcmOsRingIterator.getCount_advance hany] at hfuel
      rw [loop_again hpass, ih (by omega) (by omega), Nat.add_assoc]

/-- The loop is the recursion over the fragments. -/
theorem copyPass_loop {fuel : Nat} {s : CopyState f} (hfuel : s.fi.getCount < fuel)
    (hsum : s.bytesCopied +
      ((fragmentsAhead fragmentRing s.fi).flatMap NetFragment.data).length < 2 ^ 64) :
    loop (copyPass fragmentRing) fuel s =
      .ok (copyFragments (fragmentsAhead fragmentRing s.fi) s.memory s.bufferDest s.bufferLength
        s.bytesCopied) := by
  induction fuel generalizing s with
  | zero => omega
  | succ fuel ih =>
    cases hany : s.fi.hasAny with
    | false =>
      have hpass : copyPass fragmentRing s = .ok (.leave (s.memory, s.bytesCopied)) := by
        simp [copyPass, hany]
      rw [loop_leave hpass, fragmentsAhead_nil hany, copyFragments]
    | true =>
      rw [fragmentsAhead_cons hany] at hsum ⊢
      rw [copyFragments]
      by_cases hroom : s.bufferLength > 0
      · have hlen := NetFragment.data_length (fragmentRing.elements s.fi.index)
        rw [List.flatMap_cons, List.length_append, hlen] at hsum
        rw [NcmOsRingIterator.getCount_advance hany] at hfuel
        have hpass : copyPass fragmentRing s = .ok (.again _) := if_pos ⟨hany, hroom⟩
        rw [if_pos hroom, loop_again hpass]
        clear hpass
        generalize hcopy : (if s.bufferLength < (fragmentRing.elements s.fi.index).validLength.toNat
          then s.bufferLength else (fragmentRing.elements s.fi.index).validLength.toNat) = bytesToCopy
        have hle : bytesToCopy ≤ (fragmentRing.elements s.fi.index).validLength.toNat := by
          rw [← hcopy]
          split <;> omega
        have hcopied : (s.bytesCopied + bytesToCopy) % 2 ^ 64 = s.bytesCopied + bytesToCopy :=
          Nat.mod_eq_of_lt (by omega)
        rw [hcopied, ih (by dsimp only; omega) (by dsimp only; omega)]
      · have hpass : copyPass fragmentRing s = .ok (.leave (s.memory, s.bytesCopied)) := by
          simp [copyPass, hroom]
        rw [loop_leave hpass, if_neg hroom]

/-! ## A whole packet -/

/-- The bytes of the fragments of a packet, in order. -/
def NcmPacketIterator.concatenation (pi : NcmPacketIterator p f) : List UInt8 :=
  (List.range pi.getPacket.fragmentCount.toNat).flatMap fun i =>
    (pi.osQueue.fragmentRing.elements (slot pi.getPacket.fragmentIndex i)).data

section Packet

variable {pi : NcmPacketIterator p f}

/-- With fewer fragments than there are slots, the iterator stops behind the last one. -/
theorem packetData_eq (h : pi.getPacket.fragmentCount.toNat < 2 ^ f) :
    packetData pi = pi.concatenation := by
  have hlast : pi.getFragmentIterator.last =
      slot pi.getPacket.fragmentIndex pi.getPacket.fragmentCount.toNat := rfl
  have hindex : pi.getFragmentIterator.index = pi.getPacket.fragmentIndex := rfl
  unfold packetData NcmPacketIterator.fragments NcmPacketIterator.concatenation
  dsimp only
  rw [hlast, hindex, range, count_slot _ h, indicesFrom_eq, List.flatMap_map, List.flatMap_map]

theorem getFragmentIterator_getCount_lt : pi.getFragmentIterator.getCount < 2 ^ f := count_lt _ _

theorem ncmGetPacketDataLengthLoop_eq {fuel : Nat} (h : 2 ^ f ≤ fuel) :
    ncmGetPacketDataLengthLoop fuel pi = .ok (ncmGetPacketDataLength pi) := by
  have hlt := ncmGetPacketDataLength_lt pi
  have hcount := @getFragmentIterator_getCount_lt _ _ pi
  rw [ncmGetPacketDataLength_eq] at hlt ⊢
  unfold packetData at hlt ⊢
  rw [fragments_eq] at hlt ⊢
  rw [ncmGetPacketDataLengthLoop, lengthPass_loop (by omega) (by omega), Nat.zero_add]

theorem ncmCopyPacketDataToBufferLoop_eq {fuel : Nat} (h : 2 ^ f ≤ fuel) (m : Memory)
    (bufferDest bufferLength : Nat) :
    ncmCopyPacketDataToBufferLoop fuel m bufferDest pi bufferLength =
      .ok (ncmCopyPacketDataToBuffer m bufferDest pi bufferLength) := by
  have hlt := ncmGetPacketDataLength_lt pi
  have hcount := @getFragmentIterator_getCount_lt _ _ pi
  rw [ncmGetPacketDataLength_eq] at hlt
  unfold packetData at hlt
  rw [fragments_eq] at hlt
  rw [ncmCopyPacketDataToBufferLoop, ncmCopyPacketDataToBuffer, fragments_eq]
  exact copyPass_loop (Nat.lt_of_lt_of_le hcount h) (by dsimp only; omega)

theorem ncmCopyPacketDataToBuffer_take (m : Memory) {bufferDest : Nat} (hdest : bufferDest < 2 ^ 64)
    (bufferLength : Nat) :
    ncmCopyPacketDataToBuffer m bufferDest pi bufferLength =
      (write m bufferDest ((packetData pi).take bufferLength),
        min bufferLength (packetData pi).length) := by
  have hlt := ncmGetPacketDataLength_lt pi
  rw [ncmGetPacketDataLength_eq] at hlt
  unfold packetData at hlt ⊢
  rw [ncmCopyPacketDataToBuffer, copyFragments_eq _ _ _ _ _ hdest (by omega), Nat.zero_add]

end Packet

/-- The copy writes the first bytes of the packet, as many as the length and the buffer allow, and
returns their number. With a buffer of that length it writes the whole packet. -/
theorem copy_agrees_with_length (pi : NcmPacketIterator p f)
    (hcount : pi.getPacket.fragmentCount.toNat < 2 ^ f) {fuel : Nat} (hfuel : 2 ^ f ≤ fuel) :
    ∃ length, ncmGetPacketDataLengthLoop fuel pi = .ok length ∧ length = pi.concatenation.length ∧
      ∀ (m : Memory) (bufferDest : Nat), bufferDest < 2 ^ 64 →
        (∀ bufferLength, ∃ m', ncmCopyPacketDataToBufferLoop fuel m bufferDest pi bufferLength =
            .ok (m', min bufferLength length) ∧
          Written m m' bufferDest (pi.concatenation.take (min bufferLength length))) ∧
        ∃ m', ncmCopyPacketDataToBufferLoop fuel m bufferDest pi length = .ok (m', length) ∧
          Written m m' bufferDest pi.concatenation := by
  have hlt := ncmGetPacketDataLength_lt pi
  have hlength := ncmGetPacketDataLength_eq pi
  rw [packetData_eq hcount] at hlength
  refine ⟨_, ncmGetPacketDataLengthLoop_eq hfuel, hlength, fun m bufferDest hdest => ?_⟩
  have hcopy : ∀ bufferLength, ∃ m', ncmCopyPacketDataToBufferLoop fuel m bufferDest pi bufferLength =
        .ok (m', min bufferLength (ncmGetPacketDataLength pi)) ∧
      Written m m' bufferDest
        (pi.concatenation.take (min bufferLength (ncmGetPacketDataLength pi))) := by
    intro bufferLength
    rw [ncmCopyPacketDataToBufferLoop_eq hfuel, ncmCopyPacketDataToBuffer_take m hdest,
      packetData_eq hcount, ← hlength, List.take_eq_take_min, ← hlength]
    refine ⟨_, rfl, written_write m bufferDest ?_⟩
    rw [List.length_take]
    omega
  refine ⟨hcopy, ?_⟩
  have hwhole := hcopy (ncmGetPacketDataLength pi)
  rwa [Nat.min_self, hlength, List.take_length, ← hlength] at hwhole

/-- A packet whose fragments go round the end of their ring, with an empty one in the middle. -/
def wrappedPacket : NcmPacketIterator 1 2 :=
  ncmGetAllPackets
    { packetRing :=
        { beginIndex := 0
          endIndex := 1
          elements := fun _ => { fragmentIndex := 3, fragmentCount := 3, ignore := false } }
      fragmentRing :=
        { beginIndex := 3
          endIndex := 2
          elements := fun i =>
            { capacity := 16
              validLength := if i = 0 then 0 else 2
              offset := 4
              virtualAddress := fun a => UInt8.ofNat (16 * i.toNat + a) } } }

theorem copy_agrees_with_length_wrapped :
    ncmGetPacketDataLengthLoop 4 wrappedPacket = .ok 4 ∧
      ∃ m', ncmCopyPacketDataToBufferLoop 4 (ofBytes []) 8 wrappedPacket 3 = .ok (m', 3) ∧
        Written (ofBytes []) m' 8 [0x34, 0x35, 0x14] := by
  obtain ⟨length, hlength, heq, hcopy⟩ :=
    copy_agrees_with_length wrappedPacket (by decide) (Nat.le_refl (2 ^ 2))
  have hfour : wrappedPacket.concatenation = [0x34, 0x35, 0x14, 0x15] := by decide
  rw [hfour] at heq
  subst heq
  obtain ⟨m', hm', hwritten⟩ := (hcopy (ofBytes []) 8 (by decide)).1 3
  rw [hfour] at hwritten
  exact ⟨hlength, m', hm', hwritten⟩

end UsbNcm.Ring
