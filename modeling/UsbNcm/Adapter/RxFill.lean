import UsbNcm.Adapter.RxQueue

/-!
# The rings after `Advance`

The loop of `Advance` fills one packet and one fragment at a time, and `Set` moves the two begin
indices at the end. What the framework then finds between the old and the new indices.
-/

open Exec ByteMemory RingIndex UsbNcm.Ring UsbNcm.Ntb

namespace UsbNcm.Adapter.NcmRxQueue

variable {p f : Nat} {pi : NcmPacketIterator p f} {fi : NcmOsRingIterator f}
  {data : List UInt8} {datas : List (List UInt8)}

/-- The packets that an `Advance` gave to the framework, as their bytes. -/
def written (before after : NcmOsQueue p f) : List (List UInt8) :=
  (range before.packetRing.beginIndex after.packetRing.beginIndex).map fun i =>
    packetData { index := i, last := after.packetRing.endIndex, osQueue := after }

def consumed (before after : NcmOsQueue p f) : Nat :=
  count before.fragmentRing.beginIndex after.fragmentRing.beginIndex

def fill (pi : NcmPacketIterator p f) (fi : NcmOsRingIterator f) :
    List (List UInt8) → NcmPacketIterator p f
  | [] => pi
  | data :: datas => fill (putFrame pi fi data).advance fi.advance datas

theorem fillFragment_data (fragment : NetFragment) (h : data.length < 2 ^ 26) :
    (fillFragment fragment data).data = data := by
  unfold fillFragment NetFragment.data
  dsimp only
  rw [BitVec.toNat_ofNat, Nat.mod_eq_of_lt h]
  apply List.ext_getElem
  · simp
  · intro i hi hi'
    simp [hi']

/-! ## Each slot -/

structure FilledAt (osQueue : NcmOsQueue p f) (i : BitVec p) (j : BitVec f) (k : Nat)
    (data : List UInt8) : Prop where
  fragmentIndex : (osQueue.packetRing.elements (slot i k)).fragmentIndex = slot j k
  fragmentCount : (osQueue.packetRing.elements (slot i k)).fragmentCount = 1
  data : (osQueue.fragmentRing.elements (slot j k)).data = data

/-- What `fill` leaves of the rings: the slots that it does not reach, and the indices. -/
structure FillFrame (pi pi' : NcmPacketIterator p f) (fi : NcmOsRingIterator f) (n : Nat) :
    Prop where
  index : pi'.index = slot pi.index n
  packetBegin : pi'.osQueue.packetRing.beginIndex = pi.osQueue.packetRing.beginIndex
  fragmentBegin : pi'.osQueue.fragmentRing.beginIndex = pi.osQueue.fragmentRing.beginIndex
  packets : ∀ i, (∀ k < n, i ≠ slot pi.index k) →
    pi'.osQueue.packetRing.elements i = pi.osQueue.packetRing.elements i
  fragments : ∀ j, (∀ k < n, j ≠ slot fi.index k) →
    pi'.osQueue.fragmentRing.elements j = pi.osQueue.fragmentRing.elements j

theorem fill_frame (pi : NcmPacketIterator p f) (fi : NcmOsRingIterator f)
    (datas : List (List UInt8)) : FillFrame pi (fill pi fi datas) fi datas.length := by
  induction datas generalizing pi fi with
  | nil => exact ⟨(slot_zero _).symm, rfl, rfl, fun _ _ => rfl, fun _ _ => rfl⟩
  | cons data datas ih =>
    have h := ih (putFrame pi fi data).advance fi.advance
    have hpi : ∀ k, slot (putFrame pi fi data).advance.index k = slot pi.index (k + 1) :=
      slot_succ pi.index
    have hfi : ∀ k, slot fi.advance.index k = slot fi.index (k + 1) := slot_succ fi.index
    refine ⟨h.index.trans (hpi _), h.packetBegin, h.fragmentBegin, ?_, ?_⟩
    · intro i hi
      have hfirst := hi 0 (Nat.succ_pos _)
      rw [slot_zero] at hfirst
      refine (h.packets i fun k hk => ?_).trans (if_neg hfirst)
      rw [hpi]
      exact hi (k + 1) (Nat.succ_lt_succ hk)
    · intro j hj
      have hfirst := hj 0 (Nat.succ_pos _)
      rw [slot_zero] at hfirst
      refine (h.fragments j fun k hk => ?_).trans (if_neg hfirst)
      rw [hfi]
      exact hj (k + 1) (Nat.succ_lt_succ hk)

theorem fill_filledAt (pi : NcmPacketIterator p f) (fi : NcmOsRingIterator f)
    (hp : datas.length < 2 ^ p) (hf : datas.length < 2 ^ f)
    (hsize : ∀ data ∈ datas, data.length < 2 ^ 26) {k : Nat} (hk : k < datas.length) :
    FilledAt (fill pi fi datas).osQueue pi.index fi.index k datas[k] := by
  induction datas generalizing pi fi k with
  | nil => simp at hk
  | cons data datas ih =>
    rw [List.length_cons] at hp hf hk
    have hframe := fill_frame (putFrame pi fi data).advance fi.advance datas
    cases k with
    | zero =>
      -- the frames that follow go to other slots
      have hpacket : ((fill pi fi (data :: datas)).osQueue.packetRing.elements pi.index) =
          { pi.getPacket with fragmentIndex := fi.index, fragmentCount := 1 } := by
        refine (hframe.packets pi.index fun k hk => ?_).trans (if_pos rfl)
        rw [show slot (putFrame pi fi data).advance.index k = slot pi.index (k + 1) from
          slot_succ pi.index k]
        intro heq
        have := slot_inj (i := pi.index) (m := 0) (by omega) (by omega) ((slot_zero _).trans heq)
        omega
      have hfragment : ((fill pi fi (data :: datas)).osQueue.fragmentRing.elements fi.index) =
          fillFragment (pi.osQueue.fragmentRing.elements fi.index) data := by
        refine (hframe.fragments fi.index fun k hk => ?_).trans (if_pos rfl)
        rw [show slot fi.advance.index k = slot fi.index (k + 1) from slot_succ fi.index k]
        intro heq
        have := slot_inj (i := fi.index) (m := 0) (by omega) (by omega) ((slot_zero _).trans heq)
        omega
      refine ⟨?_, ?_, ?_⟩
      · rw [slot_zero, slot_zero, hpacket]
      · rw [slot_zero, hpacket]
      · rw [slot_zero, hfragment, fillFragment_data _ (hsize data List.mem_cons_self)]
        rfl
    | succ k =>
      have h := ih (putFrame pi fi data).advance fi.advance (by omega) (by omega)
        (fun d hd => hsize d (List.mem_cons_of_mem _ hd)) (k := k) (by omega)
      obtain ⟨hindex, hcount, hdata⟩ := h
      rw [show slot (putFrame pi fi data).advance.index k = slot pi.index (k + 1) from
        slot_succ pi.index k] at hindex hcount
      rw [show slot fi.advance.index k = slot fi.index (k + 1) from slot_succ fi.index k] at hindex hdata
      exact ⟨hindex, hcount, hdata⟩

theorem FilledAt.packetData {osQueue : NcmOsQueue p f} {i last : BitVec p} {j : BitVec f} {k : Nat}
    (h : FilledAt osQueue i j k data) (hf : 1 < 2 ^ f) :
    Ring.packetData { index := slot i k, last := last, osQueue := osQueue } = data := by
  have hrange : range (slot j k) (NetRing.advanceIndex (slot j k) 1) = [slot j k] := by
    rw [range, show NetRing.advanceIndex (slot j k) 1 = slot (slot j k) 1 from rfl, count_slot _ hf]
    rfl
  unfold Ring.packetData NcmPacketIterator.fragments NcmPacketIterator.getFragmentIterator
    NcmPacketIterator.getPacket
  dsimp only
  rw [h.fragmentIndex, h.fragmentCount, show (1 : UInt16).toNat = 1 from rfl, hrange]
  simp [h.data]

/-! ## `Set` -/

theorem FilledAt.set {i : BitVec p} {j : BitVec f} {k : Nat} (h : FilledAt pi.osQueue i j k data) :
    FilledAt pi.set.osQueue i j k data := by
  obtain ⟨hindex, hcount, hdata⟩ := h
  refine ⟨?_, ?_, ?_⟩
  · rwa [NcmPacketIterator.set_packets]
  · rwa [NcmPacketIterator.set_packets]
  · rwa [NcmPacketIterator.set_fragments]

/-- `Set` after a loop that put these frames into the rings. -/
def filled (osQueue : NcmOsQueue p f) (datas : List (List UInt8)) : NcmOsQueue p f :=
  (fill (ncmGetAllPackets osQueue) (ncmGetAllFragments osQueue) datas).set.osQueue

variable (osQueue : NcmOsQueue p f)

theorem written_filled (hp : datas.length < 2 ^ p) (hf : datas.length < 2 ^ f)
    (hsize : ∀ data ∈ datas, data.length < 2 ^ 26) : written osQueue (filled osQueue datas) = datas := by
  have hframe := fill_frame (ncmGetAllPackets osQueue) (ncmGetAllFragments osQueue) datas
  have hbegin : (filled osQueue datas).packetRing.beginIndex =
      slot osQueue.packetRing.beginIndex datas.length := hframe.index
  unfold written
  rw [hbegin, range, count_slot _ hp, indicesFrom_eq]
  apply List.ext_getElem
  · simp
  · intro k _ hk
    have hslot := fill_filledAt (ncmGetAllPackets osQueue) (ncmGetAllFragments osQueue) hp hf hsize hk
    simp only [List.getElem_map, List.getElem_range]
    exact hslot.set.packetData (by omega)

theorem consumed_filled (hp : datas.length < 2 ^ p) (hf : datas.length < 2 ^ f)
    (hsize : ∀ data ∈ datas, data.length < 2 ^ 26) :
    consumed osQueue (filled osQueue datas) = datas.length := by
  have hframe := fill_frame (ncmGetAllPackets osQueue) (ncmGetAllFragments osQueue) datas
  have hcount : NetRing.rangeCount
      (fill (ncmGetAllPackets osQueue) (ncmGetAllFragments osQueue) datas).osQueue.packetRing.beginIndex
      (fill (ncmGetAllPackets osQueue) (ncmGetAllFragments osQueue) datas).index = datas.length := by
    rw [hframe.index, hframe.packetBegin]
    exact count_slot _ hp
  unfold consumed filled NcmPacketIterator.set
  simp only [hcount]
  split
  next hpos =>
    have hslot := fill_filledAt (ncmGetAllPackets osQueue) (ncmGetAllFragments osQueue) hp hf hsize
      (k := datas.length - 1) (by omega)
    have hlast : NetRing.advanceIndex
        (fill (ncmGetAllPackets osQueue) (ncmGetAllFragments osQueue) datas).osQueue.packetRing.beginIndex
        (datas.length - 1) = slot (ncmGetAllPackets osQueue).index (datas.length - 1) := by
      rw [hframe.packetBegin]
      rfl
    -- the fragment of the last packet ends where the free fragments go on
    have hend : NetRing.advanceIndex (slot (ncmGetAllFragments osQueue).index (datas.length - 1))
        (1 : UInt16).toNat = slot osQueue.fragmentRing.beginIndex datas.length := by
      change slot osQueue.fragmentRing.beginIndex (datas.length - 1) + BitVec.ofNat f 1 = _
      rw [slot, BitVec.add_assoc, ← BitVec.ofNat_add, Nat.sub_add_cancel hpos, slot]
    simp only [hlast, hslot.fragmentIndex, hslot.fragmentCount, hend]
    exact count_slot _ hf
  next hpos =>
    rw [hframe.fragmentBegin]
    have hz : datas.length = 0 := by omega
    rw [hz]
    exact count_self _

end UsbNcm.Adapter.NcmRxQueue
