import UsbNcm.Ntb.Construct
import UsbNcm.Ntb.Grammar

/-!
# Where the builder puts the packets

The table and the data after any sequence of offers, and the entries as a reader finds them.
-/

open Exec ByteMemory AlignUp UsbNcm.Ring

namespace UsbNcm.Ntb

/-- An entry as it is stored, each word cut to the width of the format. -/
def DatagramPointer.cut (fmt : NtbFormat) (d : DatagramPointer) : DatagramPointer :=
  ⟨d.datagramIndex % 256 ^ fmt.ptrSize, d.datagramLength % 256 ^ fmt.ptrSize⟩

theorem DatagramPointer.cut_cut (fmt : NtbFormat) (d : DatagramPointer) :
    cut fmt (cut fmt d) = cut fmt d := by
  unfold cut
  simp

namespace NcmTransferBlock

variable {p f : Nat} {tb : NcmTransferBlock} {pi : NcmPacketIterator p f}
  {acc : List (NcmTransferBlock × NcmPacketIterator p f)}

/-! ## The recorded entries -/

def record (x : NcmTransferBlock × NcmPacketIterator p f) : DatagramPointer :=
  ⟨x.1.datagramOffset, ncmGetPacketDataLength x.2⟩

/-- The table has an entry for each accepted packet, and null entries behind them. -/
structure Recorded (tb : NcmTransferBlock)
    (acc : List (NcmTransferBlock × NcmPacketIterator p f)) : Prop where
  count : tb.currentNdpDatagramCount = acc.length
  count_le : acc.length ≤ tb.ntbMaxDatagrams.toNat
  table : tb.datagramPointerTable = acc.map (fun x => (record x).cut tb.format) ++
    List.replicate (tb.ntbMaxDatagrams.toNat + 1 - acc.length) ⟨0, 0⟩

theorem started_recorded (tb : NcmTransferBlock) (buffer : Memory) (bufferLength : Nat) :
    (tb.started buffer bufferLength).Recorded
      ([] : List (NcmTransferBlock × NcmPacketIterator p f)) :=
  ⟨rfl, Nat.zero_le _, by simp [started, prepareToConstruct, clearBlock]⟩

theorem set_replicate (ds : List DatagramPointer) (n : Nat) (d z : DatagramPointer) :
    (ds ++ List.replicate (n + 1) z).set ds.length d = (ds ++ [d]) ++ List.replicate n z := by
  rw [List.set_append_right _ _ (Nat.le_refl _), Nat.sub_self, List.replicate_succ,
    List.set_cons_zero, List.append_assoc, List.singleton_append]

theorem Recorded.accept (h : tb.Recorded acc) (ha : tb.Accepts pi) :
    (tb.accept pi).Recorded (acc ++ [(tb, pi)]) := by
  have hcount := h.count
  have hmax := ha.1
  have hlength : (acc ++ [(tb, pi)]).length = acc.length + 1 := by simp
  refine ⟨?_, ?_, ?_⟩
  · rw [hlength, ← hcount]
    rfl
  · rw [hlength]
    change _ ≤ tb.ntbMaxDatagrams.toNat
    omega
  · have hroom : tb.ntbMaxDatagrams.toNat + 1 - acc.length =
        tb.ntbMaxDatagrams.toNat + 1 - (acc ++ [(tb, pi)]).length + 1 := by omega
    have hset := set_replicate (acc.map fun x => (record x).cut tb.format)
      (tb.ntbMaxDatagrams.toNat + 1 - (acc ++ [(tb, pi)]).length)
      ((record (tb, pi)).cut tb.format) ⟨0, 0⟩
    rw [List.length_map] at hset
    simp only [NcmTransferBlock.accept, h.table, hcount, hroom]
    rw [List.map_append]
    exact hset

/-- The accepted packets lie one behind the other, and the table has their places. -/
structure Laid (tb : NcmTransferBlock)
    (acc : List (NcmTransferBlock × NcmPacketIterator p f)) : Prop where
  count : tb.currentNdpDatagramCount = acc.length
  table : tb.datagramPointerTable = acc.map (fun x => (record x).cut tb.format) ++
    List.replicate (tb.ntbMaxDatagrams.toNat + 1 - acc.length) ⟨0, 0⟩
  inside : ∀ x ∈ acc, tb.format.sizeofNth ≤ x.1.datagramOffset ∧
    x.1.datagramOffset + (packetData x.2).length ≤ tb.currentBufferOffset
  increasing : acc.Pairwise fun x y =>
    x.1.datagramOffset + (packetData x.2).length ≤ y.1.datagramOffset
  held : ∀ x ∈ acc, Holds tb.buffer x.1.datagramOffset (packetData x.2)

theorem started_laid (tb : NcmTransferBlock) (buffer : Memory) (bufferLength : Nat) :
    (tb.started buffer bufferLength).Laid ([] : List (NcmTransferBlock × NcmPacketIterator p f)) :=
  ⟨rfl, by simp [started, prepareToConstruct, clearBlock], by simp, List.Pairwise.nil, by simp⟩

theorem Laid.recorded (h : tb.Laid acc) (hb : tb.Bounded) : tb.Recorded acc :=
  ⟨h.count, h.count ▸ hb.count_le, h.table⟩

theorem Laid.accept (h : tb.Laid acc) (hb : tb.Bounded) (ha : tb.Accepts pi) :
    (tb.accept pi).Laid (acc ++ [(tb, pi)]) := by
  have hlt := hb.offset_lt
  have hd := hb.datagramOffset_bounds
  have hge := hb.offset_ge
  have hlen := ncmGetPacketDataLength_lt pi
  have hdata := ncmGetPacketDataLength_eq pi
  have hoffset := hb.accept_offset pi
  have hrecorded := (h.recorded hb).accept ha
  refine ⟨hrecorded.count, hrecorded.table, ?_, ?_, ?_⟩
  · intro x hx
    rw [hoffset]
    rcases List.mem_append.mp hx with hx | hx
    · obtain ⟨h1, h2⟩ := h.inside x hx
      exact ⟨h1, by omega⟩
    · rw [List.mem_singleton.mp hx]
      exact ⟨Nat.le_trans hge hd.1, by dsimp only; omega⟩
  · rw [List.pairwise_append]
    refine ⟨h.increasing, List.pairwise_singleton _ _, ?_⟩
    intro x hx y hy
    rw [List.mem_singleton.mp hy]
    exact Nat.le_trans (h.inside x hx).2 hd.1
  · intro x hx
    rcases List.mem_append.mp hx with hx | hx
    · obtain ⟨h1, h2⟩ := h.inside x hx
      apply holds_write_outside (h.held x hx) <;> omega
    · rw [List.mem_singleton.mp hx]
      apply holds_write
      omega

theorem offers_laid (tb : NcmTransferBlock) (halign : tb.ndpAlignment ≠ 0)
    (hdiv : tb.ndpDivisor ≠ 0) (buffer : Memory) (bufferLength : Nat)
    (pis : List (NcmPacketIterator p f)) :
    ((tb.started buffer bufferLength).offers pis).Bounded ∧
      ((tb.started buffer bufferLength).offers pis).Laid
        ((tb.started buffer bufferLength).trace pis) := by
  refine offers_rule (fun tb acc => tb.Bounded ∧ tb.Laid acc) ?_ []
    ⟨started_bounded buffer bufferLength halign hdiv, started_laid tb buffer bufferLength⟩ pis
  rintro tb acc pi ⟨hb, hl⟩ ha
  exact ⟨hb.accept ha, hl.accept hb ha⟩

/-! ## The table as it is read -/

theorem Recorded.tableBytes_eq (h : tb.Recorded acc) :
    tb.tableBytes = (acc.map (fun x => (record x).cut tb.format) ++
      [(⟨0, 0⟩ : DatagramPointer)]).flatMap (entryBytes tb.format) := by
  have hmax := h.count_le
  obtain ⟨n, hn⟩ : ∃ n, tb.ntbMaxDatagrams.toNat + 1 - acc.length = n + 1 :=
    ⟨tb.ntbMaxDatagrams.toNat - acc.length, by omega⟩
  unfold tableBytes
  rw [h.table, hn, h.count, List.take_append, List.length_map, List.replicate_succ,
    List.take_of_length_le (by simp)]
  simp

theorem entryAt_of_holds {fmt : NtbFormat} {m : Memory} {a i : Nat} {ds : List DatagramPointer}
    (h : Holds m a (ds.flatMap (entryBytes fmt))) (hi : i < ds.length) :
    EntryAt fmt m (a + i * fmt.sizeofDpe) (ds[i].cut fmt) := by
  induction ds generalizing a i with
  | nil => simp at hi
  | cons d ds ih =>
    have hlen : (entryBytes fmt d).length = fmt.sizeofDpe := by
      simpa using flatMap_entryBytes_length fmt [d]
    obtain ⟨hfirst, hrest⟩ := holds_append.mp (List.flatMap_cons ▸ h)
    rw [hlen] at hrest
    cases i with
    | zero =>
      obtain ⟨hindex, hlength⟩ := holds_append.mp hfirst
      rw [leBytes_length] at hlength
      simp only [Nat.zero_mul, Nat.add_zero, List.getElem_cons_zero]
      exact ⟨readLe_of_holds hindex, readLe_of_holds hlength⟩
    | succ i =>
      rw [List.getElem_cons_succ, show a + (i + 1) * fmt.sizeofDpe =
        a + fmt.sizeofDpe + i * fmt.sizeofDpe by rw [Nat.succ_mul]; omega]
      exact ih hrest (by simpa using hi)

theorem Laid.entryAt (h : tb.Laid acc) (hb : tb.Bounded) {i : Nat} (hi : i < acc.length) :
    EntryAt tb.format tb.written (tb.ndpOffset + tb.format.sizeofNdp + i * tb.format.sizeofDpe)
      ((record acc[i]).cut tb.format) := by
  have hheld : Holds tb.written (tb.ndpOffset + tb.format.sizeofNdp) tb.tableBytes := by
    apply holds_written hb.ndpPlaced
    simp [ndpWrites]
  rw [(h.recorded hb).tableBytes_eq] at hheld
  have hentry := entryAt_of_holds (i := i) hheld (by simp; omega)
  rw [List.getElem_append_left (by simpa using hi), List.getElem_map,
    DatagramPointer.cut_cut] at hentry
  exact hentry

/-- An offset or a length that lies before the NDP is not cut when the NDP index is not. -/
theorem Laid.record_cut (h : tb.Laid acc) (hb : tb.Bounded)
    (hndp : tb.ndpOffset < 256 ^ tb.format.ptrSize) {x : NcmTransferBlock × NcmPacketIterator p f}
    (hx : x ∈ acc) : (record x).cut tb.format = record x := by
  have hinside := (h.inside x hx).2
  have hdata := ncmGetPacketDataLength_eq x.2
  have hle := hb.ndpOffset_bounds.1
  unfold record DatagramPointer.cut
  rw [Nat.mod_eq_of_lt (by dsimp only; omega), Nat.mod_eq_of_lt (by dsimp only; omega)]

theorem Laid.nullAt (h : tb.Laid acc) (hb : tb.Bounded) :
    NullAt tb.format tb.written
      (tb.ndpOffset + tb.format.sizeofNdp + acc.length * tb.format.sizeofDpe) := by
  have hheld : Holds tb.written (tb.ndpOffset + tb.format.sizeofNdp) tb.tableBytes := by
    apply holds_written hb.ndpPlaced
    simp [ndpWrites]
  rw [(h.recorded hb).tableBytes_eq] at hheld
  have hentry := entryAt_of_holds (i := acc.length) hheld (by simp)
  rw [List.getElem_append_right (by simp)] at hentry
  refine ⟨0, ?_, Or.inl rfl⟩
  simpa [DatagramPointer.cut] using hentry.1

end NcmTransferBlock

end UsbNcm.Ntb
