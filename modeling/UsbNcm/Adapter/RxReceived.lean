import UsbNcm.Adapter.RxDelivery
import UsbNcm.Ntb.Carries

/-!
# What the framework gets of received NTBs

The buffers are said by what their transfers carry: the packets that come out are the data that the
adapter wants, each once and in order, and all of them once `Advance` has found room to spare.
-/

open Exec ByteMemory UsbNcm.Ring UsbNcm.Ntb UsbNcm.Ntb.NcmTransferBlock

namespace UsbNcm.Adapter

/-! ## The checks on the data of a frame -/

namespace NcmAdapter

/-- `wanted`, said of the bytes of the frame alone. -/
def wantsData (ncmAdapter : NcmAdapter) (data : List UInt8) : Bool :=
  ncmAdapter.wanted (ofBytes data) ⟨0, data.length⟩

theorem readBytes_shift {m m' : Memory} {a b n : Nat} (h : ∀ i < n, m (a + i) = m' (b + i)) :
    readBytes m a n = readBytes m' b n := by
  induction n generalizing a b with
  | zero => rfl
  | succ n ih =>
    have hfirst : m a = m' b := h 0 (Nat.succ_pos n)
    have hrest : readBytes m (a + 1) n = readBytes m' (b + 1) n := by
      apply ih
      intro i hi
      rw [Nat.add_right_comm a 1 i, Nat.add_right_comm b 1 i]
      exact h (i + 1) (Nat.succ_lt_succ hi)
    unfold readBytes readByte
    rw [hfirst, hrest]

theorem matchPacketFilter_shift (ncmAdapter : NcmAdapter) {m m' : Memory} {a b : Nat}
    (h : ∀ i < 6, m (a + i) = m' (b + i)) :
    ncmAdapter.matchPacketFilter m a = ncmAdapter.matchPacketFilter m' b := by
  have hfirst : readByte m a = readByte m' b := by
    unfold readByte
    rw [show m a = m' b from h 0 (by decide)]
  unfold matchPacketFilter
  rw [hfirst, readBytes_shift h]

theorem wanted_eq_wantsData (ncmAdapter : NcmAdapter) {bytes : List UInt8} {d : DatagramPointer}
    (hin : d.datagramIndex + d.datagramLength ≤ bytes.length) :
    ncmAdapter.wanted (ofBytes bytes) d = ncmAdapter.wantsData (d.dataIn bytes) := by
  have hlen := dataIn_length hin
  unfold wantsData wanted wantsFrame
  rw [hlen]
  by_cases hsize : d.datagramLength < sizeofEthernetHeader ∨
      d.datagramLength > ncmAdapter.parameters.maxDatagramSize.toNat
  · rw [if_pos hsize, if_pos hsize]
  · have hfilter : ncmAdapter.matchPacketFilter (ofBytes bytes) d.datagramIndex =
        ncmAdapter.matchPacketFilter (ofBytes (d.dataIn bytes)) 0 := by
      apply matchPacketFilter_shift
      intro i hi
      unfold sizeofEthernetHeader at hsize
      unfold ofBytes DatagramPointer.dataIn
      rw [List.getElem?_take_of_lt (by omega), List.getElem?_drop, Nat.zero_add]
    rw [if_neg hsize, if_neg hsize, hfilter]

end NcmAdapter

namespace NcmRxQueue

variable {p f : Nat} {ncmAdapter : NcmAdapter} {b : RxBuffer} {ds : List DatagramPointer}
  {framesOf : RxBuffer → List (List UInt8)}

theorem framesIn_eq (hin : ∀ d ∈ ds, d.datagramIndex + d.datagramLength ≤ b.bytes.length) :
    framesIn ncmAdapter (b, ds) = (ds.map (·.dataIn b.bytes)).filter ncmAdapter.wantsData := by
  have hwanted : ds.filter (ncmAdapter.wanted (ofBytes b.bytes)) =
      ds.filter (ncmAdapter.wantsData ∘ (·.dataIn b.bytes)) :=
    List.filter_congr fun d hd => ncmAdapter.wanted_eq_wantsData (hin d hd)
  unfold framesIn
  rw [List.filter_map, hwanted]
  rfl

/-! ## The queue of frames is emptied -/

theorem frameQueue_append (framesOf : RxBuffer → List (List UInt8)) (waiting : List (List UInt8))
    (events : List (RxEvent p f)) (osQueue : NcmOsQueue p f) :
    ∃ taken left, frameQueue framesOf waiting (events ++ [.advance osQueue]) =
        taken ++ [left.take (freeFragments osQueue)] ∧
      taken.flatten ++ left = waiting ++ (arrivals events).flatMap framesOf := by
  induction events generalizing waiting with
  | nil => exact ⟨[], waiting, rfl, (List.append_nil _).symm⟩
  | cons event events ih =>
    cases event with
    | arrival b =>
      obtain ⟨taken, left, hqueue, hall⟩ := ih (waiting ++ framesOf b)
      refine ⟨taken, left, hqueue, ?_⟩
      rw [hall, List.append_assoc]
      rfl
    | advance osQueue' =>
      obtain ⟨taken, left, hqueue, hall⟩ := ih (waiting.drop (freeFragments osQueue'))
      refine ⟨waiting.take (freeFragments osQueue') :: taken, left, ?_, ?_⟩
      · rw [List.cons_append, List.cons_append, frameQueue, hqueue]
      · rw [List.flatten_cons, List.append_assoc, hall, ← List.append_assoc, List.take_append_drop]
        rfl

/-- Behind a call that leaves a fragment free there is nothing left. -/
theorem frameQueue_drained (events : List (RxEvent p f)) (osQueue : NcmOsQueue p f)
    (hroom : ∀ out ∈ (frameQueue framesOf [] (events ++ [.advance osQueue])).getLast?,
      out.length < freeFragments osQueue) :
    (frameQueue framesOf [] (events ++ [.advance osQueue])).flatten =
      (arrivals events).flatMap framesOf := by
  obtain ⟨taken, left, hqueue, hall⟩ := frameQueue_append framesOf [] events osQueue
  rw [hqueue] at hroom ⊢
  have hlast := hroom (left.take (freeFragments osQueue)) (by simp)
  rw [List.length_take] at hlast
  rw [List.nil_append] at hall
  rw [List.flatten_append, List.flatten_singleton, List.take_of_length_le (by omega), hall]

/-! ## All calls -/

/-- The buffer begins with a transfer that carries these data. -/
def Begins (fmt : NtbFormat) (b : RxBuffer) (datas : List (List UInt8)) : Prop :=
  ∃ transferred, transferred <+: b.bytes ∧ Carries fmt transferred datas

/-- What has become of the data of the arrivals. -/
structure Received (ncmAdapter : NcmAdapter) (contents : List (List (List UInt8)))
    (events : List (RxEvent p f)) (rings : List (NcmOsQueue p f × NcmOsQueue p f)) : Prop where
  -- the packets so far are the first ones of the wanted data, one for each fragment consumed
  written_prefix : rings.flatMap (fun r => written r.1 r.2) <+:
    contents.flatten.filter ncmAdapter.wantsData
  consumed_eq : ∀ r ∈ rings, consumed r.1 r.2 = (written r.1 r.2).length
  -- all of them have come out when the last call has left a fragment free
  drained : ∀ earlier osQueue, events = earlier ++ [.advance osQueue] →
    (∀ r ∈ rings.getLast?, consumed r.1 r.2 < freeFragments osQueue) →
      rings.flatMap (fun r => written r.1 r.2) = contents.flatten.filter ncmAdapter.wantsData

/-- The datagrams of the buffers, as a function of the buffer. -/
theorem Begins.datagrams {fmt : NtbFormat} {buffers : List RxBuffer}
    {contents : List (List (List UInt8))} (h : List.Forall₂ (Begins fmt) buffers contents) :
    ∃ datagrams : RxBuffer → List DatagramPointer,
      (∀ b ∈ buffers, Contents fmt b.bytes (datagrams b)) ∧
        ∀ ncmAdapter : NcmAdapter, buffers.flatMap (fun b => framesIn ncmAdapter (b, datagrams b)) =
          contents.flatten.filter ncmAdapter.wantsData := by
  have hwalk : ∀ b datas, Begins fmt b datas → ∃ ds, Walk fmt b.bytes ds := by
    rintro b datas ⟨transferred, hstarts, hcarries⟩
    obtain ⟨ds, hds, -⟩ := hcarries.extends hstarts
    exact ⟨ds, hds⟩
  have hall : ∀ b ∈ buffers, ∃ ds, Walk fmt b.bytes ds := by
    intro b hb
    obtain ⟨i, hi, rfl⟩ := List.getElem_of_mem hb
    exact hwalk _ _ (h.get (by simpa using hi) (by rw [← h.length_eq]; simpa using hi))
  choose! datagrams hdatagrams using hall
  refine ⟨datagrams, fun b hb => Or.inr (hdatagrams b hb), fun ncmAdapter => ?_⟩
  clear hwalk
  induction h with
  | nil => rfl
  | @cons b datas buffers contents hbegins _ ih =>
    obtain ⟨hfirst, hrest⟩ := List.forall_mem_cons.mp hdatagrams
    obtain ⟨transferred, hstarts, hcarries⟩ := hbegins
    rw [List.flatMap_cons, ih hrest, List.flatten_cons, List.filter_append,
      framesIn_eq fun d hd => hfirst.inBuffer hd, hcarries.data_of_walk hstarts b.bytes_lt hfirst]

/-- However the arrivals and the calls of `Advance` are interleaved. -/
theorem run_received (ncmAdapter : NcmAdapter) (ntb : NcmTransferBlock) (events : List (RxEvent p f))
    {contents : List (List (List UInt8))}
    (harrivals : List.Forall₂ (Begins ntb.format) (arrivals events) contents)
    (hrings : ∀ osQueue, .advance osQueue ∈ events → Suits ncmAdapter osQueue) :
    ∃ enough q rings, Received ncmAdapter contents events rings ∧
      ∀ fuel, enough ≤ fuel →
        run fuel (waitingQueue ncmAdapter ntb []) events = .ok (q, rings) := by
  obtain ⟨datagrams, hcontents, hframes⟩ := Begins.datagrams harrivals
  have hleft : Left (waitingQueue ncmAdapter ntb []) [] := .waiting rfl ⟨rfl, by simp⟩
  have hmem : ∀ b, RxEvent.arrival b ∈ events → b ∈ arrivals events := by
    intro b hb
    exact List.mem_filterMap.mpr ⟨.arrival b, hb, rfl⟩
  obtain ⟨enough, q, rings, ys, actions, hran, hrun⟩ :=
    hleft.run events datagrams (by simp [InBuffers]) (fun b hb => hcontents b (hmem b hb)) hrings
  have hall : (arrived datagrams events).flatMap (framesIn ncmAdapter) =
      contents.flatten.filter ncmAdapter.wantsData := by
    rw [← hframes ncmAdapter, arrived, List.flatMap_map]
  refine ⟨enough, q, rings, ⟨?_, hran.consumed_eq, ?_⟩, hrun⟩
  · have htodo := congrArg copiedFrames hran.todo
    rw [copiedFrames_append, copiedFrames_todo, hran.copied] at htodo
    rw [← hall]
    exact ⟨_, htodo.symm⟩
  · rintro earlier osQueue rfl hroom
    have hpackets : rings.map (fun r => written r.1 r.2) = frameQueue
        (fun b => framesIn ncmAdapter (b, datagrams b)) [] (earlier ++ [.advance osQueue]) :=
      hran.packets
    have harrived : arrivals (earlier ++ [RxEvent.advance osQueue]) = arrivals earlier := by
      simp [arrivals]
    rw [← hframes, harrived, ← frameQueue_drained earlier osQueue, ← hpackets, List.flatMap_def]
    intro out hout
    rw [← hpackets, List.getLast?_map] at hout
    obtain ⟨r, hr, rfl⟩ := Option.map_eq_some_iff.mp hout
    rw [← hran.consumed_eq r (List.mem_of_getLast? hr)]
    exact hroom r hr

end NcmRxQueue

end UsbNcm.Adapter
