import UsbNcm.Adapter.RxTermination
import UsbNcm.Adapter.RxDelivery

/-!
# The frames that the receive queue delivers

One after the other, each with the buffer it is from. What a buffer at the end of the queue delivers
does not depend on the buffers before it.
-/

open Exec ByteMemory UsbNcm.Ring UsbNcm.Ntb UsbNcm.Ntb.NcmTransferBlock

namespace UsbNcm.Adapter

/-- A delivered frame: the handle of its buffer, its place in the buffer and its bytes. -/
@[ext]
structure Frame where
  handle : Nat
  pointer : DatagramPointer
  data : List UInt8

namespace NcmRxQueue

variable {q q' : NcmRxQueue} {b b' : RxBuffer} {d : DatagramPointer} {ds : List DatagramPointer}
  {xs : List (RxBuffer × List DatagramPointer)} {frame : Frame} {frames : List Frame}

/-- The next calls of `GetNextFrame` return these frames, whose bytes can be read. -/
inductive Delivers : NcmRxQueue → List Frame → Prop
  | nothing {q : NcmRxQueue} : Delivers q []
  | frame {q q' : NcmRxQueue} {b : RxBuffer} {d : DatagramPointer} {data : List UInt8} {n : Nat}
      {frames : List Frame} :
    getNextFrame n q = .ok (.success, d, q') → q'.rxBufferInProcessing = some b →
      readBytes q'.ntb.buffer d.datagramIndex d.datagramLength = .ok data → Delivers q' frames →
      Delivers q (⟨b.handle, d, data⟩ :: frames)

theorem delivers_cons_iff : Delivers q (frame :: frames) ↔
    ∃ q' b, Returns getNextFrameBody q (.success, frame.pointer, q') ∧
      q'.rxBufferInProcessing = some b ∧ b.handle = frame.handle ∧
      readBytes q'.ntb.buffer frame.pointer.datagramIndex frame.pointer.datagramLength =
        .ok frame.data ∧ Delivers q' frames := by
  constructor
  · intro h
    cases h with
    | frame hcall hprocessing hdata hrest =>
      exact ⟨_, _, returns_of_loop hcall, hprocessing, rfl, hdata, hrest⟩
  · rintro ⟨q', b, hreturns, hprocessing, hhandle, hdata, hrest⟩
    obtain ⟨n, hcall⟩ := loop_of_returns hreturns
    obtain ⟨handle, pointer, data⟩ := frame
    cases hhandle
    exact .frame hcall hprocessing hdata hrest

/-! ## Pass by pass -/

theorem delivers_again (h : getNextFrameBody q = .ok (.again q')) :
    Delivers q frames ↔ Delivers q' frames := by
  cases frames with
  | nil => exact ⟨fun _ => .nothing, fun _ => .nothing⟩
  | cons frame frames => simp only [delivers_cons_iff, returns_again_iff h]

theorem delivers_noMore (h : getNextFrameBody q = .ok (.leave (.noMoreEntries, d, q'))) :
    Delivers q frames ↔ frames = [] := by
  cases frames with
  | nil => exact ⟨fun _ => rfl, fun _ => .nothing⟩
  | cons frame frames => simp [delivers_cons_iff, returns_leave_iff h]

theorem delivers_frame (h : getNextFrameBody q = .ok (.leave (.success, d, q')))
    (hprocessing : q'.rxBufferInProcessing = some b) {data : List UInt8}
    (hdata : readBytes q'.ntb.buffer d.datagramIndex d.datagramLength = .ok data) :
    Delivers q frames ↔
      frames = [] ∨ ∃ rest, frames = ⟨b.handle, d, data⟩ :: rest ∧ Delivers q' rest := by
  cases frames with
  | nil => exact ⟨fun _ => Or.inl rfl, fun _ => .nothing⟩
  | cons frame frames =>
    simp only [delivers_cons_iff, returns_leave_iff h, reduceCtorEq, false_or, List.cons.injEq]
    constructor
    · rintro ⟨q1, b1, heq, hprocessing', hhandle, hdata', hrest⟩
      cases heq
      rw [hprocessing] at hprocessing'
      cases hprocessing'
      rw [hdata] at hdata'
      exact ⟨frames, ⟨Frame.ext hhandle.symm rfl (Except.ok.inj hdata').symm, rfl⟩, hrest⟩
    · rintro ⟨rest, ⟨rfl, rfl⟩, hrest⟩
      exact ⟨q', b, rfl, hprocessing, rfl, hdata, hrest⟩

def delivered (ncmAdapter : NcmAdapter) (xs : List (RxBuffer × List DatagramPointer)) :
    List Frame :=
  xs.flatMap fun x => (x.2.filter (ncmAdapter.wanted (ofBytes x.1.bytes))).map fun d =>
    ⟨x.1.handle, d, frameBytes x.1 d⟩

theorem Left.delivers_iff (h : Left q xs) (hin : InBuffers xs) :
    Delivers q frames ↔ frames <+: delivered q.ncmAdapter xs := by
  induction xs generalizing q frames with
  | nil =>
    rw [delivers_noMore h.body_nil, delivered, List.flatMap_nil, List.prefix_nil]
  | cons x xs ih =>
    obtain ⟨b, ds⟩ := x
    induction ds generalizing q frames with
    | nil =>
      obtain ⟨q', hbody, hleft, hpassed⟩ := h.body_returns
      rw [delivers_again hbody, ih hleft hin.tail, hpassed.ncmAdapter]
      rfl
    | cons d ds ihd =>
      obtain ⟨q', hbody, hleft, hpassed, hprocessing, hbuffer⟩ := h.body_datagram
      cases hwanted : q.ncmAdapter.wanted (ofBytes b.bytes) d with
      | true =>
        have hle : d.datagramIndex + d.datagramLength ≤ b.bytes.length :=
          hin _ List.mem_cons_self d List.mem_cons_self
        rw [hwanted, if_pos rfl] at hbody
        have hfirst : delivered q.ncmAdapter ((b, d :: ds) :: xs) =
            ⟨b.handle, d, frameBytes b d⟩ :: delivered q.ncmAdapter ((b, ds) :: xs) := by
          simp [delivered, hwanted]
        rw [delivers_frame hbody hprocessing (by rw [hbuffer]; exact readBytes_frameBytes hle),
          hfirst, List.prefix_cons_iff]
        simp only [ihd hleft hin.drop, hpassed.ncmAdapter]
      | false =>
        rw [hwanted, if_neg (by decide)] at hbody
        have hsame : delivered q.ncmAdapter ((b, d :: ds) :: xs) =
            delivered q.ncmAdapter ((b, ds) :: xs) := by
          simp [delivered, hwanted]
        rw [delivers_again hbody, ihd hleft hin.drop, hpassed.ncmAdapter, hsame]

/-! ## What a pass keeps -/

/-- The buffers that have not been given back. -/
def pending (q : NcmRxQueue) : List RxBuffer :=
  q.rxBufferInProcessing.toList ++ q.rxBufferQueue

theorem mem_pending_of_processing (h : q.rxBufferInProcessing = some b) : b ∈ q.pending := by
  simp [pending, h]

/-- The queue that a pass leaves. -/
def after : Pass NcmRxQueue (NtStatus × DatagramPointer × NcmRxQueue) → NcmRxQueue
  | .again q => q
  | .leave (_, _, q) => q

structure Keeps (q q' : NcmRxQueue) : Prop where
  ncmAdapter : q'.ncmAdapter = q.ncmAdapter
  format : q'.ntb.format = q.ntb.format
  pending : q'.pending ⊆ q.pending

variable {pass : Pass NcmRxQueue (NtStatus × DatagramPointer × NcmRxQueue)}

theorem Keeps.trans {q1 q2 : NcmRxQueue} (h : Keeps q q1) (h' : Keeps q1 q2) : Keeps q q2 :=
  ⟨h'.ncmAdapter.trans h.ncmAdapter, h'.format.trans h.format,
    List.Subset.trans h'.pending h.pending⟩

theorem keeps_nextFrame (h : q.nextFrame b = .ok pass) : Keeps q (after pass) := by
  obtain ⟨status, d, tb', hcall, hcases⟩ := nextFrame_cases h
  obtain ⟨hformat, -⟩ := getNextDatagram_buffer hcall
  rcases hcases with ⟨-, rfl⟩ | ⟨-, wants, -, rfl⟩
  · exact ⟨rfl, hformat, fun b' hb' => List.mem_append_right _ hb'⟩
  · cases wants <;> exact ⟨rfl, hformat, List.Subset.refl _⟩

theorem keeps_body (h : getNextFrameBody q = .ok pass) : Keeps q (after pass) := by
  rcases getNextFrameBody_cases h with ⟨b, -, h⟩ | ⟨-, -, rfl⟩ |
    ⟨b, rest, status, tb', hnone, hqueue, hinit, hcases⟩
  · exact keeps_nextFrame h
  · exact ⟨rfl, rfl, List.Subset.refl _⟩
  · obtain ⟨hformat, -⟩ := reInitializeBuffer_buffer hinit
    have hdequeued : Keeps q (q.dequeued b rest tb') := by
      refine ⟨rfl, hformat, ?_⟩
      simp [NcmRxQueue.pending, dequeued, hnone, hqueue]
    rcases hcases with ⟨-, h⟩ | ⟨-, rfl⟩
    · exact hdequeued.trans (keeps_nextFrame h)
    · exact hdequeued.trans ⟨rfl, rfl, fun b' hb' => List.mem_append_right _ hb'⟩

theorem keeps_returns {r : NtStatus × DatagramPointer × NcmRxQueue}
    (h : Returns getNextFrameBody q r) : Keeps q r.2.2 := by
  induction h with
  | leave hbody => exact keeps_body hbody
  | again hbody _ ih => exact (keeps_body hbody).trans ih

/-! ## Behind the others -/

/-- The same pass, with a buffer behind the others. -/
def behind (b : RxBuffer) : Pass NcmRxQueue (NtStatus × DatagramPointer × NcmRxQueue) →
    Pass NcmRxQueue (NtStatus × DatagramPointer × NcmRxQueue)
  | .again q => .again (q.rxBufferQueueEnqueueBuffer b)
  | .leave (status, d, q) => .leave (status, d, q.rxBufferQueueEnqueueBuffer b)

theorem nextFrame_behind (q : NcmRxQueue) (b b' : RxBuffer) :
    (q.rxBufferQueueEnqueueBuffer b').nextFrame b = (q.nextFrame b).map (behind b') := by
  unfold nextFrame
  change (q.ntb.getNextDatagram 64 >>= _) = _
  cases q.ntb.getNextDatagram 64 with
  | error e => rfl
  | ok r =>
    obtain ⟨status, d, tb'⟩ := r
    simp only [ok_bind]
    split
    · change (q.ncmAdapter.wantsFrame tb'.buffer d >>= _) = _
      cases q.ncmAdapter.wantsFrame tb'.buffer d with
      | error e => rfl
      | ok wants => cases wants <;> rfl
    · rfl

theorem getNextFrameBody_behind (b' : RxBuffer) (h : q.pending ≠ []) :
    getNextFrameBody (q.rxBufferQueueEnqueueBuffer b') = (getNextFrameBody q).map (behind b') := by
  cases hprocessing : q.rxBufferInProcessing with
  | some b =>
    rw [getNextFrameBody_processing hprocessing, ← nextFrame_behind]
    exact getNextFrameBody_processing hprocessing
  | none =>
    cases hqueue : q.rxBufferQueue with
    | nil => exact absurd (by simp [pending, hprocessing, hqueue]) h
    | cons b rest =>
      have hqueue' : (q.rxBufferQueueEnqueueBuffer b').rxBufferQueue = b :: (rest ++ [b']) := by
        simp [rxBufferQueueEnqueueBuffer, hqueue]
      unfold getNextFrameBody
      simp only [hprocessing, hqueue, hqueue',
        show (q.rxBufferQueueEnqueueBuffer b').rxBufferInProcessing = none from hprocessing]
      change (q.ntb.reInitializeBuffer 64 (ofBytes b.bytes) b.bytes.length .rx >>= _) = _
      cases q.ntb.reInitializeBuffer 64 (ofBytes b.bytes) b.bytes.length .rx with
      | error e => rfl
      | ok r =>
        obtain ⟨status, tb'⟩ := r
        simp only [ok_bind]
        split
        · exact nextFrame_behind (q.dequeued b rest tb') b b'
        · rfl

theorem body_of_pending_nil (h : q.pending = []) :
    getNextFrameBody q = .ok (.leave (.noMoreEntries, ⟨0, 0⟩, q)) := by
  obtain ⟨hnone, hqueue⟩ := List.append_eq_nil_iff.mp h
  exact getNextFrameBody_empty (by simpa using hnone) hqueue

/-- A pass that goes round again does so in front of a further buffer as well. -/
theorem again_behind (b : RxBuffer) (hbody : getNextFrameBody q = .ok (.again q')) :
    getNextFrameBody (q.rxBufferQueueEnqueueBuffer b) =
      .ok (.again (q'.rxBufferQueueEnqueueBuffer b)) := by
  have hpending : q.pending ≠ [] := by
    intro hnil
    rw [body_of_pending_nil hnil] at hbody
    cases hbody
  rw [getNextFrameBody_behind b hpending, hbody]
  rfl

/-- Only a queue with nothing pending has no more frames. -/
theorem success_of_leave {status : NtStatus} (h : q.pending ≠ [])
    (hbody : getNextFrameBody q = .ok (.leave (status, d, q'))) : status = .success := by
  have hnext : ∀ {q1 : NcmRxQueue} {b : RxBuffer},
      q1.nextFrame b = .ok (.leave (status, d, q')) → status = .success := by
    intro q1 b hnext
    obtain ⟨status', d', tb', -, hcases⟩ := nextFrame_cases hnext
    rcases hcases with ⟨-, hc⟩ | ⟨-, wants, -, hpass⟩
    · cases hc
    · cases wants <;> cases hpass
      rfl
  rcases getNextFrameBody_cases hbody with ⟨b, -, hbody⟩ | ⟨hnone, hqueue, -⟩ |
    ⟨b, rest, status', tb', -, -, -, ⟨-, hbody⟩ | ⟨-, hbody⟩⟩
  · exact hnext hbody
  · exact absurd (by simp [pending, hnone, hqueue]) h
  · exact hnext hbody
  · cases hbody

/-- With a buffer behind the others, a call returns a frame of the others, or it gets to the buffer
once there are no more of them. -/
theorem returns_behind {status : NtStatus}
    (h : Returns getNextFrameBody (q.rxBufferQueueEnqueueBuffer b) (status, d, q')) :
    (∃ q1, Returns getNextFrameBody q (status, d, q1) ∧ q' = q1.rxBufferQueueEnqueueBuffer b) ∨
      ∃ q1, Returns getNextFrameBody q (.noMoreEntries, ⟨0, 0⟩, q1) ∧ q1.pending = [] ∧
        Returns getNextFrameBody (q1.rxBufferQueueEnqueueBuffer b) (status, d, q') := by
  generalize hq : q.rxBufferQueueEnqueueBuffer b = q0 at h
  generalize hr : (status, d, q') = r at h
  induction h generalizing q with
  | @leave s r hbody =>
    subst hq hr
    by_cases hpending : q.pending = []
    · exact Or.inr ⟨q, .leave (body_of_pending_nil hpending), hpending, .leave hbody⟩
    · rw [getNextFrameBody_behind b hpending] at hbody
      obtain ⟨pass, hpass, heq⟩ := map_eq_ok.mp hbody
      cases pass with
      | again q1 => cases heq
      | leave r1 =>
        cases heq
        exact Or.inl ⟨r1.2.2, .leave hpass, rfl⟩
  | @again s s' r hbody hrest ih =>
    subst hq hr
    by_cases hpending : q.pending = []
    · exact Or.inr ⟨q, .leave (body_of_pending_nil hpending), hpending, .again hbody hrest⟩
    · rw [getNextFrameBody_behind b hpending] at hbody
      obtain ⟨pass, hpass, heq⟩ := map_eq_ok.mp hbody
      cases pass with
      | leave r1 => cases heq
      | again q1 =>
        cases heq
        rcases ih rfl rfl with ⟨q2, hreturns, rfl⟩ | ⟨q2, hreturns, hnil, hlast⟩
        · exact Or.inl ⟨q2, .again hpass hreturns, rfl⟩
        · exact Or.inr ⟨q2, .again hpass hreturns, hnil, hlast⟩

theorem returns_behind_of_frame (b : RxBuffer)
    (h : Returns getNextFrameBody q (.success, d, q')) :
    Returns getNextFrameBody (q.rxBufferQueueEnqueueBuffer b)
      (.success, d, q'.rxBufferQueueEnqueueBuffer b) := by
  generalize hr : (NtStatus.success, d, q') = r at h
  induction h with
  | @leave s r hbody =>
    subst hr
    have hpending : s.pending ≠ [] := by
      intro hnil
      rw [body_of_pending_nil hnil] at hbody
      cases hbody
    apply Returns.leave
    rw [getNextFrameBody_behind b hpending, hbody]
    rfl
  | again hbody _ ih => exact .again (again_behind b hbody) (ih hr)

theorem returns_behind_of_noMore {r : NtStatus × DatagramPointer × NcmRxQueue}
    (h : Returns getNextFrameBody q (.noMoreEntries, d, q'))
    (hlast : Returns getNextFrameBody (q'.rxBufferQueueEnqueueBuffer b) r) :
    Returns getNextFrameBody (q.rxBufferQueueEnqueueBuffer b) r := by
  generalize hr : (NtStatus.noMoreEntries, d, q') = r' at h
  induction h with
  | @leave s r' hbody =>
    subst hr
    have hpending : s.pending = [] := by
      by_contra hne
      cases success_of_leave hne hbody
    rw [body_of_pending_nil hpending] at hbody
    cases hbody
    exact hlast
  | again hbody _ ih => exact .again (again_behind b hbody) (ih hr)

/-- Two buffers that deliver the same frames to a queue with nothing else in it do so behind any
other buffers. -/
theorem delivers_behind {ncmAdapter : NcmAdapter} {fmt : NtbFormat} {P : Frame → Prop}
    (halone : ∀ (q : NcmRxQueue) frames, q.pending = [] → q.ncmAdapter = ncmAdapter → q.ntb.format = fmt →
      Delivers (q.rxBufferQueueEnqueueBuffer b) frames →
        Delivers (q.rxBufferQueueEnqueueBuffer b') frames ∧ ∀ frame ∈ frames, P frame)
    (hadapter : q.ncmAdapter = ncmAdapter) (hformat : q.ntb.format = fmt)
    (h : Delivers (q.rxBufferQueueEnqueueBuffer b) frames) :
    Delivers (q.rxBufferQueueEnqueueBuffer b') frames ∧
      ∀ frame ∈ frames, frame.handle ∉ q.pending.map RxBuffer.handle → P frame := by
  induction frames generalizing q with
  | nil => exact ⟨.nothing, by simp⟩
  | cons frame frames ih =>
    obtain ⟨q', b0, hreturns, hprocessing, hhandle, hdata, hrest⟩ := delivers_cons_iff.mp h
    rcases returns_behind hreturns with ⟨q1, hfirst, rfl⟩ | ⟨q1, hnoMore, hnil, hlast⟩
    · have hkeeps := keeps_returns hfirst
      obtain ⟨hdelivers, hall⟩ :=
        ih (hkeeps.ncmAdapter.trans hadapter) (hkeeps.format.trans hformat) hrest
      refine ⟨delivers_cons_iff.mpr ⟨_, b0, returns_behind_of_frame b' hfirst, hprocessing, hhandle,
        hdata, hdelivers⟩, ?_⟩
      have hb0 : b0 ∈ q.pending := hkeeps.pending (mem_pending_of_processing hprocessing)
      intro frame' hframe' hnot
      rcases List.mem_cons.mp hframe' with rfl | hframe'
      · exact absurd (hhandle ▸ List.mem_map_of_mem hb0) hnot
      · exact hall frame' hframe' fun hin => hnot (List.map_subset _ hkeeps.pending hin)
    · have hkeeps := keeps_returns hnoMore
      have hdelivers : Delivers (q1.rxBufferQueueEnqueueBuffer b) (frame :: frames) :=
        delivers_cons_iff.mpr ⟨q', b0, hlast, hprocessing, hhandle, hdata, hrest⟩
      obtain ⟨hdelivers', hall⟩ := halone q1 _ hnil (hkeeps.ncmAdapter.trans hadapter)
        (hkeeps.format.trans hformat) hdelivers
      obtain ⟨q2, b2, hreturns2, hprocessing2, hhandle2, hdata2, hrest2⟩ :=
        delivers_cons_iff.mp hdelivers'
      exact ⟨delivers_cons_iff.mpr ⟨q2, b2, returns_behind_of_noMore hnoMore hreturns2, hprocessing2,
        hhandle2, hdata2, hrest2⟩, fun frame' hframe' _ => hall frame' hframe'⟩

/-! ## A buffer on its own -/

theorem wanted_of_nextFrame (h : q.nextFrame b = .ok (.leave (.success, d, q'))) :
    q'.ncmAdapter.wanted q'.ntb.buffer d = true := by
  obtain ⟨status, d', tb', -, hcases⟩ := nextFrame_cases h
  rcases hcases with ⟨-, hc⟩ | ⟨-, wants, hwants, hpass⟩
  · cases hc
  · cases wants with
    | false => cases hpass
    | true =>
      cases hpass
      exact NcmAdapter.wanted_of_ok hwants

theorem wanted_of_body (h : getNextFrameBody q = .ok (.leave (.success, d, q'))) :
    q'.ncmAdapter.wanted q'.ntb.buffer d = true := by
  rcases getNextFrameBody_cases h with ⟨b, -, h⟩ | ⟨-, -, h⟩ |
    ⟨b, rest, status, tb', -, -, -, ⟨-, h⟩ | ⟨-, h⟩⟩
  · exact wanted_of_nextFrame h
  · cases h
  · exact wanted_of_nextFrame h
  · cases h

/-- Whatever the entries say, a frame is one that the adapter wants. -/
theorem wanted_of_returns (h : Returns getNextFrameBody q (.success, d, q')) :
    q'.ncmAdapter.wanted q'.ntb.buffer d = true := by
  generalize hr : (NtStatus.success, d, q') = r at h
  induction h with
  | leave hbody =>
    subst hr
    exact wanted_of_body hbody
  | again _ _ ih => exact ih hr

theorem Delivers.size (h : Delivers q frames) (hframe : frame ∈ frames) :
    sizeofEthernetHeader ≤ frame.pointer.datagramLength ∧
      frame.pointer.datagramLength ≤ q.ncmAdapter.parameters.maxDatagramSize.toNat := by
  induction h with
  | nothing => simp at hframe
  | @frame q q' b d data n frames hcall _ _ _ ih =>
    have hreturns := returns_of_loop hcall
    have hadapter : q'.ncmAdapter = q.ncmAdapter := (keeps_returns hreturns).ncmAdapter
    rcases List.mem_cons.mp hframe with rfl | hframe
    · rw [← hadapter]
      exact NcmAdapter.wanted_size (wanted_of_returns hreturns)
    · rw [← hadapter]
      exact ih hframe

theorem Delivers.inBuffer (h : Delivers q frames) (hsynced : q.Synced)
    (hpending : q.pending ⊆ [b]) (hframe : frame ∈ frames) :
    frame.pointer.datagramIndex + frame.pointer.datagramLength ≤ b.bytes.length := by
  induction h with
  | nothing => simp at hframe
  | @frame q q' b0 d data n frames hcall hprocessing hdata hrest ih =>
    have hreturns := returns_of_loop hcall
    have hsynced' : q'.Synced := Synced.returns hreturns hsynced
    have hpending' : q'.pending ⊆ [b] :=
      List.Subset.trans (keeps_returns hreturns).pending hpending
    rcases List.mem_cons.mp hframe with rfl | hframe
    · obtain rfl : b0 = b :=
        List.mem_singleton.mp (hpending' (mem_pending_of_processing hprocessing))
      have hsize := NcmAdapter.wanted_size (wanted_of_returns hreturns)
      rw [hsynced' b0 hprocessing] at hdata
      exact le_of_readBytes hdata (Nat.lt_of_lt_of_le (by decide) hsize.1)
    · exact ih hsynced' hpending' hframe

variable (hpending : q.pending = [])

include hpending

theorem rxBufferInProcessing_of_pending : q.rxBufferInProcessing = none := by
  simpa using (List.append_eq_nil_iff.mp hpending).1

theorem pending_enqueue : (q.rxBufferQueueEnqueueBuffer b).pending = [b] := by
  unfold pending rxBufferQueueEnqueueBuffer at *
  rw [← List.append_assoc, hpending, List.nil_append]

theorem delivers_alone_iff (hcontents : Contents q.ntb.format b.bytes ds) :
    Delivers (q.rxBufferQueueEnqueueBuffer b) frames ↔
      frames <+: delivered q.ncmAdapter [(b, ds)] := by
  apply Left.delivers_iff (q := q.rxBufferQueueEnqueueBuffer b)
  · have hnone : q.rxBufferInProcessing = none := rxBufferInProcessing_of_pending hpending
    refine .waiting hnone ⟨?_, ?_⟩
    · change [b] = q.rxBufferQueue ++ [b]
      rw [(List.append_eq_nil_iff.mp hpending).2, List.nil_append]
    · intro x hx
      obtain rfl := List.mem_singleton.mp hx
      exact hcontents
  · intro x hx d hd
    obtain rfl := List.mem_singleton.mp hx
    exact hcontents.inBuffer hd

omit hpending in
/-- Datagrams within the first bytes of a buffer are not affected by what is behind these bytes. -/
theorem delivered_of_prefix {bytes : List UInt8} (ncmAdapter : NcmAdapter)
    (hbytes : bytes <+: b.bytes)
    (hin : ∀ d ∈ ds, d.datagramIndex + d.datagramLength ≤ bytes.length) :
    delivered ncmAdapter [(b, ds)] = (ds.filter (ncmAdapter.wanted (ofBytes bytes))).map fun d =>
      ⟨b.handle, d, (bytes.drop d.datagramIndex).take d.datagramLength⟩ := by
  have hwanted : ∀ d ∈ ds, ncmAdapter.wanted (ofBytes b.bytes) d =
      ncmAdapter.wanted (ofBytes bytes) d := by
    intro d hd
    obtain ⟨wants, hwants⟩ := ncmAdapter.wantsFrame_ok (hin d hd)
    rw [NcmAdapter.wanted_of_ok hwants,
      NcmAdapter.wanted_of_ok (ncmAdapter.wantsFrame_below (extends_ofBytes hbytes) d _ hwants)]
  have hdata : ∀ d ∈ ds, frameBytes b d = (bytes.drop d.datagramIndex).take d.datagramLength := by
    intro d hd
    have hle := hin d hd
    obtain ⟨rest, hrest⟩ := hbytes
    rw [frameBytes, ← hrest, List.drop_append_of_le_length (by omega),
      List.take_append_of_le_length (by rw [List.length_drop]; omega)]
  unfold delivered
  rw [List.flatMap_cons, List.flatMap_nil, List.append_nil, List.filter_congr hwanted]
  apply List.map_congr_left
  intro d hd
  rw [hdata d (List.mem_of_mem_filter hd)]

theorem delivers_alone_inBuffer (h : Delivers (q.rxBufferQueueEnqueueBuffer b) frames)
    (hframe : frame ∈ frames) :
    frame.pointer.datagramIndex + frame.pointer.datagramLength ≤ b.bytes.length := by
  refine h.inBuffer ?_ (pending_enqueue hpending ▸ List.Subset.refl _) hframe
  intro b' hb'
  rw [show (q.rxBufferQueueEnqueueBuffer b).rxBufferInProcessing = q.rxBufferInProcessing from rfl,
    rxBufferInProcessing_of_pending hpending] at hb'
  cases hb'

end NcmRxQueue

end UsbNcm.Adapter
