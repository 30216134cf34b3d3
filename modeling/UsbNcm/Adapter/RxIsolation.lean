import UsbNcm.Adapter.RxFrames

/-!
# Each received buffer for itself

The bytes of a buffer come from the other end of the cable, and one transfer block goes from buffer to
buffer. Whether the receive queue gets through its buffers and what each of them gives is decided by
each buffer alone.
-/

open Exec ByteMemory UsbNcm.Ring UsbNcm.Ntb UsbNcm.Ntb.NcmTransferBlock

namespace UsbNcm.Adapter.NcmRxQueue

variable {p f : Nat} {q q' : NcmRxQueue} {b : RxBuffer} {d : DatagramPointer}
  {ds : List DatagramPointer} {xs ys : List (RxBuffer × List DatagramPointer)} {data : List UInt8}
  {datas datas' : List (List UInt8)}

/-! ## The bytes of all frames -/

/-- `GetNextFrame` is called until it has no more, and these are the bytes of the frames. -/
inductive Gives : NcmRxQueue → List (List UInt8) → Prop
  | noMore {q q' : NcmRxQueue} {d : DatagramPointer} {n : Nat} :
    getNextFrame n q = .ok (.noMoreEntries, d, q') → Gives q []
  | frame {q q' : NcmRxQueue} {d : DatagramPointer} {data : List UInt8} {n : Nat}
      {datas : List (List UInt8)} :
    getNextFrame n q = .ok (.success, d, q') →
      readBytes q'.ntb.buffer d.datagramIndex d.datagramLength = .ok data → Gives q' datas →
      Gives q (data :: datas)

/-- What the buffer gives when no other is received, whatever the transfer block was used for. -/
def Alone (ncmAdapter : NcmAdapter) (fmt : NtbFormat) (b : RxBuffer) (datas : List (List UInt8)) :
    Prop :=
  ∀ ntb : NcmTransferBlock, ntb.format = fmt → Gives (waitingQueue ncmAdapter ntb [b]) datas

theorem Gives.unique (h : Gives q datas) (h' : Gives q datas') : datas = datas' := by
  induction h generalizing datas' with
  | noMore hcall =>
    cases h' with
    | noMore _ => rfl
    | frame hcall' _ _ => cases (returns_of_loop hcall).unique (returns_of_loop hcall')
  | frame hcall hdata _ ih =>
    cases h' with
    | noMore hcall' => cases (returns_of_loop hcall).unique (returns_of_loop hcall')
    | frame hcall' hdata' hrest' =>
      cases (returns_of_loop hcall).unique (returns_of_loop hcall')
      cases hdata.symm.trans hdata'
      rw [ih hrest']

theorem Gives.polled (h : Gives q datas) : ∃ frames q', Polled q frames q' := by
  induction h with
  | noMore hcall => exact ⟨[], _, .noMore hcall⟩
  | frame hcall _ _ ih =>
    obtain ⟨frames, q2, hrest⟩ := ih
    exact ⟨_, q2, .frame hcall hrest⟩

theorem Gives.of_again (h : getNextFrameBody q = .ok (.again q')) (hrest : Gives q' datas) :
    Gives q datas := by
  cases hrest with
  | @noMore _ _ _ n hcall =>
    apply Gives.noMore (n := n + 1)
    exact (loop_again h n).trans hcall
  | @frame _ _ _ _ n _ hcall hdata hrest =>
    refine Gives.frame (n := n + 1) ?_ hdata hrest
    exact (loop_again h n).trans hcall

theorem Left.gives (h : Left q xs) (hin : InBuffers xs) :
    Gives q (xs.flatMap (framesIn q.ncmAdapter)) := by
  induction xs generalizing q with
  | nil => exact .noMore (loop_leave h.body_nil 0)
  | cons x xs ih =>
    obtain ⟨b, ds⟩ := x
    induction ds generalizing q with
    | nil =>
      obtain ⟨q', hbody, hleft, hpassed⟩ := h.body_returns
      have hrest := ih hleft hin.tail
      rw [hpassed.ncmAdapter] at hrest
      exact .of_again hbody hrest
    | cons d ds ihd =>
      obtain ⟨q', hbody, hleft, hpassed, -, hbuffer⟩ := h.body_datagram
      have hrest := ihd hleft hin.drop
      rw [hpassed.ncmAdapter, List.flatMap_cons] at hrest
      rw [List.flatMap_cons]
      cases hwanted : q.ncmAdapter.wanted (ofBytes b.bytes) d with
      | true =>
        have hle : d.datagramIndex + d.datagramLength ≤ b.bytes.length :=
          hin _ List.mem_cons_self d List.mem_cons_self
        have hfirst : framesIn q.ncmAdapter (b, d :: ds) =
            frameBytes b d :: framesIn q.ncmAdapter (b, ds) := by simp [framesIn, hwanted]
        rw [hwanted, if_pos rfl] at hbody
        rw [hfirst, List.cons_append]
        exact .frame (loop_leave hbody 0) (by rw [hbuffer]; exact readBytes_frameBytes hle) hrest
      | false =>
        have hsame : framesIn q.ncmAdapter (b, d :: ds) = framesIn q.ncmAdapter (b, ds) := by
          simp [framesIn, hwanted]
        rw [hwanted, if_neg (by decide)] at hbody
        rw [hsame]
        exact .of_again hbody hrest

/-! ## A buffer alone -/

section Alone

variable {ncmAdapter : NcmAdapter} {fmt : NtbFormat}

theorem alone_of_contents (h : Contents fmt b.bytes ds) :
    Alone ncmAdapter fmt b (framesIn ncmAdapter (b, ds)) := by
  rintro ntb rfl
  have hleft : Left (waitingQueue ncmAdapter ntb [b]) [(b, ds)] := by
    refine .waiting rfl ⟨rfl, fun x hx => ?_⟩
    rw [List.mem_singleton.mp hx]
    exact h
  have hgives := hleft.gives fun x hx => by
    rw [List.mem_singleton.mp hx]
    exact fun d hd => h.inBuffer hd
  rwa [List.flatMap_singleton] at hgives

theorem contents_of_alone (h : Alone ncmAdapter fmt b datas) :
    ∃ ds, Contents fmt b.bytes ds ∧ datas = framesIn ncmAdapter (b, ds) := by
  have hgives := h (initialBlock 0 0 0 0 (decide (fmt = .ntb32))) (by cases fmt <;> rfl)
  obtain ⟨frames, q', hpolled⟩ := hgives.polled
  obtain ⟨xs, hleft, -⟩ := hpolled.answers nofun
  have hwaiting := hleft.waiting_of_none rfl
  obtain ⟨x, rfl, hx⟩ := List.map_eq_singleton_iff.mp hwaiting.buffers
  obtain ⟨b', ds⟩ := x
  obtain rfl : b' = b := hx
  have hcontents : Contents fmt b'.bytes ds := by
    have := hwaiting.contents _ List.mem_cons_self
    cases fmt <;> exact this
  exact ⟨ds, hcontents, hgives.unique (alone_of_contents hcontents _ (by cases fmt <;> rfl))⟩

end Alone

/-! ## Back from the end of a run -/

theorem status_of_returns {status : NtStatus}
    (h : Returns getNextFrameBody q (status, d, q')) :
    status = .success ∨ status = .noMoreEntries := by
  generalize hr : (status, d, q') = r at h
  induction h with
  | @leave s r hbody =>
    subst hr
    by_cases hpending : s.pending = []
    · rw [body_of_pending_nil hpending] at hbody
      cases hbody
      exact Or.inr rfl
    · exact Or.inl (success_of_leave hpending hbody)
  | again _ _ ih => exact ih hr

theorem Left.of_copied (h : Left (q.copied data) ys) : Left q ys := by
  cases h with
  | waiting hnone hwaiting => exact .waiting hnone ⟨hwaiting.buffers, hwaiting.contents⟩
  | processing hprocessing hwaiting =>
    obtain ⟨hsome, hbuffer, hyields, hwants⟩ := hprocessing
    exact .processing ⟨hsome, hbuffer, hyields, hwants⟩ ⟨hwaiting.buffers, hwaiting.contents⟩

theorem Left.of_enqueue (h : Left (q.rxBufferQueueEnqueueBuffer b) ys) :
    ∃ xs ds, Left q xs ∧ Contents q.ntb.format b.bytes ds := by
  have hsplit : ∀ zs, (q.rxBufferQueueEnqueueBuffer b).Waiting zs →
      ∃ xs ds, q.Waiting xs ∧ Contents q.ntb.format b.bytes ds := by
    intro zs hwaiting
    obtain ⟨xs, last, rfl, hxs, hlast⟩ := List.map_eq_append_iff.mp hwaiting.buffers
    obtain ⟨x, rfl, rfl⟩ := List.map_eq_singleton_iff.mp hlast
    exact ⟨xs, x.2, ⟨hxs, fun x hx => hwaiting.contents x (List.mem_append_left _ hx)⟩,
      hwaiting.contents x (List.mem_append_right _ List.mem_cons_self)⟩
  cases h with
  | waiting hnone hwaiting =>
    obtain ⟨xs, ds, hxs, hds⟩ := hsplit _ hwaiting
    exact ⟨xs, ds, .waiting hnone hxs, hds⟩
  | processing hprocessing hwaiting =>
    obtain ⟨xs, ds, hxs, hds⟩ := hsplit _ hwaiting
    obtain ⟨hsome, hbuffer, hyields, hwants⟩ := hprocessing
    exact ⟨_, ds, .processing ⟨hsome, hbuffer, hyields, hwants⟩ hxs, hds⟩

/-- What is left at the end was left at the start already. -/
structure CameFrom (q q' : NcmRxQueue) : Prop where
  synced : q'.Synced
  format : q'.ntb.format = q.ntb.format
  left : ∀ ys, Left q' ys → ∃ xs, Left q xs

theorem cameFrom_of_returns {status : NtStatus} (hsynced : q.Synced)
    (h : Returns getNextFrameBody q (status, d, q')) : CameFrom q q' := by
  refine ⟨Synced.returns h hsynced, (keeps_returns h).format, fun ys hleft => ?_⟩
  rcases status_of_returns h with rfl | rfl
  · obtain ⟨xs, hxs, -⟩ := answers_of_returns h hsynced (Or.inr ⟨rfl, _, ⟨ys, hleft, rfl⟩, rfl⟩)
    exact ⟨xs, hxs⟩
  · obtain ⟨xs, hxs, -⟩ := answers_of_returns h hsynced (Or.inl ⟨rfl, rfl⟩)
    exact ⟨xs, hxs⟩

theorem CameFrom.trans {q1 q2 q3 : NcmRxQueue} (h : CameFrom q1 q2) (h' : CameFrom q2 q3) :
    CameFrom q1 q3 := by
  refine ⟨h'.synced, h'.format.trans h.format, fun ys hleft => ?_⟩
  obtain ⟨xs, hxs⟩ := h'.left ys hleft
  exact h.left xs hxs

theorem cameFrom_of_advanceLoop {fuel n : Nat} {pi pi' : NcmPacketIterator p f}
    {fi : NcmOsRingIterator f} (hsynced : q.Synced)
    (h : advanceLoop fuel n q pi fi = .ok (q', pi')) : CameFrom q q' := by
  induction n generalizing q pi fi with
  | zero =>
    cases h
    exact ⟨hsynced, rfl, fun ys hleft => ⟨ys, hleft⟩⟩
  | succ n ih =>
    rw [advanceLoop] at h
    obtain ⟨⟨status, d, q1⟩, hcall, h⟩ := bind_eq_ok.mp h
    have hfirst := cameFrom_of_returns hsynced (returns_of_loop hcall)
    dsimp only at h
    split at h
    · split at h
      · cases h
      · obtain ⟨data, -, h⟩ := bind_eq_ok.mp h
        split at h
        · cases h
        · have hcopied : CameFrom q1 (q1.copied data) :=
            ⟨hfirst.synced, rfl, fun ys hleft => ⟨ys, hleft.of_copied⟩⟩
          exact (hfirst.trans hcopied).trans (ih hcopied.synced h)
    · cases h
      exact hfirst

theorem cameFrom_of_advance {fuel : Nat} {osQueue osQueue' : NcmOsQueue p f} (hsynced : q.Synced)
    (h : q.advance fuel osQueue = .ok (q', osQueue')) : CameFrom q q' := by
  unfold NcmRxQueue.advance at h
  obtain ⟨⟨q1, pi⟩, hloop, h⟩ := bind_eq_ok.mp h
  cases h
  exact cameFrom_of_advanceLoop hsynced hloop

/-- Where what is left at the end can be told, every buffer that has arrived had contents. -/
theorem contents_of_run {fuel : Nat} {events : List (RxEvent p f)}
    {rings : List (NcmOsQueue p f × NcmOsQueue p f)} (hsynced : q.Synced)
    (hrun : run fuel q events = .ok (q', rings)) :
    CameFrom q q' ∧ ∀ ys, Left q' ys →
      ∀ b ∈ arrivals events, ∃ ds, Contents q.ntb.format b.bytes ds := by
  induction events generalizing q rings with
  | nil =>
    cases hrun
    exact ⟨⟨hsynced, rfl, fun ys hleft => ⟨ys, hleft⟩⟩, fun _ _ => nofun⟩
  | cons event events ih =>
    cases event with
    | arrival b =>
      have hrun' : run fuel (q.rxBufferQueueEnqueueBuffer b) events = .ok (q', rings) := hrun
      obtain ⟨hcame, hcontents⟩ := ih (q := q.rxBufferQueueEnqueueBuffer b) hsynced hrun'
      have hfirst : CameFrom q (q.rxBufferQueueEnqueueBuffer b) := by
        refine ⟨hsynced, rfl, fun ys hleft => ?_⟩
        obtain ⟨xs, -, hxs, -⟩ := hleft.of_enqueue
        exact ⟨xs, hxs⟩
      refine ⟨hfirst.trans hcame, fun ys hleft b' hb' => ?_⟩
      rcases List.mem_cons.mp hb' with rfl | hb'
      · obtain ⟨xs, hxs⟩ := hcame.left ys hleft
        obtain ⟨-, ds, -, hds⟩ := hxs.of_enqueue
        exact ⟨ds, hds⟩
      · exact hcontents ys hleft b' hb'
    | advance osQueue =>
      obtain ⟨⟨q1, osQueue'⟩, hadvance, hrest⟩ := bind_eq_ok.mp hrun
      obtain ⟨⟨q2, rings'⟩, hrun', hnext⟩ := bind_eq_ok.mp hrest
      cases hnext
      have hfirst := cameFrom_of_advance hsynced hadvance
      obtain ⟨hcame, hcontents⟩ := ih hfirst.synced hrun'
      rw [hfirst.format] at hcontents
      exact ⟨hfirst.trans hcame, hcontents⟩

/-! ## The result -/

theorem frameQueue_congr {framesOf framesOf' : RxBuffer → List (List UInt8)}
    {waiting : List (List UInt8)} {events : List (RxEvent p f)}
    (h : ∀ b ∈ arrivals events, framesOf b = framesOf' b) :
    frameQueue framesOf waiting events = frameQueue framesOf' waiting events := by
  induction events generalizing waiting with
  | nil => rfl
  | cons event events ih =>
    cases event with
    | arrival b =>
      obtain ⟨hfirst, hrest⟩ := List.forall_mem_cons.mp h
      rw [frameQueue, frameQueue, hfirst, ih hrest]
    | advance osQueue => rw [frameQueue, frameQueue, ih h]

/-- The receive queue gets through what has arrived: the calls return, and so do the calls of
`GetNextFrame` that are made then until there is no more. -/
def GetsThrough (q : NcmRxQueue) (events : List (RxEvent p f)) : Prop :=
  ∃ fuel q' rings, run fuel q events = .ok (q', rings) ∧ ∃ frames q2, Polled q' frames q2

/-- Whatever the buffers contain, and however their arrivals and the calls of `Advance` follow one
another: the queue gets through exactly when it gets through each buffer alone, and what is written is
what each of them gives alone, first in, first out. -/
theorem run_isolated (ncmAdapter : NcmAdapter) (ntb : NcmTransferBlock) (events : List (RxEvent p f))
    (hrings : ∀ osQueue, .advance osQueue ∈ events → Suits ncmAdapter osQueue) :
    (GetsThrough (waitingQueue ncmAdapter ntb []) events ↔
      ∀ b ∈ arrivals events, ∃ datas, Alone ncmAdapter ntb.format b datas) ∧
    ∀ alone : RxBuffer → List (List UInt8),
      (∀ b ∈ arrivals events, Alone ncmAdapter ntb.format b (alone b)) →
        ∃ enough q rings, rings.map (fun r => written r.1 r.2) = frameQueue alone [] events ∧
          ∀ fuel, enough ≤ fuel →
            run fuel (waitingQueue ncmAdapter ntb []) events = .ok (q, rings) := by
  have hleft : Left (waitingQueue ncmAdapter ntb []) [] := .waiting rfl ⟨rfl, by simp⟩
  have hmem : ∀ b, RxEvent.arrival b ∈ events → b ∈ arrivals events := by
    intro b hb
    exact List.mem_filterMap.mpr ⟨.arrival b, hb, rfl⟩
  refine ⟨⟨?_, fun halone => ?_⟩, fun alone halone => ?_⟩
  · rintro ⟨fuel, q, rings, hrun, frames, q2, hpolled⟩ b hb
    obtain ⟨hcame, hcontents⟩ := contents_of_run (q := waitingQueue ncmAdapter ntb []) nofun hrun
    obtain ⟨ys, hys, -⟩ := hpolled.answers hcame.synced
    obtain ⟨ds, hds⟩ := hcontents ys hys b hb
    exact ⟨_, alone_of_contents hds⟩
  · have hcontents : ∀ b ∈ arrivals events, ∃ ds, Contents ntb.format b.bytes ds := by
      intro b hb
      obtain ⟨datas, hdatas⟩ := halone b hb
      obtain ⟨ds, hds, -⟩ := contents_of_alone hdatas
      exact ⟨ds, hds⟩
    choose! datagrams hdatagrams using hcontents
    obtain ⟨enough, q, rings, ys, actions, hran, hrun⟩ := hleft.run events datagrams
      (by simp [InBuffers]) (fun b hb => hdatagrams b (hmem b hb)) hrings
    obtain ⟨q2, hpolled, -⟩ := hran.left.polled
    exact ⟨enough, q, rings, hrun enough (Nat.le_refl _), _, q2, hpolled⟩
  · have hcontents : ∀ b ∈ arrivals events,
        ∃ ds, Contents ntb.format b.bytes ds ∧ alone b = framesIn ncmAdapter (b, ds) :=
      fun b hb => contents_of_alone (halone b hb)
    choose! datagrams hdatagrams using hcontents
    obtain ⟨enough, q, rings, ys, actions, hran, hrun⟩ := hleft.run events datagrams
      (by simp [InBuffers]) (fun b hb => (hdatagrams b (hmem b hb)).1) hrings
    refine ⟨enough, q, rings, ?_, hrun⟩
    rw [hran.packets]
    exact frameQueue_congr fun b hb => (hdatagrams b hb).2.symm

theorem oneFrame_singleTable : SingleTable .ntb16 oneFrame [⟨12, 14⟩] := by
  refine Or.inr ⟨28, 12, ⟨by decide, rfl, rfl, ⟨28, rfl, by decide, rfl⟩, rfl⟩, ⟨⟨by decide, by decide⟩,
    rfl, ⟨16, rfl, by decide, by decide, by decide, ?_⟩, rfl, Or.inl rfl⟩⟩
  exact .entry (by decide) ⟨rfl, rfl⟩ ⟨by decide, by decide, by decide⟩
    (.null (by decide) ⟨0, rfl, Or.inl rfl⟩)

/-- Nothing comes of the short buffer, and the frame of the one behind it is written. -/
theorem run_isolated_oneFrame :
    let ncmAdapter := exampleAdapter ndisPacketTypePromiscuous
    let q := waitingQueue ncmAdapter (initialBlock 16 4 4 0 false) []
    let events : List (RxEvent 1 1) :=
      [.arrival shortBuffer, .advance oneFree, .arrival oneFrame, .advance oneFree]
    GetsThrough q events ∧
      ∃ enough q' rings,
        rings.map (fun r => written r.1 r.2) = [[], [frameBytes oneFrame ⟨12, 14⟩]] ∧
        ∀ fuel, enough ≤ fuel → run fuel q events = .ok (q', rings) := by
  intro ncmAdapter q events
  have hrings : ∀ osQueue, RxEvent.advance osQueue ∈ events → Suits ncmAdapter osQueue := by
    intro osQueue hos
    simp only [events, List.mem_cons, RxEvent.advance.injEq, reduceCtorEq, List.not_mem_nil,
      or_false, false_or, or_self] at hos
    subst hos
    exact oneFree_suits
  have halone : ∀ b ∈ arrivals events, Alone ncmAdapter .ntb16 b
      (if b = oneFrame then [frameBytes oneFrame ⟨12, 14⟩] else []) := by
    change ∀ b ∈ [shortBuffer, oneFrame], _
    simp only [List.forall_mem_cons]
    refine ⟨?_, ?_, nofun⟩
    · rw [if_neg (by decide)]
      exact alone_of_contents (Or.inl ⟨Or.inl rfl, rfl⟩)
    · have hframes : framesIn ncmAdapter (oneFrame, [⟨12, 14⟩]) = [frameBytes oneFrame ⟨12, 14⟩] := by
        decide
      rw [if_pos trivial, ← hframes]
      exact alone_of_contents oneFrame_singleTable.contents
  obtain ⟨hiff, hall⟩ := run_isolated ncmAdapter (initialBlock 16 4 4 0 false) events hrings
  refine ⟨hiff.mpr fun b hb => ⟨_, halone b hb⟩, ?_⟩
  obtain ⟨enough, q', rings, hwritten, hrun⟩ := hall _ halone
  refine ⟨enough, q', rings, hwritten.trans ?_, hrun⟩
  decide

end UsbNcm.Adapter.NcmRxQueue
