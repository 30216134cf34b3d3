import UsbNcm.Adapter.ReceiveFilter
import UsbNcm.Adapter.RxIsolation
import UsbNcm.Adapter.RxNotification
import UsbNcm.Adapter.RxReceived
import UsbNcm.Lib.Sieve

/-!
# The receive queue while everything goes on

Completions, the passes of `Advance`, the loop of the framework and changes of the receive filter, in
any order. From outside the queue is a sieve: the frames are judged one by one, in the order in which
they came, each by the filter of that time, and none is left when the loop sleeps.
-/

open Exec ByteMemory RingIndex UsbNcm.Ring UsbNcm.Ntb

namespace UsbNcm.Adapter

inductive RxConcurrentEvent (p f : Nat)
  | polling (event : RxPollingEvent p f)
  -- m_PacketFilters is written between two passes
  | setReceiveFilter (handle : NetReceiveFilter)

namespace RxPolling

open NcmRxQueue

variable {p f : Nat} {s s' : RxPolling p f} {datagrams : RxBuffer → List DatagramPointer}
  {ncmAdapter : NcmAdapter} {fmt : NtbFormat} {v : Sieve (List UInt8)}
  {xs ys : List (RxBuffer × List DatagramPointer)} {event : RxConcurrentEvent p f}

def setReceiveFilter (s : RxPolling p f) (handle : NetReceiveFilter) : RxPolling p f :=
  { s with
    rxQueue :=
      { s.rxQueue with ncmAdapter := s.rxQueue.ncmAdapter.evtSetReceiveFilter handle } }

def concurrentStep (s : RxPolling p f) : RxConcurrentEvent p f → Except Stop (RxPolling p f)
  | .polling event => s.step event
  | .setReceiveFilter handle => .ok (s.setReceiveFilter handle)

/-- The buffers have contents, and the rings suit the adapter. -/
def Accepts (ncmAdapter : NcmAdapter) (fmt : NtbFormat) (datagrams : RxBuffer → List DatagramPointer) :
    RxConcurrentEvent p f → Prop
  | .polling (.enqueue b _) => Contents fmt b.bytes (datagrams b)
  | .polling (.beginAdvance osQueue) => Suits ncmAdapter osQueue
  | _ => True

/-! ## What is left, step by step -/

/-- The fragments that Advance has still to fill are large enough. -/
def HasRoom (maxDatagramSize : Nat) : PollLoop p f → Prop
  | .advancing _ _ n pi fi => ∀ k < n,
    maxDatagramSize ≤ (pi.osQueue.fragmentRing.elements (slot fi.index k)).capacity.toNat
  | _ => True

structure Tracks (ncmAdapter : NcmAdapter) (fmt : NtbFormat) (s : RxPolling p f)
    (xs : List (RxBuffer × List DatagramPointer)) : Prop where
  -- all but the filter stays
  adapter : s.rxQueue.ncmAdapter = ncmAdapter.setPacketFilter s.rxQueue.ncmAdapter.packetFilters
  format : s.rxQueue.ntb.format = fmt
  left : Left s.rxQueue xs
  inBuffers : InBuffers xs
  room : HasRoom ncmAdapter.parameters.maxDatagramSize.toNat s.loop

theorem Tracks.of_loop (h : Tracks ncmAdapter fmt s xs) (hqueue : s'.rxQueue = s.rxQueue)
    (hroom : HasRoom ncmAdapter.parameters.maxDatagramSize.toNat s'.loop) :
    Tracks ncmAdapter fmt s' xs := by
  obtain ⟨hadapter, hformat, hleft, hin, -⟩ := h
  rw [← hqueue] at hadapter hformat hleft
  exact ⟨hadapter, hformat, hleft, hin, hroom⟩

theorem Tracks.of_passed (h : Tracks ncmAdapter fmt s xs) {actions : List RxAction}
    (hpassed : Passed s.rxQueue s'.rxQueue actions) (hleft : Left s'.rxQueue ys) (hin : InBuffers ys)
    (hroom : HasRoom ncmAdapter.parameters.maxDatagramSize.toNat s'.loop) :
    Tracks ncmAdapter fmt s' ys := by
  refine ⟨?_, hpassed.format.trans h.format, hleft, hin, hroom⟩
  rw [hpassed.ncmAdapter]
  exact h.adapter

theorem Tracks.enqueue (h : Tracks ncmAdapter fmt s xs) {b : RxBuffer} {ds : List DatagramPointer}
    (hcontents : Contents fmt b.bytes ds) {fetched : NtStatus} (hfetched : fetched.ntSuccess = true) :
    Tracks ncmAdapter fmt (s.enqueue b fetched) (xs ++ [(b, ds)]) := by
  unfold RxPolling.enqueue
  rw [if_pos hfetched]
  refine ⟨h.adapter, h.format, h.left.enqueue (h.format.symm ▸ hcontents), ?_, h.room⟩
  intro x hx
  rcases List.mem_append.mp hx with hx | hx
  · exact h.inBuffers x hx
  · rw [List.mem_singleton.mp hx]
    exact fun d hd => hcontents.inBuffer hd

theorem not_fetched (s : RxPolling p f) (b : RxBuffer) {fetched : NtStatus}
    (hfetched : fetched.ntSuccess = false) : (s.enqueue b fetched).rxQueue = s.rxQueue := by
  unfold RxPolling.enqueue
  rw [hfetched]
  rfl

theorem Tracks.setReceiveFilter (h : Tracks ncmAdapter fmt s xs) (handle : NetReceiveFilter) :
    Tracks ncmAdapter fmt (s.setReceiveFilter handle) xs := by
  have hleft : Left (s.setReceiveFilter handle).rxQueue xs := by
    have hin := h.inBuffers
    cases h.left with
    | waiting hnone hwaiting => exact .waiting hnone ⟨hwaiting.buffers, hwaiting.contents⟩
    | processing hprocessing hwaiting =>
      obtain ⟨hsome, hbuffer, hyields, -⟩ := hprocessing
      refine .processing ⟨hsome, hbuffer, hyields, fun d hd => ?_⟩
        ⟨hwaiting.buffers, hwaiting.contents⟩
      exact NcmAdapter.wantsFrame_ok _ (hin _ List.mem_cons_self d hd)
  refine ⟨?_, h.format, hleft, h.inBuffers, h.room⟩
  change s.rxQueue.ncmAdapter.evtSetReceiveFilter handle = _
  rw [h.adapter]
  rfl

theorem Tracks.exchange (h : Tracks ncmAdapter fmt s xs) : Tracks ncmAdapter fmt s.exchange xs := by
  unfold RxPolling.exchange
  split
  · exact h
  · exact h.of_loop rfl h.room

theorem Tracks.beginAdvance (h : Tracks ncmAdapter fmt s xs) {osQueue : NcmOsQueue p f}
    (hsuits : Suits ncmAdapter osQueue) (hstep : s.step (.beginAdvance osQueue) = .ok s') :
    Tracks ncmAdapter fmt s' xs := by
  cases hstep
  split
  · refine h.of_loop rfl fun k hk => hsuits.capacity _ ?_
    rw [range, indicesFrom_eq]
    exact List.mem_map.mpr ⟨k, List.mem_range.mpr hk, rfl⟩
  · exact h

theorem Tracks.next (h : Tracks ncmAdapter fmt s xs) : Tracks ncmAdapter fmt s.next xs := by
  unfold RxPolling.next
  split
  · exact h.of_loop rfl trivial
  · refine h.of_loop rfl ?_
    dsimp only
    split <;> trivial
  · exact h.of_loop rfl trivial
  · exact h

theorem Tracks.wake (h : Tracks ncmAdapter fmt s xs) (hstep : s.step .wake = .ok s') :
    Tracks ncmAdapter fmt s' xs := by
  cases hstep
  split
  · split
    · exact h.of_loop rfl trivial
    · exact h
  · exact h

/-- What a pass does: nothing when Advance is not under way, it ends Advance, it gives a buffer back, or
it judges a datagram. -/
inductive PassDoes (s : RxPolling p f) :
    List (RxBuffer × List DatagramPointer) → RxPolling p f → List (RxBuffer × List DatagramPointer) →
      Prop
  | nothing {xs : List (RxBuffer × List DatagramPointer)} :
    (∀ armed progress n pi fi, s.loop ≠ .advancing armed progress n pi fi) → PassDoes s xs s xs
  | full {xs : List (RxBuffer × List DatagramPointer)} {armed progress : Bool}
      {pi : NcmPacketIterator p f} {fi : NcmOsRingIterator f} :
    s.loop = .advancing armed progress 0 pi fi →
      PassDoes s xs { s with loop := .advanced armed progress false } xs
  | empty {armed progress : Bool} {n : Nat} {pi : NcmPacketIterator p f}
      {fi : NcmOsRingIterator f} :
    s.loop = .advancing armed progress (n + 1) pi fi →
      PassDoes s [] { s with loop := .advanced armed progress true } []
  | returned {xs : List (RxBuffer × List DatagramPointer)} {b : RxBuffer} {q : NcmRxQueue} :
    Passed s.rxQueue q [.returned b] → Left q xs → PassDoes s ((b, []) :: xs) { s with rxQueue := q } xs
  | skipped {xs : List (RxBuffer × List DatagramPointer)} {b : RxBuffer} {d : DatagramPointer}
      {ds : List DatagramPointer} {q : NcmRxQueue} :
    s.rxQueue.ncmAdapter.wantsData (d.dataIn b.bytes) = false → Passed s.rxQueue q [] →
      Left q ((b, ds) :: xs) →
      PassDoes s ((b, d :: ds) :: xs) { s with rxQueue := q } ((b, ds) :: xs)
  | copied {xs : List (RxBuffer × List DatagramPointer)} {b : RxBuffer} {d : DatagramPointer}
      {ds : List DatagramPointer} {q : NcmRxQueue} {armed progress : Bool} {n : Nat}
      {pi : NcmPacketIterator p f} {fi : NcmOsRingIterator f} :
    s.loop = .advancing armed progress (n + 1) pi fi →
      s.rxQueue.ncmAdapter.wantsData (d.dataIn b.bytes) = true →
      Passed s.rxQueue q [.copied (d.dataIn b.bytes)] → Left q ((b, ds) :: xs) →
      PassDoes s ((b, d :: ds) :: xs)
        { s with
          rxQueue := q
          loop := .advancing armed true n (putFrame pi fi (d.dataIn b.bytes)).advance fi.advance }
        ((b, ds) :: xs)

/-- The pass over a datagram. -/
theorem Tracks.judge {b : RxBuffer} {d : DatagramPointer} {ds : List DatagramPointer}
    (h : Tracks ncmAdapter fmt s ((b, d :: ds) :: xs)) {armed progress : Bool} {n : Nat}
    {pi : NcmPacketIterator p f} {fi : NcmOsRingIterator f}
    (hloop : s.loop = .advancing armed progress (n + 1) pi fi) :
    ∃ s', s.pass = .ok s' ∧ PassDoes s ((b, d :: ds) :: xs) s' ((b, ds) :: xs) := by
  have hroom := h.room
  rw [hloop] at hroom
  obtain ⟨q, hbody, hleft, hpassed, -, hbuffer⟩ := h.left.body_datagram
  have hle : d.datagramIndex + d.datagramLength ≤ b.bytes.length :=
    h.inBuffers _ List.mem_cons_self d List.mem_cons_self
  have hwants := s.rxQueue.ncmAdapter.wanted_eq_wantsData hle
  unfold RxPolling.pass
  simp only [hloop, hbody, ok_bind]
  cases hwanted : s.rxQueue.ncmAdapter.wanted (ofBytes b.bytes) d with
  | false =>
    refine ⟨{ s with rxQueue := q }, ?_, .skipped (hwants.symm.trans hwanted) hpassed hleft⟩
    rw [hloop]
    rfl
  | true =>
    obtain ⟨hmin, hmax⟩ := NcmAdapter.wanted_size hwanted
    unfold sizeofEthernetHeader at hmin
    have hread : readBytes q.ntb.buffer d.datagramIndex d.datagramLength =
        .ok (d.dataIn b.bytes) := by
      rw [hbuffer]
      exact readBytes_frameBytes hle
    have hfits : ¬ (d.dataIn b.bytes).length >
        (pi.osQueue.fragmentRing.elements fi.index).capacity.toNat := by
      have hfirst := hroom 0 (Nat.succ_pos n)
      rw [slot_zero] at hfirst
      rw [h.adapter] at hmax
      change d.datagramLength ≤ ncmAdapter.parameters.maxDatagramSize.toNat at hmax
      rw [dataIn_length hle]
      omega
    refine ⟨_, ?_, .copied hloop (hwants.symm.trans hwanted)
      (hpassed.trans (passed_copied q (d.dataIn b.bytes))) (hleft.copied _)⟩
    simp only [if_true, if_neg (show d.datagramLength ≠ 0 by omega), hread, ok_bind, if_neg hfits]
    rfl

theorem Tracks.pass_does (h : Tracks ncmAdapter fmt s xs) :
    ∃ s' ys, s.pass = .ok s' ∧ PassDoes s xs s' ys := by
  cases hloop : s.loop with
  | advancing armed progress n pi fi =>
    cases n with
    | zero =>
      refine ⟨_, xs, ?_, .full hloop⟩
      unfold RxPolling.pass
      rw [hloop]
    | succ n =>
      cases xs with
      | nil =>
        refine ⟨_, [], ?_, .empty hloop⟩
        unfold RxPolling.pass
        rw [hloop, h.left.body_nil]
        rfl
      | cons x xs =>
        obtain ⟨b, ds⟩ := x
        cases ds with
        | nil =>
          obtain ⟨q, hbody, hleft, hpassed⟩ := h.left.body_returns
          refine ⟨{ s with rxQueue := q }, xs, ?_, .returned hpassed hleft⟩
          unfold RxPolling.pass
          rw [hloop, hbody]
          rfl
        | cons d ds =>
          obtain ⟨s', hpass, hdoes⟩ := h.judge hloop
          exact ⟨s', _, hpass, hdoes⟩
  | _ =>
    refine ⟨s, xs, ?_, .nothing fun armed progress n pi fi => by rw [hloop]; nofun⟩
    unfold RxPolling.pass
    rw [hloop]

theorem Tracks.pass (h : Tracks ncmAdapter fmt s xs) (hdoes : PassDoes s xs s' ys) :
    Tracks ncmAdapter fmt s' ys := by
  cases hdoes with
  | nothing => exact h
  | full => exact h.of_loop rfl trivial
  | empty => exact h.of_loop rfl trivial
  | returned hpassed hleft => exact h.of_passed hpassed hleft h.inBuffers.tail h.room
  | skipped _ hpassed hleft => exact h.of_passed hpassed hleft h.inBuffers.drop h.room
  | @copied xs b d ds q armed progress n pi fi hloop hwants hpassed hleft =>
    refine h.of_passed hpassed hleft h.inBuffers.drop fun k hk => ?_
    have hroom := h.room
    rw [hloop] at hroom
    rw [putFrame_capacity, show slot fi.advance.index k = slot fi.index (k + 1) from
      slot_succ fi.index k]
    exact hroom (k + 1) (Nat.succ_lt_succ hk)

/-! ## The sieve -/

/-- What the datagrams of a buffer hold. -/
def datasIn (x : RxBuffer × List DatagramPointer) : List (List UInt8) := x.2.map (·.dataIn x.1.bytes)

/-- What an event puts into the sieve. -/
def inputs (ncmAdapter : NcmAdapter) (datagrams : RxBuffer → List DatagramPointer) :
    RxConcurrentEvent p f → List (SieveStep (List UInt8))
  | .polling (.enqueue b fetched) =>
    if fetched.ntSuccess then [.arrive (datasIn (b, datagrams b))] else []
  | .setReceiveFilter handle => [.set (ncmAdapter.evtSetReceiveFilter handle).wantsData]
  | _ => []

/-- The sieve has what is left in the queue, and has passed on what the queue has written. -/
structure SievedBy (s : RxPolling p f) (xs : List (RxBuffer × List DatagramPointer))
    (v : Sieve (List UInt8)) : Prop where
  waiting : v.waiting = xs.flatMap datasIn
  wants : v.wants = s.rxQueue.ncmAdapter.wantsData
  passed : v.passed = copiedFrames s.rxQueue.log

theorem SievedBy.of_queue (h : SievedBy s xs v) (hqueue : s'.rxQueue = s.rxQueue) :
    SievedBy s' xs v := by
  obtain ⟨hwaiting, hwants, hpassed⟩ := h
  rw [← hqueue] at hwants hpassed
  exact ⟨hwaiting, hwants, hpassed⟩

theorem SievedBy.of_passed (h : SievedBy s xs v) {actions : List RxAction}
    {v' : Sieve (List UInt8)} (hpassed : Passed s.rxQueue s'.rxQueue actions)
    (hwaiting : v'.waiting = ys.flatMap datasIn) (hwants : v'.wants = v.wants)
    (hcopied : v'.passed = v.passed ++ copiedFrames actions) : SievedBy s' ys v' := by
  refine ⟨hwaiting, ?_, ?_⟩
  · rw [hwants, h.wants, hpassed.ncmAdapter]
  · rw [hcopied, h.passed, hpassed.log, copiedFrames_append]

theorem SievedBy.enqueue (h : SievedBy s xs v) {b : RxBuffer} (ds : List DatagramPointer)
    {fetched : NtStatus} (hfetched : fetched.ntSuccess = true) :
    SievedBy (s.enqueue b fetched) (xs ++ [(b, ds)]) (v.step (.arrive (datasIn (b, ds)))) := by
  unfold RxPolling.enqueue
  rw [if_pos hfetched]
  refine ⟨?_, h.wants, h.passed⟩
  rw [List.flatMap_append, List.flatMap_singleton, ← h.waiting]
  rfl

theorem SievedBy.setReceiveFilter (h : SievedBy s xs v) (htracks : Tracks ncmAdapter fmt s xs)
    (handle : NetReceiveFilter) :
    SievedBy (s.setReceiveFilter handle) xs
      (v.step (.set (ncmAdapter.evtSetReceiveFilter handle).wantsData)) := by
  refine ⟨h.waiting, ?_, h.passed⟩
  change _ = (s.rxQueue.ncmAdapter.evtSetReceiveFilter handle).wantsData
  rw [htracks.adapter]
  rfl

theorem SievedBy.judge {b : RxBuffer} {d : DatagramPointer} {ds : List DatagramPointer}
    (h : SievedBy s ((b, d :: ds) :: xs) v) :
    v.step .judge =
      { v with
        waiting := ((b, ds) :: xs).flatMap datasIn
        passed :=
          if s.rxQueue.ncmAdapter.wantsData (d.dataIn b.bytes) then v.passed ++ [d.dataIn b.bytes]
          else v.passed } := by
  rw [← h.wants]
  exact v.judge_cons h.waiting

/-- A datagram that is judged goes through the sieve, and nothing else does. -/
theorem SievedBy.pass (h : SievedBy s xs v) (hdoes : PassDoes s xs s' ys) :
    SievedBy s' ys v ∨ SievedBy s' ys (v.step .judge) := by
  cases hdoes with
  | nothing => exact Or.inl h
  | full => exact Or.inl (h.of_queue rfl)
  | empty => exact Or.inl (h.of_queue rfl)
  | returned hpassed _ => exact Or.inl (h.of_passed hpassed h.waiting rfl (List.append_nil _).symm)
  | @skipped xs b d ds q hwants hpassed _ =>
    rw [h.judge, hwants]
    exact Or.inr (h.of_passed hpassed rfl rfl (List.append_nil _).symm)
  | @copied xs b d ds q armed progress n pi fi _ hwants hpassed _ =>
    rw [h.judge, hwants]
    exact Or.inr (h.of_passed hpassed rfl rfl rfl)

theorem exchange_rxQueue (s : RxPolling p f) : s.exchange.rxQueue = s.rxQueue := by
  unfold RxPolling.exchange
  split <;> rfl

theorem next_rxQueue (s : RxPolling p f) : s.next.rxQueue = s.rxQueue := by
  unfold RxPolling.next
  split <;> rfl

theorem beginAdvance_rxQueue {osQueue : NcmOsQueue p f}
    (hstep : s.step (.beginAdvance osQueue) = .ok s') : s'.rxQueue = s.rxQueue := by
  cases hstep
  split <;> rfl

theorem wake_rxQueue (hstep : s.step .wake = .ok s') : s'.rxQueue = s.rxQueue := by
  cases hstep
  split
  · split <;> rfl
  · rfl

/-- The state of the queue is one of the sieve, and the loop can be woken. -/
structure Simulates (ncmAdapter : NcmAdapter) (fmt : NtbFormat) (s : RxPolling p f)
    (v : Sieve (List UInt8)) : Prop where
  wakeful : Wakeful s
  sieved : ∃ xs, Tracks ncmAdapter fmt s xs ∧ SievedBy s xs v

theorem concurrentStep_wakeful (h : Wakeful s) (hstep : s.concurrentStep event = .ok s') :
    Wakeful s' := by
  cases event with
  | polling event => exact step_wakeful h hstep
  | setReceiveFilter handle =>
    cases hstep
    exact ⟨h.enabled, h.rxBufferInProcessing, h.rxBufferQueue⟩

theorem Simulates.step (h : Simulates ncmAdapter fmt s v)
    (haccepts : Accepts ncmAdapter fmt datagrams event) :
    ∃ (s' : RxPolling p f) (steps : List (SieveStep (List UInt8))),
      s.concurrentStep event = .ok s' ∧
      steps.filter SieveStep.isInput = inputs ncmAdapter datagrams event ∧
      Simulates ncmAdapter fmt s' (steps.foldl Sieve.step v) := by
  obtain ⟨hwakeful, xs, htracks, hsieved⟩ := h
  -- it is enough to say what comes of the frames
  have hnext : ∀ (steps : List (SieveStep (List UInt8))) {s' : RxPolling p f} {ys},
      s.concurrentStep event = .ok s' → Tracks ncmAdapter fmt s' ys →
      SievedBy s' ys (steps.foldl Sieve.step v) →
      steps.filter SieveStep.isInput = inputs ncmAdapter datagrams event →
      ∃ (s' : RxPolling p f) (steps : List (SieveStep (List UInt8))),
        s.concurrentStep event = .ok s' ∧
        steps.filter SieveStep.isInput = inputs ncmAdapter datagrams event ∧
        Simulates ncmAdapter fmt s' (steps.foldl Sieve.step v) :=
    fun _ _ _ hstep htracks hsieved hinputs =>
      ⟨_, _, hstep, hinputs, concurrentStep_wakeful hwakeful hstep, _, htracks, hsieved⟩
  cases event with
  | setReceiveFilter handle =>
    exact hnext [.set (ncmAdapter.evtSetReceiveFilter handle).wantsData] rfl
      (htracks.setReceiveFilter handle) (hsieved.setReceiveFilter htracks handle) rfl
  | polling event =>
    cases event with
    | enqueue b fetched =>
      cases hfetched : fetched.ntSuccess with
      | true =>
        refine hnext [.arrive (datasIn (b, datagrams b))] rfl (htracks.enqueue haccepts hfetched)
          (hsieved.enqueue (datagrams b) hfetched) ?_
        rw [inputs, if_pos hfetched]
        rfl
      | false =>
        have hqueue := not_fetched s b hfetched
        refine hnext [] rfl (htracks.of_loop hqueue htracks.room)
          (hsieved.of_queue hqueue) ?_
        rw [inputs, hfetched]
        rfl
    | exchange =>
      exact hnext [] rfl htracks.exchange (hsieved.of_queue s.exchange_rxQueue) rfl
    | beginAdvance osQueue =>
      have hstep : s.step (.beginAdvance osQueue) = .ok _ := rfl
      exact hnext [] hstep (htracks.beginAdvance haccepts hstep)
        (hsieved.of_queue (beginAdvance_rxQueue hstep)) rfl
    | pass =>
      obtain ⟨s', ys, hpass, hdoes⟩ := htracks.pass_does
      rcases hsieved.pass hdoes with hsieved | hsieved
      · exact hnext [] hpass (htracks.pass hdoes) hsieved rfl
      · exact hnext [.judge] hpass (htracks.pass hdoes) hsieved rfl
    | next => exact hnext [] rfl htracks.next (hsieved.of_queue s.next_rxQueue) rfl
    | wake =>
      have hstep : s.step .wake = .ok _ := rfl
      exact hnext [] hstep (htracks.wake hstep) (hsieved.of_queue (wake_rxQueue hstep)) rfl

/-! ## All steps -/

theorem Simulates.run (h : Simulates ncmAdapter fmt s v) {events : List (RxConcurrentEvent p f)}
    (haccepts : ∀ event ∈ events, Accepts ncmAdapter fmt datagrams event) :
    ∃ (s' : RxPolling p f) (steps : List (SieveStep (List UInt8))),
      events.foldlM concurrentStep s = .ok s' ∧
      steps.filter SieveStep.isInput = events.flatMap (inputs ncmAdapter datagrams) ∧
      Simulates ncmAdapter fmt s' (steps.foldl Sieve.step v) :=
  run_simulates (fun _ _ _ h haccepts => h.step haccepts) h haccepts

/-- Nothing is under way, and the loop sleeps because it has found no more frames. -/
structure Asleep (s : RxPolling p f) : Prop where
  loop : s.loop = .sleeping true
  notified : s.notified = false
  notifying : s.notifying = 0

theorem Wakeful.empty (h : Wakeful s) (hasleep : Asleep s) :
    s.rxQueue.rxBufferInProcessing = none ∧ s.rxQueue.rxBufferQueue = [] := by
  have hempty : foundEmpty s.loop = true := by
    rw [hasleep.loop]
    rfl
  refine ⟨h.rxBufferInProcessing hempty, ?_⟩
  by_contra hne
  rcases h.rxBufferQueue hempty hne with hnotifying | hnotified
  · rw [hasleep.notifying] at hnotifying
    omega
  · rw [hasleep.notified] at hnotified
    cases hnotified

theorem Simulates.asleep (h : Simulates ncmAdapter fmt s v) (hasleep : Asleep s) :
    v.waiting = [] := by
  obtain ⟨hnone, hqueue⟩ := h.wakeful.empty hasleep
  obtain ⟨xs, htracks, hsieved⟩ := h.sieved
  have hbuffers := htracks.left.buffers
  rw [hnone, hqueue] at hbuffers
  rw [hsieved.waiting, List.map_eq_nil_iff.mp hbuffers]
  rfl

def initialSieve (ncmAdapter : NcmAdapter) : Sieve (List UInt8) := ⟨ncmAdapter.wantsData, [], []⟩

theorem started_simulates (ncmAdapter : NcmAdapter) (ntb : NcmTransferBlock) :
    Simulates ncmAdapter ntb.format
      (started (waitingQueue ncmAdapter ntb []) : RxPolling p f) (initialSieve ncmAdapter) :=
  ⟨started_wakeful _, [], ⟨rfl, rfl, .waiting rfl ⟨rfl, nofun⟩, nofun, trivial⟩, ⟨rfl, rfl, rfl⟩⟩

/-- The frames that have come in, whether they are wanted or not. -/
def arrivedDatas (ncmAdapter : NcmAdapter) (datagrams : RxBuffer → List DatagramPointer)
    (events : List (RxConcurrentEvent p f)) : List (List UInt8) :=
  (events.flatMap (inputs ncmAdapter datagrams)).flatMap SieveStep.items

/-- What is written is between what all the filters want and what some filter wants. -/
theorem Simulates.written {steps : List (SieveStep (List UInt8))}
    (h : Simulates ncmAdapter fmt s (steps.foldl Sieve.step (initialSieve ncmAdapter)))
    {low high : List UInt8 → Bool}
    (hbetween : Sieve.Between low high (initialSieve ncmAdapter) (steps.filter SieveStep.isInput)) :
    (copiedFrames s.rxQueue.log).Sublist ((steps.flatMap SieveStep.items).filter high) ∧
      (Asleep s → ((steps.flatMap SieveStep.items).filter low).Sublist
        (copiedFrames s.rxQueue.log)) := by
  obtain ⟨xs, -, hsieved⟩ := h.sieved
  obtain ⟨hlow, hhigh⟩ := hbetween.of_inputs.run
  rw [← hsieved.passed]
  refine ⟨(List.sublist_append_left _ _).trans hhigh, fun hasleep => ?_⟩
  unfold Sieve.kept at hlow
  rw [h.asleep hasleep, List.filter_nil, List.append_nil] at hlow
  exact hlow

/-- In whatever order the completions, the passes, the loop and the changes of the filter go on, what is
written is what the sieve passes on, and the sieve is empty when the loop sleeps. So a frame that all
the filters want is written in the end, one that none of them wants never is, and none overtakes. -/
theorem run_sieves (ncmAdapter : NcmAdapter) (ntb : NcmTransferBlock)
    (datagrams : RxBuffer → List DatagramPointer) {events : List (RxConcurrentEvent p f)}
    (haccepts : ∀ event ∈ events, Accepts ncmAdapter ntb.format datagrams event) :
    ∃ (s : RxPolling p f) (steps : List (SieveStep (List UInt8))),
      events.foldlM concurrentStep (started (waitingQueue ncmAdapter ntb [])) = .ok s ∧
      steps.filter SieveStep.isInput = events.flatMap (inputs ncmAdapter datagrams) ∧
      (steps.foldl Sieve.step (initialSieve ncmAdapter)).passed = copiedFrames s.rxQueue.log ∧
      (Asleep s → (steps.foldl Sieve.step (initialSieve ncmAdapter)).waiting = []) ∧
      ∀ low high : List UInt8 → Bool,
        Sieve.Between low high (initialSieve ncmAdapter)
            (events.flatMap (inputs ncmAdapter datagrams)) →
          (copiedFrames s.rxQueue.log).Sublist
            ((arrivedDatas ncmAdapter datagrams events).filter high) ∧
          (Asleep s → ((arrivedDatas ncmAdapter datagrams events).filter low).Sublist
            (copiedFrames s.rxQueue.log)) := by
  obtain ⟨s, steps, hrun, hinputs, hsimulates⟩ := (started_simulates ncmAdapter ntb).run haccepts
  obtain ⟨xs, -, hsieved⟩ := hsimulates.sieved
  refine ⟨s, steps, hrun, hinputs, hsieved.passed, hsimulates.asleep, fun low high hbetween => ?_⟩
  rw [← hinputs] at hbetween
  unfold arrivedDatas
  rw [← hinputs, Sieve.items_inputs]
  exact hsimulates.written hbetween

/-- The filter of an adapter that receives everything. -/
def promiscuous : NetReceiveFilter where
  packetFilter := ndisPacketTypePromiscuous
  multicastAddresses := []
  supported := by decide
  multicastAddresses_le := Nat.zero_le ncmMaxMcastList

/-- A completion notifies, and the loop goes on until it sleeps. -/
def untilAsleep : List (RxPollingEvent 1 1) :=
  [.exchange, .beginAdvance oneFree, .pass, .pass, .next, .beginAdvance oneFree, .pass, .pass, .next,
    .beginAdvance oneFree, .pass, .next]

def frameAndFilter : List (RxConcurrentEvent 1 1) :=
  .polling (.enqueue oneFrame .success) :: .setReceiveFilter promiscuous ::
    untilAsleep.map .polling

theorem frameAndFilter_accepts : ∀ event ∈ frameAndFilter,
    Accepts (exampleAdapter ndisPacketTypePromiscuous) .ntb16 (fun _ => [⟨12, 14⟩]) event := by
  unfold frameAndFilter untilAsleep
  simp only [List.map_cons, List.map_nil, List.forall_mem_cons]
  exact ⟨oneFrame_singleTable.contents, trivial, trivial, oneFree_suits, trivial, trivial, trivial,
    oneFree_suits, trivial, trivial, trivial, oneFree_suits, trivial, trivial, nofun⟩

theorem run_sieves_oneFrame :
    ∃ s, frameAndFilter.foldlM concurrentStep (started (waitingQueue
        (exampleAdapter ndisPacketTypePromiscuous) (NcmTransferBlock.initialBlock 16 4 4 0 false)
        [])) = .ok s ∧
      Asleep s ∧ copiedFrames s.rxQueue.log = [frameBytes oneFrame ⟨12, 14⟩] := by
  obtain ⟨s, steps, hrun, -, -, -, hwritten⟩ := run_sieves
    (exampleAdapter ndisPacketTypePromiscuous) (NcmTransferBlock.initialBlock 16 4 4 0 false)
    (fun _ => [⟨12, 14⟩]) frameAndFilter_accepts
  have hasleep : Asleep s := by
    cases hrun
    exact ⟨rfl, rfl, rfl⟩
  obtain ⟨hhigh, hlow⟩ := hwritten _ _ (Sieve.between_fixed fun wants hmem => by
    change SieveStep.set wants ∈
      [.arrive _, .set (initialSieve (exampleAdapter ndisPacketTypePromiscuous)).wants] at hmem
    simpa using hmem)
  refine ⟨s, hrun, hasleep, (hhigh.antisymm (hlow hasleep)).trans ?_⟩
  decide

end RxPolling

end UsbNcm.Adapter
