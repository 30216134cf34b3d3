import Mathlib.Algebra.GroupWithZero.Nat
import UsbNcm.Adapter.RxContents
import UsbNcm.Adapter.RxFill

/-!
# The receive path as a queue of frames

Buffers arrive and `Advance` is called, in any order. Seen from the rings the receive queue is a first
in, first out queue of frames.
-/

open Exec ByteMemory RingIndex UsbNcm.Ring UsbNcm.Ntb UsbNcm.Ntb.NcmTransferBlock

namespace UsbNcm.Adapter.NcmRxQueue

variable {p f : Nat} {q q' : NcmRxQueue} {b : RxBuffer} {d : DatagramPointer}
  {ds : List DatagramPointer} {xs ys : List (RxBuffer × List DatagramPointer)}

/-! ## Frames -/

def frameBytes (b : RxBuffer) (d : DatagramPointer) : List UInt8 :=
  (b.bytes.drop d.datagramIndex).take d.datagramLength

/-- The frames that the adapter wants, of these datagrams of the buffer. -/
def framesIn (ncmAdapter : NcmAdapter) (x : RxBuffer × List DatagramPointer) : List (List UInt8) :=
  (x.2.filter (ncmAdapter.wanted (ofBytes x.1.bytes))).map (frameBytes x.1)

/-- What is to be done with the buffer: its frames are copied, and then it is given back. -/
def actionsFor (ncmAdapter : NcmAdapter) (x : RxBuffer × List DatagramPointer) : List RxAction :=
  (framesIn ncmAdapter x).map .copied ++ [.returned x.1]

def copiedFrames (log : List RxAction) : List (List UInt8) :=
  log.filterMap fun action =>
    match action with
    | .copied data => some data
    | .returned _ => none

def returnedBuffers (log : List RxAction) : List RxBuffer :=
  log.filterMap fun action =>
    match action with
    | .copied _ => none
    | .returned b => some b

def InBuffers (xs : List (RxBuffer × List DatagramPointer)) : Prop :=
  ∀ x ∈ xs, ∀ d ∈ x.2, d.datagramIndex + d.datagramLength ≤ x.1.bytes.length

theorem readBytes_frameBytes (h : d.datagramIndex + d.datagramLength ≤ b.bytes.length) :
    readBytes (ofBytes b.bytes) d.datagramIndex d.datagramLength = .ok (frameBytes b d) := by
  have hlen : (frameBytes b d).length = d.datagramLength := by
    unfold frameBytes
    rw [List.length_take, List.length_drop]
    omega
  have hholds : Holds (ofBytes b.bytes) d.datagramIndex (frameBytes b d) := by
    intro i hi
    unfold ofBytes
    rw [List.getElem?_eq_getElem (by omega)]
    simp [frameBytes]
  have := readBytes_of_holds hholds
  rwa [hlen] at this

theorem InBuffers.tail {x : RxBuffer × List DatagramPointer} (h : InBuffers (x :: xs)) :
    InBuffers xs := fun y hy => h y (List.mem_cons_of_mem _ hy)

theorem InBuffers.drop (h : InBuffers ((b, d :: ds) :: xs)) : InBuffers ((b, ds) :: xs) := by
  intro x hx
  rcases List.mem_cons.mp hx with rfl | hx
  · exact fun d' hd' => h _ List.mem_cons_self d' (List.mem_cons_of_mem _ hd')
  · exact h x (List.mem_cons_of_mem _ hx)

theorem Passed.trans {q1 q2 : NcmRxQueue} {actions actions' : List RxAction}
    (h : Passed q q1 actions) (h' : Passed q1 q2 actions') : Passed q q2 (actions ++ actions') :=
  ⟨h'.ncmAdapter.trans h.ncmAdapter, h'.format.trans h.format, by
    rw [h'.log, h.log, List.append_assoc]⟩

/-! ## One call of `GetNextFrame` -/

def todo (q : NcmRxQueue) (xs : List (RxBuffer × List DatagramPointer)) : List RxAction :=
  xs.flatMap (actionsFor q.ncmAdapter)

theorem copiedFrames_todo (xs : List (RxBuffer × List DatagramPointer)) :
    copiedFrames (q.todo xs) = xs.flatMap (framesIn q.ncmAdapter) := by
  induction xs with
  | nil => rfl
  | cons x xs ih =>
    unfold todo copiedFrames at ih ⊢
    rw [List.flatMap_cons, List.filterMap_append, ih, List.flatMap_cons]
    simp [actionsFor, List.filterMap_map]

/-- How a call of `GetNextFrame` ends: all that is left is given back without a frame, or the next
frame is found. -/
inductive Answered (q : NcmRxQueue) (xs : List (RxBuffer × List DatagramPointer)) : Prop
  | noMore {q' : NcmRxQueue} :
    Returns getNextFrameBody q (.noMoreEntries, ⟨0, 0⟩, q') → Left q' [] →
      Passed q q' (q.todo xs) → copiedFrames (q.todo xs) = [] → Answered q xs
  | frame {q' : NcmRxQueue} {b : RxBuffer} {d : DatagramPointer} {ds : List DatagramPointer}
      {ys : List (RxBuffer × List DatagramPointer)} {actions : List RxAction} :
    Returns getNextFrameBody q (.success, d, q') → Left q' ((b, ds) :: ys) →
      InBuffers ((b, d :: ds) :: ys) → q'.ntb.buffer = ofBytes b.bytes →
      q.ncmAdapter.wanted (ofBytes b.bytes) d = true → Passed q q' actions →
      copiedFrames actions = [] →
      q.todo xs = actions ++ .copied (frameBytes b d) :: q.todo ((b, ds) :: ys) → Answered q xs

theorem Passed.todo {actions : List RxAction} (h : Passed q q' actions) : q'.todo = q.todo := by
  unfold NcmRxQueue.todo
  rw [h.ncmAdapter]

theorem Answered.of_again {actions : List RxAction} (hbody : getNextFrameBody q = .ok (.again q'))
    (hpassed : Passed q q' actions) (hnone : copiedFrames actions = [])
    (htodo : q.todo xs = actions ++ q'.todo ys) (h : Answered q' ys) : Answered q xs := by
  cases h with
  | noMore hreturns hleft hpassed' hnone' =>
    refine .noMore (.again hbody hreturns) hleft ?_ ?_
    · rw [htodo]
      exact hpassed.trans hpassed'
    · unfold copiedFrames at hnone hnone' ⊢
      rw [htodo, List.filterMap_append, hnone, hnone', List.append_nil]
  | frame hreturns hleft hin hbuffer hwanted hpassed' hnone' htodo' =>
    refine .frame (.again hbody hreturns) hleft hin hbuffer ?_ (hpassed.trans hpassed') ?_ ?_
    · rwa [hpassed.ncmAdapter] at hwanted
    · unfold copiedFrames at hnone hnone' ⊢
      rw [List.filterMap_append, hnone, hnone', List.append_nil]
    · rw [htodo, htodo', hpassed.todo, List.append_assoc]

theorem Left.answered (h : Left q xs) (hin : InBuffers xs) : Answered q xs := by
  induction xs generalizing q with
  | nil => exact .noMore (.leave h.body_nil) h ⟨rfl, rfl, (List.append_nil _).symm⟩ rfl
  | cons x xs ih =>
    obtain ⟨b, ds⟩ := x
    induction ds generalizing q with
    | nil =>
      obtain ⟨q1, hbody, hleft, hpassed⟩ := h.body_returns
      refine .of_again hbody hpassed rfl ?_ (ih hleft hin.tail)
      rw [hpassed.todo]
      rfl
    | cons d ds ihd =>
      obtain ⟨q1, hbody, hleft, hpassed, -, hbuffer⟩ := h.body_datagram
      cases hwanted : q.ncmAdapter.wanted (ofBytes b.bytes) d with
      | true =>
        rw [hwanted] at hbody
        refine .frame (.leave hbody) hleft hin hbuffer hwanted hpassed rfl ?_
        simp [todo, actionsFor, framesIn, hwanted]
      | false =>
        rw [hwanted] at hbody
        refine .of_again hbody hpassed rfl ?_ (ihd hleft hin.drop)
        rw [hpassed.todo]
        simp [todo, actionsFor, framesIn, hwanted]

/-! ## One call of `Advance` -/

/-- The rings have a packet for each free fragment, and fragments that hold any frame. -/
structure Suits (ncmAdapter : NcmAdapter) (osQueue : NcmOsQueue p f) : Prop where
  packets : count osQueue.fragmentRing.beginIndex osQueue.fragmentRing.endIndex ≤
    count osQueue.packetRing.beginIndex osQueue.packetRing.endIndex
  capacity : ∀ j ∈ range osQueue.fragmentRing.beginIndex osQueue.fragmentRing.endIndex,
    ncmAdapter.parameters.maxDatagramSize.toNat ≤
      (osQueue.fragmentRing.elements j).capacity.toNat

theorem putFrame_capacity (pi : NcmPacketIterator p f) (fi : NcmOsRingIterator f)
    (data : List UInt8) (j : BitVec f) :
    ((putFrame pi fi data).advance.osQueue.fragmentRing.elements j).capacity =
      (pi.osQueue.fragmentRing.elements j).capacity := by
  change (if j = fi.index then fillFragment _ data else _).capacity = _
  split
  next h => rw [h]; rfl
  next => rfl

theorem frameBytes_length (h : d.datagramIndex + d.datagramLength ≤ b.bytes.length) :
    (frameBytes b d).length = d.datagramLength := by
  unfold frameBytes
  rw [List.length_take, List.length_drop]
  omega

def copied (q : NcmRxQueue) (data : List UInt8) : NcmRxQueue :=
  { q with log := q.log ++ [.copied data] }

theorem Left.copied (h : Left q xs) (data : List UInt8) : Left (q.copied data) xs := by
  cases h with
  | waiting hnone hwaiting => exact .waiting hnone ⟨hwaiting.buffers, hwaiting.contents⟩
  | processing hprocessing hwaiting =>
    obtain ⟨hsome, hbuffer, hyields, hwants⟩ := hprocessing
    exact .processing ⟨hsome, hbuffer, hyields, hwants⟩ ⟨hwaiting.buffers, hwaiting.contents⟩

theorem passed_copied (q : NcmRxQueue) (data : List UInt8) :
    Passed q (q.copied data) [.copied data] := ⟨rfl, rfl, rfl⟩

theorem advanceLoop_of_frame {fuel n : Nat} {pi : NcmPacketIterator p f} {fi : NcmOsRingIterator f}
    (hcall : NcmRxQueue.getNextFrame fuel q = .ok (.success, d, q'))
    (hbuffer : q'.ntb.buffer = ofBytes b.bytes)
    (hle : d.datagramIndex + d.datagramLength ≤ b.bytes.length)
    (hwanted : q.ncmAdapter.wanted (ofBytes b.bytes) d = true)
    (hcapacity : q.ncmAdapter.parameters.maxDatagramSize.toNat ≤
      (pi.osQueue.fragmentRing.elements fi.index).capacity.toNat) :
    NcmRxQueue.advanceLoop fuel (n + 1) q pi fi =
      NcmRxQueue.advanceLoop fuel n (q'.copied (frameBytes b d))
        (putFrame pi fi (frameBytes b d)).advance fi.advance := by
  obtain ⟨hmin, hmax⟩ := NcmAdapter.wanted_size hwanted
  have hlen := frameBytes_length hle
  unfold sizeofEthernetHeader at hmin
  rw [NcmRxQueue.advanceLoop]
  simp only [hcall, ok_bind, if_true, if_neg (show d.datagramLength ≠ 0 by omega), hbuffer,
    readBytes_frameBytes hle, hlen]
  rw [if_neg (by omega)]
  rfl

theorem advanceLoop_of_noMore {fuel n : Nat} {pi : NcmPacketIterator p f}
    {fi : NcmOsRingIterator f} (hcall : NcmRxQueue.getNextFrame fuel q = .ok (.noMoreEntries, d, q')) :
    NcmRxQueue.advanceLoop fuel (n + 1) q pi fi = .ok (q', pi) := by
  rw [NcmRxQueue.advanceLoop]
  simp only [hcall, ok_bind]
  rfl

/-- The actions were taken from the front of what was left, and `ys` is what is left now. -/
structure Taken (q : NcmRxQueue) (xs : List (RxBuffer × List DatagramPointer))
    (actions : List RxAction) (q' : NcmRxQueue) (ys : List (RxBuffer × List DatagramPointer)) :
    Prop where
  left : Left q' ys
  inBuffers : InBuffers ys
  passed : Passed q q' actions
  todo : q.todo xs = actions ++ q.todo ys

theorem Taken.nothing (h : Left q xs) (hin : InBuffers xs) : Taken q xs [] q xs :=
  ⟨h, hin, ⟨rfl, rfl, (List.append_nil _).symm⟩, rfl⟩

theorem Taken.trans {q1 q2 : NcmRxQueue} {zs : List (RxBuffer × List DatagramPointer)}
    {actions actions' : List RxAction} (h : Taken q xs actions q1 ys)
    (h' : Taken q1 ys actions' q2 zs) : Taken q xs (actions ++ actions') q2 zs := by
  refine ⟨h'.left, h'.inBuffers, h.passed.trans h'.passed, ?_⟩
  have htodo := h'.todo
  rw [h.passed.todo] at htodo
  rw [h.todo, htodo, List.append_assoc]

theorem copiedFrames_append (log log' : List RxAction) :
    copiedFrames (log ++ log') = copiedFrames log ++ copiedFrames log' := by
  unfold copiedFrames
  exact List.filterMap_append

theorem Taken.frames {actions : List RxAction} (h : Taken q xs actions q' ys) :
    xs.flatMap (framesIn q.ncmAdapter) =
      copiedFrames actions ++ ys.flatMap (framesIn q.ncmAdapter) := by
  rw [← copiedFrames_todo, h.todo, copiedFrames_append, copiedFrames_todo]

/-- With enough passes for each call, the loop of `Advance` takes as many frames as there are
fragments, from the front of what is left. -/
theorem Left.advanceLoop (n : Nat) (h : Left q xs) (hin : InBuffers xs) :
    ∃ enough q' ys actions, Taken q xs actions q' ys ∧
      copiedFrames actions = (xs.flatMap (framesIn q.ncmAdapter)).take n ∧
      ∀ fuel, enough ≤ fuel → ∀ (pi : NcmPacketIterator p f) (fi : NcmOsRingIterator f),
        (∀ k < n, q.ncmAdapter.parameters.maxDatagramSize.toNat ≤
          (pi.osQueue.fragmentRing.elements (slot fi.index k)).capacity.toNat) →
        NcmRxQueue.advanceLoop fuel n q pi fi = .ok (q', fill pi fi (copiedFrames actions)) := by
  induction n generalizing q xs with
  | zero => exact ⟨0, q, xs, [], .nothing h hin, rfl, fun _ _ _ _ _ => rfl⟩
  | succ n ih =>
    cases h.answered hin with
    | @noMore q' hreturns hleft hpassed hnone =>
      obtain ⟨enough, hcall⟩ := loop_of_returns hreturns
      refine ⟨enough, q', [], q.todo xs, ⟨hleft, by simp [InBuffers], hpassed,
        (List.append_nil _).symm⟩, ?_, ?_⟩
      · rw [hnone, ← copiedFrames_todo, hnone, List.take_nil]
      · intro fuel hfuel pi fi _
        rw [hnone, advanceLoop_of_noMore (loop_mono hcall hfuel)]
        rfl
    | @frame q1 b d ds ys actions hreturns hleft hin1 hbuffer hwanted hpassed hnone htodo =>
      have hle := hin1 _ List.mem_cons_self d List.mem_cons_self
      have hfirst : Taken q xs (actions ++ [.copied (frameBytes b d)]) (q1.copied (frameBytes b d))
          ((b, ds) :: ys) :=
        ⟨hleft.copied _, hin1.drop, hpassed.trans (passed_copied q1 _), by
          rw [htodo, List.append_assoc]; rfl⟩
      have hcopied : copiedFrames (actions ++ [.copied (frameBytes b d)]) = [frameBytes b d] := by
        rw [copiedFrames_append, hnone]
        rfl
      obtain ⟨enough, hcall⟩ := loop_of_returns hreturns
      obtain ⟨enough', q2, zs, actions', hrest, htake, hloop⟩ := ih hfirst.left hfirst.inBuffers
      have hadapter := hfirst.passed.ncmAdapter
      refine ⟨max enough enough', q2, zs, _, hfirst.trans hrest, ?_, ?_⟩
      · rw [copiedFrames_append, hcopied, htake, hadapter, hfirst.frames, hcopied]
        rfl
      · intro fuel hfuel pi fi hcapacity
        have hroom := hcapacity 0 (by omega)
        rw [slot_zero] at hroom
        rw [advanceLoop_of_frame (loop_mono hcall (by omega)) hbuffer hle hwanted hroom,
          hloop fuel (by omega), copiedFrames_append, hcopied]
        · rfl
        · intro k hk
          rw [putFrame_capacity, show slot fi.advance.index k = slot fi.index (k + 1) from
            slot_succ fi.index k, hadapter]
          exact hcapacity (k + 1) (by omega)

theorem framesIn_length (ncmAdapter : NcmAdapter) (xs : List (RxBuffer × List DatagramPointer)) :
    ∀ data ∈ xs.flatMap (framesIn ncmAdapter), data.length < 2 ^ 16 := by
  intro data hdata
  obtain ⟨x, -, hdata⟩ := List.mem_flatMap.mp hdata
  obtain ⟨d, hd, rfl⟩ := List.mem_map.mp hdata
  have hmax := (NcmAdapter.wanted_size (List.mem_filter.mp hd).2).2
  have hlt := ncmAdapter.parameters.maxDatagramSize.toNat_lt
  have hle : (frameBytes x.1 d).length ≤ d.datagramLength := by
    unfold frameBytes
    rw [List.length_take]
    exact Nat.min_le_left _ _
  omega

/-- The number of fragments that the framework has freed. -/
def freeFragments (osQueue : NcmOsQueue p f) : Nat :=
  count osQueue.fragmentRing.beginIndex osQueue.fragmentRing.endIndex

/-- `Advance` takes as many frames as there are free fragments, and writes them as packets. -/
theorem Left.advance (h : Left q xs) (hin : InBuffers xs) {osQueue : NcmOsQueue p f}
    (hsuits : Suits q.ncmAdapter osQueue) :
    ∃ enough q' osQueue' ys actions, Taken q xs actions q' ys ∧
      copiedFrames actions = (xs.flatMap (framesIn q.ncmAdapter)).take (freeFragments osQueue) ∧
      written osQueue osQueue' = copiedFrames actions ∧
      consumed osQueue osQueue' = (copiedFrames actions).length ∧
      ∀ fuel, enough ≤ fuel → NcmRxQueue.advance fuel q osQueue = .ok (q', osQueue') := by
  obtain ⟨enough, q', ys, actions, htaken, htake, hloop⟩ :=
    h.advanceLoop (p := p) (f := f) (freeFragments osQueue) hin
  have hfree : freeFragments osQueue < 2 ^ f := count_lt _ _
  have hpackets : freeFragments osQueue < 2 ^ p := Nat.lt_of_le_of_lt hsuits.packets (count_lt _ _)
  have hle : (copiedFrames actions).length ≤ freeFragments osQueue := by
    rw [htake, List.length_take]
    exact Nat.min_le_left _ _
  have hsize : ∀ data ∈ copiedFrames actions, data.length < 2 ^ 26 := by
    intro data hdata
    rw [htake] at hdata
    exact Nat.lt_trans (framesIn_length _ _ data (List.mem_of_mem_take hdata)) (by decide)
  refine ⟨enough, q', filled osQueue (copiedFrames actions), ys, actions, htaken, htake,
    written_filled osQueue (by omega) (by omega) hsize,
    consumed_filled osQueue (by omega) (by omega) hsize, ?_⟩
  intro fuel hfuel
  have hcall := hloop fuel hfuel (ncmGetAllPackets osQueue) (ncmGetAllFragments osQueue) (by
    intro k hk
    apply hsuits.capacity
    rw [range, indicesFrom_eq]
    exact List.mem_map.mpr ⟨k, List.mem_range.mpr hk, rfl⟩)
  unfold NcmRxQueue.advance
  dsimp only
  rw [show (ncmGetAllFragments osQueue).getCount = freeFragments osQueue from rfl, hcall]
  rfl

/-! ## Arrivals and calls in any order -/

/-- What happens to the receive queue: a buffer arrives, or `Advance` is called with these rings. -/
inductive RxEvent (p f : Nat)
  | arrival (rxBuffer : RxBuffer)
  | advance (osQueue : NcmOsQueue p f)

/-- The queue at the end, and the rings before and after each `Advance`. -/
def run (fuel : Nat) : NcmRxQueue → List (RxEvent p f) →
    Except Stop (NcmRxQueue × List (NcmOsQueue p f × NcmOsQueue p f))
  | q, [] => .ok (q, [])
  | q, .arrival b :: events => run fuel (q.rxBufferQueueEnqueueBuffer b) events
  | q, .advance osQueue :: events => do
    let (q, osQueue') ← q.advance fuel osQueue
    let (q, rings) ← run fuel q events
    return (q, (osQueue, osQueue') :: rings)

def arrivals (events : List (RxEvent p f)) : List RxBuffer :=
  events.filterMap fun event =>
    match event with
    | .arrival b => some b
    | .advance _ => none

/-- A first in, first out queue of frames: what comes out at each `Advance`. -/
def frameQueue (framesOf : RxBuffer → List (List UInt8)) :
    List (List UInt8) → List (RxEvent p f) → List (List (List UInt8))
  | _, [] => []
  | waiting, .arrival b :: events => frameQueue framesOf (waiting ++ framesOf b) events
  | waiting, .advance osQueue :: events =>
    waiting.take (freeFragments osQueue) ::
      frameQueue framesOf (waiting.drop (freeFragments osQueue)) events

theorem Left.enqueue (h : Left q xs) (hcontents : Contents q.ntb.format b.bytes ds) :
    Left (q.rxBufferQueueEnqueueBuffer b) (xs ++ [(b, ds)]) := by
  have happend : ∀ ys, q.Waiting ys → (q.rxBufferQueueEnqueueBuffer b).Waiting (ys ++ [(b, ds)]) := by
    intro ys hwaiting
    refine ⟨by rw [List.map_append, hwaiting.buffers]; rfl, ?_⟩
    intro x hx
    rcases List.mem_append.mp hx with hx | hx
    · exact hwaiting.contents x hx
    · rw [List.mem_singleton.mp hx]
      exact hcontents
  cases h with
  | waiting hnone hwaiting => exact .waiting hnone (happend _ hwaiting)
  | processing hprocessing hwaiting =>
    obtain ⟨hsome, hbuffer, hyields, hwants⟩ := hprocessing
    exact .processing ⟨hsome, hbuffer, hyields, hwants⟩ (happend _ hwaiting)

def arrived (datagrams : RxBuffer → List DatagramPointer) (events : List (RxEvent p f)) :
    List (RxBuffer × List DatagramPointer) :=
  (arrivals events).map fun b => (b, datagrams b)

/-- What was left of `q` and the events have led to `q'` with `ys` left. -/
structure Ran (datagrams : RxBuffer → List DatagramPointer) (q : NcmRxQueue)
    (xs : List (RxBuffer × List DatagramPointer)) (events : List (RxEvent p f)) (q' : NcmRxQueue)
    (rings : List (NcmOsQueue p f × NcmOsQueue p f)) (ys : List (RxBuffer × List DatagramPointer))
    (actions : List RxAction) : Prop where
  left : Left q' ys
  passed : Passed q q' actions
  todo : q.todo (xs ++ arrived datagrams events) = actions ++ q.todo ys
  copied : copiedFrames actions = rings.flatMap fun r => written r.1 r.2
  -- the receive queue does what the queue of frames does
  packets : rings.map (fun r => written r.1 r.2) =
    frameQueue (fun b => framesIn q.ncmAdapter (b, datagrams b))
      (xs.flatMap (framesIn q.ncmAdapter)) events
  consumed_eq : ∀ r ∈ rings, consumed r.1 r.2 = (written r.1 r.2).length

section Ran

variable {datagrams : RxBuffer → List DatagramPointer} {events : List (RxEvent p f)}
  {rings : List (NcmOsQueue p f × NcmOsQueue p f)} {actions : List RxAction}

theorem Ran.nothing (h : Left q xs) : Ran (p := p) (f := f) datagrams q xs [] q [] xs [] := by
  refine ⟨h, ⟨rfl, rfl, (List.append_nil _).symm⟩, ?_, rfl, rfl, by simp⟩
  simp [arrived, arrivals]

theorem Ran.arrival (h : Ran datagrams (q.rxBufferQueueEnqueueBuffer b) (xs ++ [(b, datagrams b)])
      events q' rings ys actions) :
    Ran datagrams q xs (.arrival b :: events) q' rings ys actions := by
  refine ⟨h.left, ⟨h.passed.ncmAdapter, h.passed.format, h.passed.log⟩, ?_, h.copied, ?_,
    h.consumed_eq⟩
  · have htodo := h.todo
    rw [List.append_assoc] at htodo
    exact htodo
  · rw [h.packets, List.flatMap_append, List.flatMap_singleton]
    rfl

theorem Ran.advance {q1 : NcmRxQueue} {zs : List (RxBuffer × List DatagramPointer)}
    {actions' : List RxAction} {osQueue osQueue' : NcmOsQueue p f}
    (htaken : Taken q xs actions q1 ys)
    (htake : copiedFrames actions =
      (xs.flatMap (framesIn q.ncmAdapter)).take (freeFragments osQueue))
    (hout : written osQueue osQueue' = copiedFrames actions)
    (hcount : consumed osQueue osQueue' = (copiedFrames actions).length)
    (h : Ran datagrams q1 ys events q' rings zs actions') :
    Ran datagrams q xs (.advance osQueue :: events) q' ((osQueue, osQueue') :: rings) zs
      (actions ++ actions') := by
  refine ⟨h.left, htaken.passed.trans h.passed, ?_, ?_, ?_, ?_⟩
  · have hfirst := htaken.todo
    have hrest := h.todo
    rw [htaken.passed.todo] at hrest
    unfold NcmRxQueue.todo at hfirst hrest ⊢
    rw [List.flatMap_append] at hrest ⊢
    rw [hfirst, List.append_assoc]
    change _ ++ (_ ++ (arrived datagrams events).flatMap _) = _
    rw [hrest, List.append_assoc]
  · rw [copiedFrames_append, h.copied, List.flatMap_cons, hout]
  · rw [List.map_cons, h.packets, hout, htake, htaken.passed.ncmAdapter]
    have hrest : ys.flatMap (framesIn q.ncmAdapter) =
        (xs.flatMap (framesIn q.ncmAdapter)).drop (freeFragments osQueue) := by
      have hall := htaken.frames
      rw [htake] at hall
      exact List.append_cancel_left (hall.symm.trans (List.take_append_drop _ _).symm)
    rw [hrest]
    rfl
  · intro r hr
    rcases List.mem_cons.mp hr with rfl | hr
    · rw [hcount, hout]
    · exact h.consumed_eq r hr

end Ran

theorem Left.run (events : List (RxEvent p f)) (datagrams : RxBuffer → List DatagramPointer)
    (h : Left q xs) (hin : InBuffers xs)
    (harrivals : ∀ b, .arrival b ∈ events → Contents q.ntb.format b.bytes (datagrams b))
    (hrings : ∀ osQueue, .advance osQueue ∈ events → Suits q.ncmAdapter osQueue) :
    ∃ enough q' rings ys actions, Ran datagrams q xs events q' rings ys actions ∧
      ∀ fuel, enough ≤ fuel → NcmRxQueue.run fuel q events = .ok (q', rings) := by
  induction events generalizing q xs with
  | nil => exact ⟨0, q, [], xs, [], .nothing h, fun _ _ => rfl⟩
  | cons event events ih =>
    have harrivals' : ∀ b, RxEvent.arrival b ∈ events → Contents q.ntb.format b.bytes (datagrams b) :=
      fun b hb => harrivals b (List.mem_cons_of_mem _ hb)
    have hrings' : ∀ osQueue, RxEvent.advance osQueue ∈ events → Suits q.ncmAdapter osQueue :=
      fun osQueue hos => hrings osQueue (List.mem_cons_of_mem _ hos)
    cases event with
    | arrival b =>
      have hcontents := harrivals b List.mem_cons_self
      have hin' : InBuffers (xs ++ [(b, datagrams b)]) := by
        intro x hx
        rcases List.mem_append.mp hx with hx | hx
        · exact hin x hx
        · rw [List.mem_singleton.mp hx]
          exact fun d hd => hcontents.inBuffer hd
      obtain ⟨enough, q', rings, ys, actions, hran, hrun⟩ :=
        ih (h.enqueue hcontents) hin' harrivals' hrings'
      exact ⟨enough, q', rings, ys, actions, hran.arrival, hrun⟩
    | advance osQueue =>
      obtain ⟨enough, q1, osQueue', ys, actions, htaken, htake, hout, hcount, hcall⟩ :=
        h.advance hin (hrings osQueue List.mem_cons_self)
      rw [← htaken.passed.format] at harrivals'
      rw [← htaken.passed.ncmAdapter] at hrings'
      obtain ⟨enough', q2, rings, zs, actions', hran, hrun⟩ :=
        ih htaken.left htaken.inBuffers harrivals' hrings'
      refine ⟨max enough enough', q2, (osQueue, osQueue') :: rings, zs, actions ++ actions',
        .advance htaken htake hout hcount hran, ?_⟩
      intro fuel hfuel
      rw [NcmRxQueue.run, hcall fuel (by omega), ok_bind]
      dsimp only
      rw [hrun fuel (by omega)]
      rfl

/-! ## The result -/

/-- A buffer that is refused, or that holds an accepted NTB of one table, with these datagrams. -/
def SingleTable (fmt : NtbFormat) (b : RxBuffer) (ds : List DatagramPointer) : Prop :=
  (Rejected fmt b.bytes ∧ ds = []) ∨
    ∃ blockLength first, NthHeader fmt (ofBytes b.bytes) b.bytes.length blockLength first ∧
      NdpTable fmt (ofBytes b.bytes) blockLength first ds 0

theorem SingleTable.contents {fmt : NtbFormat} (h : SingleTable fmt b ds) :
    Contents fmt b.bytes ds := by
  rcases h with h | ⟨blockLength, first, hheader, htable⟩
  · exact Or.inl h
  · exact Or.inr ⟨blockLength, first, 0, ds, [], hheader, htable, .last, (List.append_nil ds).symm⟩

/-- What has become of the arrivals when the queue and the rings are these. -/
structure Delivered (ncmAdapter : NcmAdapter) (datagrams : RxBuffer → List DatagramPointer)
    (events : List (RxEvent p f)) (q : NcmRxQueue) (rings : List (NcmOsQueue p f × NcmOsQueue p f)) :
    Prop where
  -- the packets are the first frames of the arrivals, one for each fragment consumed
  written_eq : rings.flatMap (fun r => written r.1 r.2) =
    ((arrived datagrams events).flatMap (framesIn ncmAdapter)).take
      (rings.map fun r => consumed r.1 r.2).sum
  written_length : (rings.flatMap fun r => written r.1 r.2).length =
    (rings.map fun r => consumed r.1 r.2).sum
  -- each call goes on where the one before it stopped, and stops early only without frames
  frameQueue_eq : rings.map (fun r => written r.1 r.2) =
    frameQueue (fun b => framesIn ncmAdapter (b, datagrams b)) [] events
  -- every buffer is given back once, behind the last of its frames
  order : q.log <+: (arrived datagrams events).flatMap (actionsFor ncmAdapter)
  copied : copiedFrames q.log = rings.flatMap fun r => written r.1 r.2
  buffers : returnedBuffers q.log ++ (q.rxBufferInProcessing.toList ++ q.rxBufferQueue) =
    arrivals events

theorem returnedBuffers_todo (ncmAdapter : NcmAdapter)
    (xs : List (RxBuffer × List DatagramPointer)) :
    returnedBuffers (xs.flatMap (actionsFor ncmAdapter)) = xs.map Prod.fst := by
  induction xs with
  | nil => rfl
  | cons x xs ih =>
    unfold returnedBuffers at ih ⊢
    rw [List.flatMap_cons, List.filterMap_append, ih]
    simp [actionsFor, List.filterMap_map]

/-- However the arrivals and the calls of `Advance` are interleaved, the packets that the framework
gets are the wanted frames of the arrivals, each once and in order. -/
theorem advance_delivers (ncmAdapter : NcmAdapter) (ntb : NcmTransferBlock)
    (events : List (RxEvent p f)) (datagrams : RxBuffer → List DatagramPointer)
    (harrivals : ∀ b, .arrival b ∈ events → SingleTable ntb.format b (datagrams b))
    (hrings : ∀ osQueue, .advance osQueue ∈ events → Suits ncmAdapter osQueue) :
    ∃ enough q rings, Delivered ncmAdapter datagrams events q rings ∧
      ∀ fuel, enough ≤ fuel →
        run fuel (waitingQueue ncmAdapter ntb []) events = .ok (q, rings) := by
  have hleft : Left (waitingQueue ncmAdapter ntb []) [] := .waiting rfl ⟨rfl, by simp⟩
  obtain ⟨enough, q, rings, ys, actions, hran, hrun⟩ :=
    hleft.run events datagrams (by simp [InBuffers]) (fun b hb => (harrivals b hb).contents) hrings
  have htodo := hran.todo
  have hlog : q.log = actions := hran.passed.log
  have hall : (arrived datagrams events).flatMap (actionsFor ncmAdapter) =
      q.log ++ ys.flatMap (actionsFor ncmAdapter) := by
    rw [hlog]
    exact htodo
  have hsum : (rings.flatMap fun r => written r.1 r.2).length =
      (rings.map fun r => consumed r.1 r.2).sum := by
    rw [List.length_flatMap]
    congr 1
    exact List.map_congr_left fun r hr => (hran.consumed_eq r hr).symm
  refine ⟨enough, q, rings, ⟨?_, hsum, hran.packets, ⟨_, hall.symm⟩, by rw [hlog, hran.copied], ?_⟩,
    hrun⟩
  · have hframes := congrArg copiedFrames htodo
    rw [copiedFrames_append, copiedFrames_todo, copiedFrames_todo, hran.copied] at hframes
    change (arrived datagrams events).flatMap (framesIn ncmAdapter) = _ at hframes
    rw [hframes, ← hsum, List.take_left]
  · have hreturned := congrArg returnedBuffers hall
    unfold returnedBuffers at hreturned ⊢
    rw [List.filterMap_append] at hreturned
    have h1 := returnedBuffers_todo ncmAdapter (arrived datagrams events)
    have h2 := returnedBuffers_todo ncmAdapter ys
    unfold returnedBuffers at h1 h2
    rw [h1, h2, hran.left.buffers] at hreturned
    rw [← hreturned, arrived, List.map_map]
    exact List.map_id _

/-- An NTB with one frame, of 14 bytes. -/
def oneFrame : RxBuffer where
  handle := 1
  useContinuousRequestTarget := true
  bytes :=
    [0x4E, 0x43, 0x4D, 0x48, 12, 0, 0, 0, 28, 0, 12, 0,
      0x4E, 0x43, 0x4D, 0x30, 16, 0, 0, 0, 12, 0, 14, 0, 0, 0, 0, 0]
  bytes_lt := by decide

def shortBuffer : RxBuffer where
  handle := 0
  useContinuousRequestTarget := true
  bytes := [0x4E, 0x43]
  bytes_lt := by decide

def oneFree : NcmOsQueue 1 1 where
  packetRing :=
    { beginIndex := 1
      endIndex := 0
      elements := fun _ => { fragmentIndex := 0, fragmentCount := 0, ignore := false } }
  fragmentRing :=
    { beginIndex := 0
      endIndex := 1
      elements := fun _ =>
        { capacity := 9014, validLength := 0, offset := 0, virtualAddress := fun _ => 0 } }

theorem oneFree_suits : Suits (exampleAdapter ndisPacketTypePromiscuous) oneFree :=
  ⟨by decide, fun j _ => Nat.le_of_eq rfl⟩

theorem advance_delivers_oneFrame :
    ∃ enough q rings, Delivered (exampleAdapter ndisPacketTypePromiscuous)
        (fun b => if b = oneFrame then [⟨12, 14⟩] else [])
        [.arrival shortBuffer, .advance oneFree, .arrival oneFrame, .advance oneFree] q rings ∧
      ∀ fuel, enough ≤ fuel →
        run fuel (waitingQueue (exampleAdapter ndisPacketTypePromiscuous)
            (initialBlock 16 4 4 0 false) [])
          [.arrival shortBuffer, .advance oneFree, .arrival oneFrame, .advance oneFree] =
            .ok (q, rings) := by
  apply advance_delivers
  · intro b hb
    simp only [List.mem_cons, RxEvent.arrival.injEq, reduceCtorEq, List.not_mem_nil, or_false,
      false_or] at hb
    rcases hb with rfl | rfl
    · rw [if_neg (by decide)]
      exact Or.inl ⟨Or.inl rfl, rfl⟩
    · rw [if_pos rfl]
      refine Or.inr ⟨28, 12, ⟨by decide, rfl, rfl, ⟨28, rfl, by decide, rfl⟩, rfl⟩,
        ⟨⟨by decide, by decide⟩, rfl, ⟨16, rfl, by decide, by decide, by decide, ?_⟩, rfl,
          Or.inl rfl⟩⟩
      exact .entry (by decide) ⟨rfl, rfl⟩ ⟨by decide, by decide, by decide⟩
        (.null (by decide) ⟨0, rfl, Or.inl rfl⟩)
  · intro osQueue hos
    simp only [List.mem_cons, RxEvent.advance.injEq, reduceCtorEq, List.not_mem_nil, or_false,
      false_or, or_self] at hos
    subst hos
    exact oneFree_suits

end UsbNcm.Adapter.NcmRxQueue
