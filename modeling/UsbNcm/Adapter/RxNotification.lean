import UsbNcm.Adapter.RxContents
import UsbNcm.Lib.Run

/-!
# Does the receive queue wake up

Completions put buffers into the queue while the framework polls it. A completion has two steps, and
the loop of the framework sleeps only after it has armed the notification and polled once more.
-/

open Exec ByteMemory UsbNcm.Ring UsbNcm.Ntb

namespace UsbNcm.Adapter

/-- The framework's loop. `armed` says that SetNotificationEnabled(TRUE) was called before this
Advance, and `progress` that it has received a frame. -/
inductive PollLoop (p f : Nat)
  -- to call Advance
  | polling (armed : Bool)
  -- in Advance, with `n` fragments left
  | advancing (armed progress : Bool) (n : Nat) (pi : NcmPacketIterator p f)
    (fi : NcmOsRingIterator f)
  -- Advance has returned, with a free fragment left or not
  | advanced (armed progress freeFragment : Bool)
  | sleeping (freeFragment : Bool)

structure RxPolling (p f : Nat) where
  rxQueue : NcmRxQueue
  notificationEnabled : Bool
  -- NetRxQueueNotifyMoreReceivedPacketsAvailable was called since the notification was armed
  notified : Bool
  -- calls of NotifyReceive that have enqueued a buffer and have not exchanged the flag
  notifying : Nat
  loop : PollLoop p f

inductive RxPollingEvent (p f : Nat)
  -- the two steps of NotifyReceive, the first with what DMF_BufferQueue_Fetch returns
  | enqueue (rxBuffer : RxBuffer) (fetched : NtStatus)
  | exchange
  -- Advance begins, and makes a pass of GetNextFrame with what comes of it
  | beginAdvance (osQueue : NcmOsQueue p f)
  | pass
  -- what the loop does when Advance has returned
  | next
  | wake

namespace RxPolling

open NcmRxQueue

variable {p f : Nat} {s s' : RxPolling p f} {event : RxPollingEvent p f}

def started (rxQueue : NcmRxQueue) : RxPolling p f where
  rxQueue := rxQueue
  notificationEnabled := false
  notified := false
  notifying := 0
  loop := .polling false

/-- The first step of a completion. -/
def enqueue (s : RxPolling p f) (rxBuffer : RxBuffer) (fetched : NtStatus) : RxPolling p f :=
  { s with
    rxQueue :=
      if fetched.ntSuccess then s.rxQueue.rxBufferQueueEnqueueBuffer rxBuffer else s.rxQueue
    notifying := s.notifying + 1 }

/-- The second step of a completion. -/
def exchange (s : RxPolling p f) : RxPolling p f :=
  if s.notifying = 0 then s
  else
    { s with
      notificationEnabled := false
      notified := s.notificationEnabled || s.notified
      notifying := s.notifying - 1 }

def setNotificationEnabled (s : RxPolling p f) : RxPolling p f :=
  { s with notificationEnabled := true, notified := false }

/-- A pass of the loop of `advanceLoop`, or of `getNextFrame` in it. -/
def pass (s : RxPolling p f) : Except Stop (RxPolling p f) :=
  match s.loop with
  | .advancing armed progress 0 _ _ => .ok { s with loop := .advanced armed progress false }
  | .advancing armed progress (n + 1) pi fi => do
    match ← s.rxQueue.getNextFrameBody with
    | .again q => return { s with rxQueue := q }
    | .leave (status, frame, q) =>
      if status = .success then
        if frame.datagramLength = 0 then throw .assertion
        let data ← readBytes q.ntb.buffer frame.datagramIndex frame.datagramLength
        if data.length > (pi.osQueue.fragmentRing.elements fi.index).capacity.toNat then
          throw .access
        return { s with
          rxQueue := { q with log := q.log ++ [.copied data] }
          loop := .advancing armed true n (putFrame pi fi data).advance fi.advance }
      else return { s with rxQueue := q, loop := .advanced armed progress true }
  | _ => .ok s

/-- It polls until there is no progress, arms the notification, polls once more, and sleeps if there
was no progress and no notification. -/
def next (s : RxPolling p f) : RxPolling p f :=
  match s.loop with
  | .advanced false false _ => { s.setNotificationEnabled with loop := .polling true }
  | .advanced true false freeFragment =>
    { s with loop := if s.notified then .polling false else .sleeping freeFragment }
  | .advanced _ true _ => { s with loop := .polling false }
  | _ => s

def step (s : RxPolling p f) : RxPollingEvent p f → Except Stop (RxPolling p f)
  | .enqueue rxBuffer fetched => .ok (s.enqueue rxBuffer fetched)
  | .exchange => .ok s.exchange
  | .beginAdvance osQueue =>
    let pi := ncmGetAllPackets osQueue
    let fi := ncmGetAllFragments osQueue
    .ok
      (match s.loop with
      | .polling armed => { s with loop := .advancing armed false fi.getCount pi fi }
      | _ => s)
  | .pass => s.pass
  | .next => .ok s.next
  | .wake =>
    .ok
      (match s.loop with
      | .sleeping _ => if s.notified then { s with notified := false, loop := .polling false } else s
      | _ => s)

/-- There is a buffer, and nobody will tell the loop. -/
structure Stalled (s : RxPolling p f) : Prop where
  sleeping : s.loop = .sleeping true
  notified : s.notified = false
  notifying : s.notifying = 0
  buffers : s.rxQueue.rxBufferQueue ≠ [] ∨ s.rxQueue.rxBufferInProcessing ≠ none

/-! ## The passes are Advance -/

variable {armed progress : Bool} {n fuel : Nat} {pi pi' : NcmPacketIterator p f}
  {fi : NcmOsRingIterator f} {q q' : NcmRxQueue}

/-- The passes that go round again, up to the one that leaves the loop of `GetNextFrame`. -/
theorem passes_of_returns {r : NtStatus × DatagramPointer × NcmRxQueue}
    (h : Returns getNextFrameBody q r) (hqueue : s.rxQueue = q)
    (hloop : s.loop = .advancing armed progress (n + 1) pi fi) :
    ∃ m q1, getNextFrameBody q1 = .ok (.leave r) ∧
      (List.replicate m .pass).foldlM step s = .ok { s with rxQueue := q1 } := by
  induction h generalizing s with
  | leave hbody =>
    refine ⟨0, _, hbody, ?_⟩
    rw [← hqueue]
    rfl
  | @again q q2 r hbody _ ih =>
    obtain ⟨m, q1, hleave, hpasses⟩ := ih (s := { s with rxQueue := q2 }) rfl hloop
    refine ⟨m + 1, q1, hleave, ?_⟩
    have hpass : s.step .pass = .ok { s with rxQueue := q2 } := by
      change s.pass = _
      unfold pass
      simp only [hloop, hqueue, hbody, ok_bind]
      rfl
    rw [List.replicate_succ, List.foldlM_cons, hpass, ok_bind]
    exact hpasses

theorem passes_of_advanceLoop (h : advanceLoop fuel n q pi fi = .ok (q', pi'))
    (hqueue : s.rxQueue = q) (hloop : s.loop = .advancing armed progress n pi fi) :
    ∃ m progress' freeFragment, (List.replicate m .pass).foldlM step s =
      .ok { s with rxQueue := q', loop := .advanced armed progress' freeFragment } := by
  induction n generalizing q pi fi progress s with
  | zero =>
    cases h
    refine ⟨1, progress, false, ?_⟩
    change s.pass >>= pure = _
    unfold pass
    rw [hloop, ← hqueue]
    rfl
  | succ n ih =>
    unfold advanceLoop at h
    obtain ⟨⟨status, frame, q2⟩, hcall, h⟩ := bind_eq_ok.mp h
    obtain ⟨m, q1, hleave, hpasses⟩ := passes_of_returns (returns_of_loop hcall) hqueue hloop
    dsimp only at h
    split at h
    next hstatus =>
      split at h
      next => cases h
      next hlength =>
        obtain ⟨data, hdata, h⟩ := bind_eq_ok.mp h
        split at h
        next => cases h
        next hcapacity =>
          have hpass : RxPolling.step { s with rxQueue := q1 } .pass = .ok
              { s with
                rxQueue := { q2 with log := q2.log ++ [.copied data] }
                loop := .advancing armed true n (putFrame pi fi data).advance fi.advance } := by
            change RxPolling.pass _ = _
            unfold pass
            simp only [hloop, hleave, ok_bind, hstatus, if_true, hlength, if_false, hdata,
              hcapacity]
            rfl
          obtain ⟨m', progress', freeFragment, hrest⟩ := ih (s :=
            { s with
              rxQueue := { q2 with log := q2.log ++ [.copied data] }
              loop := .advancing armed true n (putFrame pi fi data).advance fi.advance }) h rfl rfl
          refine ⟨m + (m' + 1), progress', freeFragment, ?_⟩
          rw [List.replicate_add, List.foldlM_append, hpasses, ok_bind, List.replicate_succ,
            List.foldlM_cons, hpass, ok_bind, hrest]
    next hstatus =>
      cases h
      have hpass : RxPolling.step { s with rxQueue := q1 } .pass = .ok
          { s with rxQueue := q', loop := .advanced armed progress true } := by
        change RxPolling.pass _ = _
        unfold pass
        simp only [hloop, hleave, ok_bind, hstatus, if_false]
        rfl
      refine ⟨m + 1, progress, true, ?_⟩
      rw [List.replicate_add, List.foldlM_append, hpasses, ok_bind]
      change RxPolling.step _ _ >>= pure = _
      rw [hpass, ok_bind]
      rfl

/-- Without a completion in between, what the passes do is `advance`. -/
theorem passes_of_advance {osQueue osQueue' : NcmOsQueue p f}
    (h : s.rxQueue.advance fuel osQueue = .ok (q', osQueue')) (hloop : s.loop = .polling armed) :
    ∃ m progress freeFragment,
      (.beginAdvance osQueue :: List.replicate m .pass).foldlM step s =
        .ok { s with rxQueue := q', loop := .advanced armed progress freeFragment } := by
  unfold NcmRxQueue.advance at h
  obtain ⟨⟨q1, pi⟩, hadvance, h⟩ := bind_eq_ok.mp h
  cases h
  have hbegin : s.step (.beginAdvance osQueue) = .ok
      { s with
        loop := .advancing armed false (ncmGetAllFragments osQueue).getCount
          (ncmGetAllPackets osQueue) (ncmGetAllFragments osQueue) } := by
    unfold step
    rw [hloop]
  obtain ⟨m, progress, freeFragment, hpasses⟩ := passes_of_advanceLoop (s :=
    { s with
      loop := .advancing armed false (ncmGetAllFragments osQueue).getCount
        (ncmGetAllPackets osQueue) (ncmGetAllFragments osQueue) }) hadvance rfl rfl
  refine ⟨m, progress, freeFragment, ?_⟩
  rw [List.foldlM_cons, hbegin, ok_bind, hpasses]

/-! ## The invariant -/

def isArmed : PollLoop p f → Bool
  | .polling armed | .advancing armed .. | .advanced armed .. => armed
  | .sleeping _ => true

/-- The Advance since the notification was armed has ended for want of buffers. -/
def foundEmpty : PollLoop p f → Bool
  | .advanced true _ freeFragment | .sleeping freeFragment => freeFragment
  | _ => false

structure Wakeful (s : RxPolling p f) : Prop where
  enabled : isArmed s.loop = true → s.notificationEnabled = true ∨ s.notified = true
  rxBufferInProcessing : foundEmpty s.loop = true → s.rxQueue.rxBufferInProcessing = none
  /-- A buffer that came since then is one of a completion that will notify, or has notified. -/
  rxBufferQueue : foundEmpty s.loop = true → s.rxQueue.rxBufferQueue ≠ [] →
    0 < s.notifying ∨ s.notified = true

theorem Wakeful.not_stalled (h : Wakeful s) : ¬ Stalled s := by
  rintro ⟨hsleeping, hnotified, hnotifying, hbuffers⟩
  have hempty : foundEmpty s.loop = true := by
    rw [hsleeping]
    rfl
  rcases hbuffers with hqueue | hprocessing
  · rcases h.rxBufferQueue hempty hqueue with hpos | hnotify
    · omega
    · rw [hnotified] at hnotify
      cases hnotify
  · exact hprocessing (h.rxBufferInProcessing hempty)

/-- The loop is where nothing is claimed of the queue. -/
theorem wakeful_of_busy (henabled : isArmed s.loop = true → s.notificationEnabled = true ∨ s.notified = true)
    (hbusy : foundEmpty s.loop = false) : Wakeful s := by
  refine ⟨henabled, fun hempty => ?_, fun hempty => ?_⟩
  · rw [hbusy] at hempty
    cases hempty
  · rw [hbusy] at hempty
    cases hempty

theorem enqueue_wakeful (h : Wakeful s) (rxBuffer : RxBuffer) (fetched : NtStatus) :
    Wakeful (s.enqueue rxBuffer fetched) := by
  refine ⟨h.enabled, fun hempty => ?_, fun _ _ => Or.inl (Nat.succ_pos _)⟩
  have hnone := h.rxBufferInProcessing hempty
  unfold enqueue
  split <;> exact hnone

theorem exchange_wakeful (h : Wakeful s) : Wakeful s.exchange := by
  unfold exchange
  split
  next => exact h
  next =>
    -- the flag that is consumed was set, or somebody has consumed it before
    have hnotify : isArmed s.loop = true → (s.notificationEnabled || s.notified) = true := by
      intro harmed
      rw [Bool.or_eq_true]
      exact h.enabled harmed
    refine ⟨fun harmed => Or.inr (hnotify harmed), h.rxBufferInProcessing, fun hempty _ => ?_⟩
    apply Or.inr
    apply hnotify
    revert hempty
    dsimp only
    cases s.loop with
    | advanced armed progress freeFragment => cases armed <;> simp [foundEmpty, RxPolling.isArmed]
    | sleeping freeFragment => exact fun _ => rfl
    | polling armed => exact nofun
    | advancing armed progress n pi fi => exact nofun

/-! ## The end of Advance -/

theorem getNextFrameBody_noMore {status : NtStatus} {frame : DatagramPointer} {q q' : NcmRxQueue}
    (h : q.getNextFrameBody = .ok (.leave (status, frame, q'))) (hstatus : status ≠ .success) :
    q'.rxBufferInProcessing = none ∧ q'.rxBufferQueue = [] := by
  have hframe : ∀ (q1 : NcmRxQueue) rxBuffer,
      q1.nextFrame rxBuffer ≠ .ok (.leave (status, frame, q')) := by
    intro q1 rxBuffer hnext
    obtain ⟨status1, frame1, tb, -, ⟨-, hpass⟩ | ⟨-, wants, -, hpass⟩⟩ := nextFrame_cases hnext
    · cases hpass
    · split at hpass
      · cases hpass
        exact hstatus rfl
      · cases hpass
  rcases getNextFrameBody_cases h with ⟨rxBuffer, -, h⟩ | ⟨hprocessing, hqueue, h⟩ |
    ⟨rxBuffer, rest, status1, tb, -, -, -, ⟨-, h⟩ | ⟨-, h⟩⟩
  · exact absurd h (hframe q rxBuffer)
  · cases h
    exact ⟨hprocessing, hqueue⟩
  · exact absurd h (hframe _ rxBuffer)
  · cases h

theorem pass_wakeful (h : Wakeful s) (hpass : s.pass = .ok s') : Wakeful s' := by
  have henabled := h.enabled
  unfold pass at hpass
  split at hpass
  next armed progress pi fi hloop =>
    cases hpass
    rw [hloop] at henabled
    apply wakeful_of_busy henabled
    cases armed <;> rfl
  next armed progress n pi fi hloop =>
    rw [hloop] at henabled
    obtain ⟨pass, hbody, hpass⟩ := bind_eq_ok.mp hpass
    split at hpass
    next q =>
      cases hpass
      refine wakeful_of_busy ?_ ?_
      · dsimp only
        rw [hloop]
        exact henabled
      · dsimp only
        rw [hloop]
        rfl
    next status frame q =>
      split at hpass
      next =>
        split at hpass
        · cases hpass
        · obtain ⟨data, -, hpass⟩ := bind_eq_ok.mp hpass
          dsimp only at hpass
          split at hpass
          · cases hpass
          · cases hpass
            exact wakeful_of_busy henabled rfl
      next hstatus =>
        cases hpass
        obtain ⟨hprocessing, hqueue⟩ := getNextFrameBody_noMore hbody hstatus
        exact ⟨henabled, fun _ => hprocessing, fun _ hne => absurd hqueue hne⟩
  next => cases hpass; exact h

theorem next_wakeful (h : Wakeful s) : Wakeful s.next := by
  have henabled := h.enabled
  unfold next
  split
  next => exact wakeful_of_busy (fun _ => Or.inl rfl) rfl
  next freeFragment hloop =>
    split
    next => exact wakeful_of_busy nofun rfl
    next =>
      have hprocessing := h.rxBufferInProcessing
      have hqueue := h.rxBufferQueue
      rw [hloop] at henabled hprocessing hqueue
      exact ⟨henabled, hprocessing, hqueue⟩
  next => exact wakeful_of_busy nofun rfl
  next => exact h

theorem step_wakeful (h : Wakeful s) (hstep : s.step event = .ok s') : Wakeful s' := by
  cases event with
  | enqueue rxBuffer fetched =>
    cases hstep
    exact enqueue_wakeful h rxBuffer fetched
  | exchange =>
    cases hstep
    exact exchange_wakeful h
  | beginAdvance osQueue =>
    have henabled := h.enabled
    cases hstep
    split
    next armed hloop =>
      rw [hloop] at henabled
      exact wakeful_of_busy henabled rfl
    next => exact h
  | pass => exact pass_wakeful h hstep
  | next =>
    cases hstep
    exact next_wakeful h
  | wake =>
    cases hstep
    split
    next =>
      split
      next => exact wakeful_of_busy nofun rfl
      next => exact h
    next => exact h

theorem started_wakeful (rxQueue : NcmRxQueue) :
    Wakeful (started rxQueue : RxPolling p f) := by
  refine wakeful_of_busy (fun harmed => ?_) rfl
  cases harmed

/-- For every order of the steps of completions and of the loop, from any state of the queue, any
buffers and any rings: the loop never sleeps on a buffer that nobody will notify it of. -/
theorem never_stalled (rxQueue : NcmRxQueue) (es : List (RxPollingEvent p f)) :
    Always step (fun s => ¬ Stalled s) (started rxQueue) es :=
  always_of_invariant (fun _ _ _ => step_wakeful) (fun _ => Wakeful.not_stalled)
    (started_wakeful rxQueue) es

end RxPolling

end UsbNcm.Adapter
