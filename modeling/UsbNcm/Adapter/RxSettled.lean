import UsbNcm.Adapter.RxConcurrent

/-!
# The loop comes to rest

Once no more buffers arrive, only so many steps are left to be made, in whatever order they are. When
none is left the loop sleeps, and everything that has arrived has been written or dropped.
-/

open Exec RingIndex UsbNcm.Ring UsbNcm.Ntb

namespace UsbNcm.Adapter.RxPolling

open NcmRxQueue

variable {p f : Nat} {s s' : RxPolling p f} {datagrams : RxBuffer → List DatagramPointer}
  {ncmAdapter : NcmAdapter} {fmt : NtbFormat} {xs ys : List (RxBuffer × List DatagramPointer)}

/-- A step that the state calls for: the rest of a completion, or what the loop does next. -/
def Enabled (s : RxPolling p f) : RxPollingEvent p f → Prop
  | .enqueue _ _ => False
  | .exchange => 0 < s.notifying
  | .beginAdvance _ => ∃ armed, s.loop = .polling armed
  | .pass => ∃ armed progress n pi fi, s.loop = .advancing armed progress n pi fi
  | .next => ∃ armed progress freeFragment, s.loop = .advanced armed progress freeFragment
  | .wake => (∃ freeFragment, s.loop = .sleeping freeFragment) ∧ s.notified = true

/-- The framework calls `Advance` with a free fragment. -/
def OffersRoom : RxPollingEvent p f → Prop
  | .beginAdvance osQueue => 0 < freeFragments osQueue
  | _ => True

/-- No more buffers arrive, and the rings suit the adapter. -/
def Continues (ncmAdapter : NcmAdapter) : RxPollingEvent p f → Prop
  | .enqueue _ _ => False
  | .beginAdvance osQueue => Suits ncmAdapter osQueue
  | _ => True

/-! ## How much is still to be done -/

/-- From a call of `Advance` to the next, with the notification armed or not, and to sleep. -/
def rank : PollLoop p f → Nat
  | .polling false => 6
  | .advancing false .. => 5
  | .advanced false .. => 4
  | .polling true => 3
  | .advancing true .. => 2
  | .advanced true .. => 1
  | .sleeping _ => 0

def progressed : PollLoop p f → Bool
  | .advancing _ progress .. => progress
  | .advanced _ progress _ => progress
  | _ => false

/-- A frame, a notification that is still to come and one that has come make the loop go round once
more at most. -/
def work (s : RxPolling p f) (xs : List (RxBuffer × List DatagramPointer)) : Nat :=
  (xs.map fun x => 8 * x.2.length + 1).sum + 8 * s.notifying +
    (if isArmed s.loop ∧ s.notified then 7 else 0) + (if progressed s.loop then 7 else 0) +
    rank s.loop

theorem exchange_work (henabled : Enabled s .exchange) : work s.exchange xs < work s xs := by
  have hpos : 0 < s.notifying := henabled
  unfold RxPolling.exchange work
  rw [if_neg (by omega)]
  dsimp only
  split <;> split <;> omega

theorem beginAdvance_work {osQueue : NcmOsQueue p f} (henabled : Enabled s (.beginAdvance osQueue))
    (hstep : s.step (.beginAdvance osQueue) = .ok s') : work s' xs < work s xs := by
  obtain ⟨armed, hloop⟩ := henabled
  unfold RxPolling.step at hstep
  rw [hloop] at hstep
  cases hstep
  unfold work
  rw [hloop]
  cases armed <;> simp [isArmed, progressed, rank]

theorem pass_work (henabled : Enabled s .pass) (hdoes : PassDoes s xs s' ys) :
    work s' ys < work s xs := by
  unfold work
  cases hdoes with
  | nothing hnot =>
    obtain ⟨armed, progress, n, pi, fi, hloop⟩ := henabled
    exact absurd hloop (hnot armed progress n pi fi)
  | @full xs armed progress pi fi hloop =>
    rw [hloop]
    cases armed <;> exact Nat.lt_succ_self _
  | @empty armed progress n pi fi hloop =>
    rw [hloop]
    cases armed <;> exact Nat.lt_succ_self _
  | returned =>
    simp only [List.map_cons, List.sum_cons, List.length_nil]
    omega
  | skipped =>
    simp only [List.map_cons, List.sum_cons, List.length_cons]
    omega
  | @copied xs b d ds q armed progress n pi fi hloop =>
    rw [hloop]
    simp only [List.map_cons, List.sum_cons, List.length_cons]
    cases armed <;> cases progress <;> simp [isArmed, progressed, rank] <;> omega

theorem next_work (henabled : Enabled s .next) : work s.next xs < work s xs := by
  obtain ⟨armed, progress, freeFragment, hloop⟩ := henabled
  unfold RxPolling.next work
  cases armed <;> cases progress <;> cases hnotified : s.notified <;>
    simp [hloop, setNotificationEnabled, isArmed, progressed, rank]

theorem wake_work (henabled : Enabled s .wake) (hstep : s.step .wake = .ok s') :
    work s' xs < work s xs := by
  obtain ⟨⟨freeFragment, hloop⟩, hnotified⟩ := henabled
  unfold RxPolling.step at hstep
  rw [hloop] at hstep
  simp only [hnotified, if_true] at hstep
  cases hstep
  unfold work
  simp [hloop, hnotified, isArmed, progressed, rank]

theorem accepts_of_continues {event : RxPollingEvent p f} (h : Continues ncmAdapter event) :
    Accepts ncmAdapter fmt datagrams (.polling event) := by
  cases event with
  | enqueue b fetched => exact h.elim
  | beginAdvance osQueue => exact h
  | _ => trivial

theorem inputs_of_continues {event : RxPollingEvent p f} (h : Continues ncmAdapter event) :
    inputs ncmAdapter datagrams (.polling event) = [] := by
  cases event with
  | enqueue b fetched => exact h.elim
  | _ => rfl

theorem Tracks.works (h : Tracks ncmAdapter fmt s xs) {event : RxPollingEvent p f}
    (hcontinues : Continues ncmAdapter event) (henabled : Enabled s event) :
    ∃ s', s.step event = .ok s' ∧ ∃ ys, Tracks ncmAdapter fmt s' ys ∧ work s' ys < work s xs := by
  cases event with
  | enqueue b fetched => exact hcontinues.elim
  | exchange => exact ⟨_, rfl, xs, h.exchange, exchange_work henabled⟩
  | beginAdvance osQueue =>
    have hstep : s.step (.beginAdvance osQueue) = .ok _ := rfl
    exact ⟨_, hstep, xs, h.beginAdvance hcontinues hstep, beginAdvance_work henabled hstep⟩
  | pass =>
    obtain ⟨s', ys, hpass, hdoes⟩ := h.pass_does
    exact ⟨s', hpass, ys, h.pass hdoes, pass_work henabled hdoes⟩
  | next => exact ⟨_, rfl, xs, h.next, next_work henabled⟩
  | wake =>
    have hstep : s.step .wake = .ok _ := rfl
    exact ⟨_, hstep, xs, h.wake hstep, wake_work henabled hstep⟩

/-! ## Sleeping for want of frames -/

/-- An `Advance` without progress has found no more frames. -/
def Searched : PollLoop p f → Prop
  | .polling _ => True
  | .advancing _ progress n _ _ => progress = true ∨ 0 < n
  | .advanced _ progress freeFragment => progress = true ∨ freeFragment = true
  | .sleeping freeFragment => freeFragment = true

theorem pass_searched (h : Searched s.loop) (hdoes : PassDoes s xs s' ys) : Searched s'.loop := by
  cases hdoes with
  | nothing => exact h
  | full hloop =>
    rw [hloop] at h
    exact Or.inl (h.resolve_right (Nat.lt_irrefl 0))
  | empty => exact Or.inr rfl
  | returned => exact h
  | skipped => exact h
  | copied => exact Or.inl rfl

theorem next_searched (h : Searched s.loop) : Searched s.next.loop := by
  unfold RxPolling.next
  split
  next => trivial
  next freeFragment hloop =>
    rw [hloop] at h
    dsimp only
    split
    · trivial
    · exact h.resolve_left nofun
  next => trivial
  next => exact h

theorem Tracks.searched (htracks : Tracks ncmAdapter fmt s xs) (h : Searched s.loop)
    {event : RxPollingEvent p f} (hroom : OffersRoom event) (hstep : s.step event = .ok s') :
    Searched s'.loop := by
  cases event with
  | enqueue b fetched =>
    cases hstep
    exact h
  | exchange =>
    cases hstep
    unfold RxPolling.exchange
    split <;> exact h
  | beginAdvance osQueue =>
    cases hstep
    split
    · exact Or.inr hroom
    · exact h
  | pass =>
    obtain ⟨s1, ys, hpass, hdoes⟩ := htracks.pass_does
    obtain rfl : s1 = s' := Except.ok.inj (hpass.symm.trans hstep)
    exact pass_searched h hdoes
  | next =>
    cases hstep
    exact next_searched h
  | wake =>
    cases hstep
    split
    · split
      · trivial
      · exact h
    · exact h

structure Settles (ncmAdapter : NcmAdapter) (fmt : NtbFormat) (s : RxPolling p f)
    (v : Sieve (List UInt8)) : Prop where
  simulates : Simulates ncmAdapter fmt s v
  searched : Searched s.loop

theorem Settles.run {v : Sieve (List UInt8)} (h : Settles ncmAdapter fmt s v)
    {events : List (RxConcurrentEvent p f)}
    (haccepts : ∀ event ∈ events, Accepts ncmAdapter fmt datagrams event)
    (hroom : ∀ event, .polling event ∈ events → OffersRoom event) :
    ∃ (s' : RxPolling p f) (steps : List (SieveStep (List UInt8))),
      events.foldlM concurrentStep s = .ok s' ∧
      steps.filter SieveStep.isInput = events.flatMap (inputs ncmAdapter datagrams) ∧
      Settles ncmAdapter fmt s' (steps.foldl Sieve.step v) := by
  have hstep : ∀ (s : RxPolling p f) (v : Sieve (List UInt8)) (event : RxConcurrentEvent p f),
      Settles ncmAdapter fmt s v → event ∈ events →
      ∃ (s' : RxPolling p f) (steps : List (SieveStep (List UInt8))),
        s.concurrentStep event = .ok s' ∧
        steps.filter SieveStep.isInput = inputs ncmAdapter datagrams event ∧
        Settles ncmAdapter fmt s' (steps.foldl Sieve.step v) := by
    rintro s v event ⟨hsimulates, hsearched⟩ hmem
    obtain ⟨s', steps, hstep, hinputs, hnext⟩ := hsimulates.step (haccepts event hmem)
    refine ⟨s', steps, hstep, hinputs, hnext, ?_⟩
    obtain ⟨xs, htracks, -⟩ := hsimulates.sieved
    cases event with
    | polling event => exact htracks.searched hsearched (hroom event hmem) hstep
    | setReceiveFilter handle =>
      cases hstep
      exact hsearched
  exact run_simulates hstep h fun _ hmem => hmem

/-- Rings with nothing in them. -/
def noRings : NcmOsQueue p f where
  packetRing :=
    { beginIndex := 0
      endIndex := 0
      elements := fun _ => { fragmentIndex := 0, fragmentCount := 0, ignore := false } }
  fragmentRing :=
    { beginIndex := 0
      endIndex := 0
      elements := fun _ =>
        { capacity := 0, validLength := 0, offset := 0, virtualAddress := fun _ => 0 } }

/-- Where no step is left to be made, the loop sleeps. -/
theorem asleep_of_settled (hsettled : ∀ event, ¬ Enabled s event) (h : Searched s.loop) : Asleep s := by
  cases hloop : s.loop with
  | polling armed => exact absurd ⟨armed, hloop⟩ (hsettled (.beginAdvance noRings))
  | advancing armed progress n pi fi =>
    exact absurd ⟨armed, progress, n, pi, fi, hloop⟩ (hsettled .pass)
  | advanced armed progress freeFragment =>
    exact absurd ⟨armed, progress, freeFragment, hloop⟩ (hsettled .next)
  | sleeping freeFragment =>
    rw [hloop] at h
    obtain rfl : freeFragment = true := h
    refine ⟨hloop, ?_, Nat.eq_zero_of_not_pos (hsettled .exchange)⟩
    cases hnotified : s.notified with
    | false => rfl
    | true => exact absurd ⟨⟨true, hloop⟩, hnotified⟩ (hsettled .wake)

theorem Asleep.settled (h : Asleep s) (event : RxPollingEvent p f) : ¬ Enabled s event := by
  cases event with
  | enqueue b fetched => exact id
  | exchange => exact Nat.not_lt.mpr (Nat.le_of_eq h.notifying)
  | wake =>
    rintro ⟨-, hnotified⟩
    rw [h.notified] at hnotified
    cases hnotified
  | _ => simp [Enabled, h.loop]

/-! ## The result -/

theorem no_set {events : List (RxConcurrentEvent p f)}
    (h : ∀ handle, .setReceiveFilter handle ∉ events) (wants : List UInt8 → Bool) :
    SieveStep.set wants ∉ events.flatMap (inputs ncmAdapter datagrams) := by
  intro hmem
  obtain ⟨event, hevent, hmem⟩ := List.mem_flatMap.mp hmem
  cases event with
  | setReceiveFilter handle => exact h handle hevent
  | polling event =>
    cases event with
    | enqueue b fetched =>
      rw [inputs] at hmem
      split at hmem
      · cases List.mem_singleton.mp hmem
      · cases hmem
    | _ => cases hmem

theorem bounded_of_tracks (h : Tracks ncmAdapter fmt s xs) {more : List (RxPollingEvent p f)}
    (hcontinues : ∀ event ∈ more, Continues ncmAdapter event)
    (henabled : AllSteps step Enabled s more) :
    more.length ≤ work s xs := by
  refine AllSteps.length_le (W := fun s n => ∃ xs, Tracks ncmAdapter fmt s xs ∧ work s xs = n)
    (A := Continues ncmAdapter) ?_ ⟨xs, h, rfl⟩ hcontinues henabled
  rintro s n event ⟨xs, htracks, rfl⟩ hcontinues henabled
  obtain ⟨s', hstep, ys, htracks', hlt⟩ := htracks.works hcontinues henabled
  exact ⟨s', hstep, _, hlt, ys, htracks', rfl⟩

/-- However the events have led to a state, and however the completions and the loop go on when no more
buffers come: only so many steps are left, and when there is none the loop sleeps, all buffers have been
given back, and everything has been written that the filter wants. -/
theorem run_settles (ncmAdapter : NcmAdapter) (ntb : NcmTransferBlock)
    (datagrams : RxBuffer → List DatagramPointer) {events : List (RxConcurrentEvent p f)}
    (haccepts : ∀ event ∈ events, Accepts ncmAdapter ntb.format datagrams event)
    (hroom : ∀ event, .polling event ∈ events → OffersRoom event) :
    ∃ (s : RxPolling p f) (bound : Nat),
      events.foldlM concurrentStep (started (waitingQueue ncmAdapter ntb [])) = .ok s ∧
      ∀ more : List (RxPollingEvent p f),
        (∀ event ∈ more, Continues ncmAdapter event ∧ OffersRoom event) →
          (AllSteps step Enabled s more → more.length ≤ bound) ∧
          ∃ s', more.foldlM step s = .ok s' ∧ ((∀ event, ¬ Enabled s' event) →
            Asleep s' ∧ s'.rxQueue.rxBufferInProcessing = none ∧ s'.rxQueue.rxBufferQueue = [] ∧
            ((∀ handle, .setReceiveFilter handle ∉ events) → copiedFrames s'.rxQueue.log =
              (arrivedDatas ncmAdapter datagrams events).filter ncmAdapter.wantsData)) := by
  have hstarted : Settles ncmAdapter ntb.format
      (started (waitingQueue ncmAdapter ntb []) : RxPolling p f) (initialSieve ncmAdapter) :=
    ⟨started_simulates ncmAdapter ntb, trivial⟩
  obtain ⟨s, steps, hrun, hinputs, hsettles⟩ := hstarted.run haccepts hroom
  obtain ⟨xs, htracks, -⟩ := hsettles.simulates.sieved
  refine ⟨s, work s xs, hrun, fun more hmore => ⟨fun henabled =>
    bounded_of_tracks htracks (fun event hmem => (hmore event hmem).1) henabled, ?_⟩⟩
  -- the steps are ones of the same machine, without input
  have haccepts' : ∀ event ∈ more.map .polling,
      Accepts ncmAdapter ntb.format datagrams event := by
    intro event hmem
    obtain ⟨event, hevent, rfl⟩ := List.mem_map.mp hmem
    exact accepts_of_continues (hmore event hevent).1
  have hroom' : ∀ event, RxConcurrentEvent.polling event ∈ more.map .polling → OffersRoom event := by
    intro event hmem
    obtain ⟨event', hevent, heq⟩ := List.mem_map.mp hmem
    cases heq
    exact (hmore event hevent).2
  have hnone : (more.map .polling).flatMap (inputs ncmAdapter datagrams) = [] := by
    refine List.flatMap_eq_nil_iff.mpr fun event hmem => ?_
    obtain ⟨event, hevent, rfl⟩ := List.mem_map.mp hmem
    exact inputs_of_continues (hmore event hevent).1
  obtain ⟨s', steps', hrun', hinputs', hsettles'⟩ := hsettles.run haccepts' hroom'
  rw [List.foldlM_map] at hrun'
  refine ⟨s', hrun', fun hsettled => ?_⟩
  have hasleep := asleep_of_settled hsettled hsettles'.searched
  obtain ⟨hprocessing, hqueue⟩ := hsettles'.simulates.wakeful.empty hasleep
  refine ⟨hasleep, hprocessing, hqueue, fun hfilter => ?_⟩
  have hall : (steps ++ steps').filter SieveStep.isInput =
      events.flatMap (inputs ncmAdapter datagrams) := by
    rw [List.filter_append, hinputs, hinputs', hnone, List.append_nil]
  have hsimulates := hsettles'.simulates
  rw [← List.foldl_append] at hsimulates
  have hfixed : Sieve.Between (initialSieve ncmAdapter).wants (initialSieve ncmAdapter).wants
      (initialSieve ncmAdapter) ((steps ++ steps').filter SieveStep.isInput) := by
    rw [hall]
    exact Sieve.between_fixed fun wants hmem => absurd hmem (no_set hfilter wants)
  obtain ⟨hhigh, hlow⟩ := hsimulates.written hfixed
  have hwritten := hhigh.antisymm (hlow hasleep)
  rwa [← Sieve.items_inputs, hall] at hwritten

theorem untilAsleep_continues : ∀ event ∈ untilAsleep,
    Continues (exampleAdapter ndisPacketTypePromiscuous) event ∧ OffersRoom event := by
  have hfree : 0 < freeFragments oneFree := by decide
  unfold untilAsleep
  simp only [List.forall_mem_cons]
  exact ⟨⟨trivial, trivial⟩, ⟨oneFree_suits, hfree⟩, ⟨trivial, trivial⟩, ⟨trivial, trivial⟩,
    ⟨trivial, trivial⟩, ⟨oneFree_suits, hfree⟩, ⟨trivial, trivial⟩, ⟨trivial, trivial⟩,
    ⟨trivial, trivial⟩, ⟨oneFree_suits, hfree⟩, ⟨trivial, trivial⟩, ⟨trivial, trivial⟩, nofun⟩

theorem run_settles_oneFrame :
    ∃ s s' : RxPolling 1 1, concurrentStep (started (waitingQueue
        (exampleAdapter ndisPacketTypePromiscuous) (NcmTransferBlock.initialBlock 16 4 4 0 false) []))
        (.polling (.enqueue oneFrame .success)) = .ok s ∧
      untilAsleep.foldlM step s = .ok s' ∧ Asleep s' ∧
      copiedFrames s'.rxQueue.log = [frameBytes oneFrame ⟨12, 14⟩] := by
  have haccepts : ∀ event ∈ [RxConcurrentEvent.polling (.enqueue oneFrame .success)],
      Accepts (p := 1) (f := 1) (exampleAdapter ndisPacketTypePromiscuous) .ntb16
        (fun _ => [⟨12, 14⟩]) event := by
    simp only [List.forall_mem_singleton]
    exact oneFrame_singleTable.contents
  obtain ⟨s, bound, hrun, hmore⟩ := run_settles (exampleAdapter ndisPacketTypePromiscuous)
    (NcmTransferBlock.initialBlock 16 4 4 0 false) (fun _ => [⟨12, 14⟩]) haccepts
    (by simp [OffersRoom])
  cases hrun
  obtain ⟨-, s', hrun', hsettled⟩ := hmore untilAsleep untilAsleep_continues
  have hasleep : Asleep s' := by
    cases hrun'
    exact ⟨rfl, rfl, rfl⟩
  obtain ⟨-, -, -, hwritten⟩ := hsettled hasleep.settled
  refine ⟨_, s', rfl, hrun', hasleep, (hwritten (by simp)).trans ?_⟩
  decide

end UsbNcm.Adapter.RxPolling
