import UsbNcm.Adapter.RxContents

/-!
# Does `GetNextFrame` come to an end

The links between the tables of an NTB are chosen by the sender. The calls use up all buffers, with a
bounded number of frames from each, exactly when the links in every buffer end.
-/

open Exec ByteMemory UsbNcm.Ring UsbNcm.Ntb UsbNcm.Ntb.NcmTransferBlock

namespace UsbNcm.Adapter.NcmRxQueue

/-- `GetNextFrame` is called until it has no more frames. Each frame comes with the number of buffers
given back before it, which says what buffer it is from. -/
inductive Polled : NcmRxQueue → List (Nat × DatagramPointer) → NcmRxQueue → Prop
  | noMore {q q' : NcmRxQueue} {d : DatagramPointer} {n : Nat} :
    getNextFrame n q = .ok (.noMoreEntries, d, q') → Polled q [] q'
  | frame {q q1 q2 : NcmRxQueue} {d : DatagramPointer} {n : Nat}
      {frames : List (Nat × DatagramPointer)} :
    getNextFrame n q = .ok (.success, d, q1) → Polled q1 frames q2 →
      Polled q ((q1.log.length, d) :: frames) q2

/-- The calls come to an end, all buffers are given back in order, and no buffer gives more frames
than it has bytes. -/
def Finishes (q : NcmRxQueue) (buffers : List RxBuffer) : Prop :=
  ∃ frames q', Polled q frames q' ∧ q'.log = buffers.map .returned ∧
    ∀ i, (h : i < buffers.length) → frames.countP (·.1 = i) ≤ buffers[i].bytes.length

/-- The links in the buffer end, and what it has for this adapter are at most as many frames as it
has bytes. -/
def LinksEnd (ncmAdapter : NcmAdapter) (fmt : NtbFormat) (b : RxBuffer) : Prop :=
  ∃ ds, Contents fmt b.bytes ds ∧
    (ds.filter (ncmAdapter.wanted (ofBytes b.bytes))).length ≤ b.bytes.length

variable {q q' q2 : NcmRxQueue} {b : RxBuffer} {d : DatagramPointer} {ds : List DatagramPointer}
  {frames : List (Nat × DatagramPointer)} {xs ys : List (RxBuffer × List DatagramPointer)}

/-! ## Calls and passes -/

theorem Polled.of_empty (h : getNextFrameBody q = .ok (.leave (.noMoreEntries, d, q'))) :
    Polled q [] q' := by
  apply Polled.noMore (n := 1)
  exact loop_leave h 0

theorem Polled.of_frame (h : getNextFrameBody q = .ok (.leave (.success, d, q')))
    (hrest : Polled q' frames q2) : Polled q ((q'.log.length, d) :: frames) q2 := by
  apply Polled.frame (n := 1) _ hrest
  exact loop_leave h 0

theorem Polled.of_again (h : getNextFrameBody q = .ok (.again q')) (hrest : Polled q' frames q2) :
    Polled q frames q2 := by
  cases hrest with
  | @noMore _ _ d fuel hcall =>
    apply Polled.noMore (n := fuel + 1)
    exact (loop_again h fuel).trans hcall
  | @frame _ q1 _ d fuel frames hcall hrest =>
    apply Polled.frame (n := fuel + 1) _ hrest
    exact (loop_again h fuel).trans hcall

/-! ## The frames of what is left -/

/-- The frames that are wanted, each with the number of buffers before its own. -/
def framesOf (ncmAdapter : NcmAdapter) :
    Nat → List (RxBuffer × List DatagramPointer) → List (Nat × DatagramPointer)
  | _, [] => []
  | k, (b, ds) :: xs =>
    (ds.filter (ncmAdapter.wanted (ofBytes b.bytes))).map (fun d => (k, d)) ++
      framesOf ncmAdapter (k + 1) xs

theorem countP_framesOf (ncmAdapter : NcmAdapter) (k i : Nat)
    (xs : List (RxBuffer × List DatagramPointer)) (h : i < xs.length) :
    (framesOf ncmAdapter k xs).countP (·.1 = k + i) =
      (xs[i].2.filter (ncmAdapter.wanted (ofBytes xs[i].1.bytes))).length := by
  have hbefore : ∀ (k : Nat) (xs : List (RxBuffer × List DatagramPointer)) (j : Nat), j < k →
      (framesOf ncmAdapter k xs).countP (·.1 = j) = 0 := by
    intro k xs j hj
    induction xs generalizing k with
    | nil => rfl
    | cons x xs ih =>
      rw [framesOf, List.countP_append, ih (k + 1) (by omega), Nat.add_zero, List.countP_map,
        List.countP_eq_zero]
      intro d _
      simpa using by omega
  induction xs generalizing k i with
  | nil => simp at h
  | cons x xs ih =>
    rw [framesOf, List.countP_append, List.countP_map]
    cases i with
    | zero =>
      rw [hbefore (k + 1) xs (k + 0) (by omega), Nat.add_zero, List.getElem_cons_zero,
        List.countP_eq_length]
      intro d _
      simp
    | succ i =>
      have hrest := ih (k + 1) i (by simpa using h)
      rw [show k + (i + 1) = k + 1 + i by omega, hrest, List.getElem_cons_succ, Nat.add_eq_right,
        List.countP_eq_zero]
      intro d _
      simpa using by omega

theorem Left.polled (h : Left q xs) :
    ∃ q2, Polled q (framesOf q.ncmAdapter q.log.length xs) q2 ∧
      q2.log = q.log ++ xs.map (fun x => .returned x.1) := by
  induction xs generalizing q with
  | nil => exact ⟨q, .of_empty h.body_nil, by simp⟩
  | cons x xs ih =>
    obtain ⟨b, ds⟩ := x
    induction ds generalizing q with
    | nil =>
      obtain ⟨q', hbody, hleft, hpassed⟩ := h.body_returns
      obtain ⟨q2, hpolled, hlog⟩ := ih hleft
      rw [hpassed.ncmAdapter, hpassed.log, List.length_append] at hpolled
      exact ⟨q2, .of_again hbody hpolled, by simp [hlog, hpassed.log]⟩
    | cons d ds ihd =>
      obtain ⟨q', hbody, hleft, hpassed, -⟩ := h.body_datagram
      obtain ⟨q2, hpolled, hlog⟩ := ihd hleft
      have hsame : q'.log = q.log := by rw [hpassed.log, List.append_nil]
      rw [hpassed.ncmAdapter, hsame] at hpolled
      rw [hsame] at hlog
      refine ⟨q2, ?_, hlog⟩
      cases hwanted : q.ncmAdapter.wanted (ofBytes b.bytes) d with
      | true =>
        rw [hwanted] at hbody
        have := Polled.of_frame hbody hpolled
        rw [hsame] at this
        simpa [framesOf, hwanted] using this
      | false =>
        rw [hwanted] at hbody
        simpa [framesOf, hwanted] using Polled.of_again hbody hpolled

/-! ## Calls that came to an end -/

/-- The transfer block is set to the buffer in processing. -/
def Synced (q : NcmRxQueue) : Prop :=
  ∀ b, q.rxBufferInProcessing = some b → q.ntb.buffer = ofBytes b.bytes

/-- The frames are those of what is left. -/
def Answers (q : NcmRxQueue) (frames : List (Nat × DatagramPointer)) : Prop :=
  ∃ xs, Left q xs ∧ frames = framesOf q.ncmAdapter q.log.length xs

/-- `Answers`, for the frames that come from the end of a pass on. -/
def PassAnswers (frames : List (Nat × DatagramPointer)) :
    Pass NcmRxQueue (NtStatus × DatagramPointer × NcmRxQueue) → Prop
  | .again q' => Answers q' frames
  | .leave (status, d, q') =>
    (status = .noMoreEntries ∧ frames = []) ∨
      (status = .success ∧ ∃ rest, Answers q' rest ∧ frames = (q'.log.length, d) :: rest)

theorem Left.waiting_of_none (hnone : q.rxBufferInProcessing = none) (h : Left q xs) :
    q.Waiting xs := by
  cases h with
  | waiting _ hwaiting => exact hwaiting
  | processing hprocessing _ =>
    rw [hprocessing.rxBufferInProcessing] at hnone
    cases hnone

theorem Left.processing_of_some (hsome : q.rxBufferInProcessing = some b) (h : Left q xs) :
    ∃ ds ys, xs = (b, ds) :: ys ∧ q.Processing b ds ∧ q.Waiting ys := by
  cases h with
  | waiting hnone _ =>
    rw [hnone] at hsome
    cases hsome
  | processing hprocessing hwaiting =>
    rw [hprocessing.rxBufferInProcessing] at hsome
    cases hsome
    exact ⟨_, _, rfl, hprocessing, hwaiting⟩

theorem answers_of_nextFrame (hsome : q.rxBufferInProcessing = some b)
    (hbuffer : q.ntb.buffer = ofBytes b.bytes)
    {pass : Pass NcmRxQueue (NtStatus × DatagramPointer × NcmRxQueue)}
    (h : q.nextFrame b = .ok pass) (hpass : PassAnswers frames pass) : Answers q frames := by
  obtain ⟨status, d, tb', hcall, hcases⟩ := nextFrame_cases h
  obtain ⟨hformat, hsame⟩ := getNextDatagram_buffer hcall
  rcases hcases with ⟨hstatus, rfl⟩ | ⟨rfl, wants, hwants, rfl⟩
  · obtain ⟨ys, hleft, rfl⟩ := hpass
    have hwaiting := hleft.waiting_of_none rfl
    refine ⟨(b, []) :: ys, .processing ⟨hsome, hbuffer, .done hcall hstatus, by simp⟩
      (hwaiting.of_eq rfl hformat.symm), ?_⟩
    simp [framesOf, rxBufferQueueReturnBuffer, setNtb]
  · -- whether the datagram is wanted or not, it is the first of what was left
    have hcons : ∀ ys, Left (q.setNtb tb') ys → ∃ ds zs, ys = (b, ds) :: zs ∧
        Left q ((b, d :: ds) :: zs) := by
      intro ys hleft
      obtain ⟨ds, zs, rfl, hprocessing, hwaiting⟩ :=
        hleft.processing_of_some (q := q.setNtb tb') hsome
      refine ⟨ds, zs, rfl, .processing ⟨hsome, hbuffer, .datagram hcall hprocessing.yields, ?_⟩
        (hwaiting.of_eq rfl hformat.symm)⟩
      intro d' hd'
      rcases List.mem_cons.mp hd' with rfl | hd'
      · rw [hsame, hbuffer] at hwants
        exact ⟨wants, hwants⟩
      · exact hprocessing.wants d' hd'
    rw [hsame, hbuffer] at hwants
    have hwanted := NcmAdapter.wanted_of_ok hwants
    cases wants with
    | true =>
      rcases hpass with ⟨hc, -⟩ | ⟨-, rest, ⟨ys, hleft, rfl⟩, rfl⟩
      · cases hc
      · obtain ⟨ds, zs, rfl, hleft'⟩ := hcons ys hleft
        exact ⟨_, hleft', by simp [framesOf, hwanted, setNtb]⟩
    | false =>
      obtain ⟨ys, hleft, rfl⟩ := hpass
      obtain ⟨ds, zs, rfl, hleft'⟩ := hcons ys hleft
      exact ⟨_, hleft', by simp [framesOf, hwanted, setNtb]⟩

/-- A buffer that is in processing may as well be waiting still. -/
theorem Left.undequeue {rest : List RxBuffer} {tb' : NcmTransferBlock}
    (hnone : q.rxBufferInProcessing = none) (hqueue : q.rxBufferQueue = b :: rest)
    (hinit : q.ntb.reInitializeBuffer 64 (ofBytes b.bytes) b.bytes.length .rx = .ok (.success, tb'))
    (h : Left (q.dequeued b rest tb') xs) : Left q xs := by
  obtain ⟨ds, ys, rfl, hprocessing, hwaiting⟩ := h.processing_of_some rfl
  obtain ⟨hformat, -⟩ := reInitializeBuffer_buffer hinit
  refine .waiting hnone ⟨?_, ?_⟩
  · rw [List.map_cons, hwaiting.buffers, hqueue]
    rfl
  · intro x hx
    rcases List.mem_cons.mp hx with rfl | hx
    · exact Or.inr ((walk_iff b.bytes_lt).mp ⟨tb', hinit, hprocessing.yields⟩)
    · have := hwaiting.contents x hx
      change Contents tb'.format x.1.bytes x.2 at this
      rwa [hformat] at this

theorem answers_of_body (hsynced : q.Synced)
    {pass : Pass NcmRxQueue (NtStatus × DatagramPointer × NcmRxQueue)}
    (h : getNextFrameBody q = .ok pass) (hpass : PassAnswers frames pass) : Answers q frames := by
  rcases getNextFrameBody_cases h with ⟨b, hsome, h⟩ | ⟨hnone, hqueue, rfl⟩ |
    ⟨b, rest, status, tb', hnone, hqueue, hinit, hcases⟩
  · exact answers_of_nextFrame hsome (hsynced b hsome) h hpass
  · rcases hpass with ⟨-, rfl⟩ | ⟨hc, -⟩
    · exact ⟨[], .waiting hnone ⟨hqueue.symm, by simp⟩, rfl⟩
    · cases hc
  · obtain ⟨hformat, hbuffer⟩ := reInitializeBuffer_buffer hinit
    rcases hcases with ⟨rfl, h⟩ | ⟨hstatus, rfl⟩
    · obtain ⟨xs, hleft, rfl⟩ := answers_of_nextFrame (q := q.dequeued b rest tb') rfl hbuffer h hpass
      exact ⟨xs, hleft.undequeue hnone hqueue hinit, rfl⟩
    · obtain ⟨ys, hleft, rfl⟩ := hpass
      have hwaiting := hleft.waiting_of_none rfl
      refine ⟨(b, []) :: ys, .waiting hnone ⟨?_, ?_⟩, ?_⟩
      · rw [List.map_cons, hwaiting.buffers, hqueue]
        rfl
      · intro x hx
        rcases List.mem_cons.mp hx with rfl | hx
        · exact Or.inl ⟨reInitializeBuffer_rejects_iff.mp ⟨status, tb', hinit, hstatus⟩, rfl⟩
        · have := hwaiting.contents x hx
          change Contents tb'.format x.1.bytes x.2 at this
          rwa [hformat] at this
      · simp [framesOf, rxBufferQueueReturnBuffer, dequeued]

theorem Synced.nextFrame (hsome : q.rxBufferInProcessing = some b)
    (hbuffer : q.ntb.buffer = ofBytes b.bytes)
    {pass : Pass NcmRxQueue (NtStatus × DatagramPointer × NcmRxQueue)}
    (h : q.nextFrame b = .ok pass) :
    (∀ q', pass = .again q' → q'.Synced) ∧
      ∀ status d q', pass = .leave (status, d, q') → q'.Synced := by
  obtain ⟨status, d, tb', hcall, hcases⟩ := nextFrame_cases h
  obtain ⟨-, hsame⟩ := getNextDatagram_buffer hcall
  have hset : (q.setNtb tb').Synced := by
    intro b' hb'
    rw [show (q.setNtb tb').rxBufferInProcessing = q.rxBufferInProcessing from rfl, hsome] at hb'
    cases hb'
    exact hsame.trans hbuffer
  rcases hcases with ⟨-, rfl⟩ | ⟨-, wants, -, rfl⟩
  · refine ⟨?_, by simp⟩
    rintro q' ⟨⟩ b' hb'
    cases hb'
  · cases wants
    · exact ⟨fun q' h => by cases h; exact hset, by simp⟩
    · exact ⟨by simp, fun status d q' h => by cases h; exact hset⟩

theorem Synced.body (hsynced : q.Synced)
    {pass : Pass NcmRxQueue (NtStatus × DatagramPointer × NcmRxQueue)}
    (h : getNextFrameBody q = .ok pass) :
    (∀ q', pass = .again q' → q'.Synced) ∧
      ∀ status d q', pass = .leave (status, d, q') → q'.Synced := by
  rcases getNextFrameBody_cases h with ⟨b, hsome, h⟩ | ⟨-, -, rfl⟩ |
    ⟨b, rest, status, tb', -, -, hinit, ⟨-, h⟩ | ⟨-, rfl⟩⟩
  · exact Synced.nextFrame hsome (hsynced b hsome) h
  · exact ⟨by simp, fun status d q' h => by cases h; exact hsynced⟩
  · obtain ⟨-, hbuffer⟩ := reInitializeBuffer_buffer hinit
    exact Synced.nextFrame (q := q.dequeued b rest tb') rfl hbuffer h
  · refine ⟨?_, by simp⟩
    rintro q' ⟨⟩ b' hb'
    cases hb'

theorem answers_of_returns {r : NtStatus × DatagramPointer × NcmRxQueue}
    (h : Returns getNextFrameBody q r) (hsynced : q.Synced) (hr : PassAnswers frames (.leave r)) :
    Answers q frames := by
  induction h with
  | leave hbody => exact answers_of_body hsynced hbody hr
  | again hbody _ ih => exact answers_of_body hsynced hbody (ih ((hsynced.body hbody).1 _ rfl) hr)

theorem Synced.returns {r : NtStatus × DatagramPointer × NcmRxQueue}
    (h : Returns getNextFrameBody q r) (hsynced : q.Synced) : r.2.2.Synced := by
  induction h with
  | leave hbody => exact (hsynced.body hbody).2 _ _ _ rfl
  | again hbody _ ih => exact ih ((hsynced.body hbody).1 _ rfl)

theorem Polled.answers (h : Polled q frames q2) (hsynced : q.Synced) : Answers q frames := by
  induction h with
  | noMore hcall => exact answers_of_returns (returns_of_loop hcall) hsynced (Or.inl ⟨rfl, rfl⟩)
  | frame hcall _ ih =>
    have hreturns := returns_of_loop hcall
    exact answers_of_returns hreturns hsynced
      (Or.inr ⟨rfl, _, ih (Synced.returns hreturns hsynced), rfl⟩)

/-! ## The result -/

/-- The calls use up every queue of received buffers, with at most as many frames from a buffer as it
has bytes, exactly when the links in every buffer end. -/
theorem getNextFrame_finishes_iff (ncmAdapter : NcmAdapter) (ntb : NcmTransferBlock)
    (buffers : List RxBuffer) :
    Finishes (waitingQueue ncmAdapter ntb buffers) buffers ↔
      ∀ b ∈ buffers, LinksEnd ncmAdapter ntb.format b := by
  constructor
  · rintro ⟨frames, q', hpolled, -, hcount⟩
    obtain ⟨xs, hleft, rfl⟩ := hpolled.answers (fun b hb => by cases hb)
    have hwaiting := hleft.waiting_of_none rfl
    have hbuffers : xs.map Prod.fst = buffers := hwaiting.buffers
    subst hbuffers
    intro b hb
    obtain ⟨i, hi, rfl⟩ := List.getElem_of_mem hb
    rw [List.length_map] at hi
    have hle := hcount i (by simpa using hi)
    have hframes := countP_framesOf ncmAdapter 0 i xs hi
    rw [Nat.zero_add] at hframes
    rw [show (waitingQueue ncmAdapter ntb (xs.map Prod.fst)).ncmAdapter = ncmAdapter from rfl,
      show (waitingQueue ncmAdapter ntb (xs.map Prod.fst)).log.length = 0 from rfl, hframes] at hle
    rw [List.getElem_map] at hle ⊢
    exact ⟨_, hwaiting.contents _ (List.getElem_mem hi), hle⟩
  · intro hends
    choose! ds hcontents hle using hends
    have hleft : Left (waitingQueue ncmAdapter ntb buffers) (buffers.map fun b => (b, ds b)) := by
      refine .waiting rfl ⟨by simp [Function.comp_def, waitingQueue], ?_⟩
      intro x hx
      obtain ⟨b, hb, rfl⟩ := List.mem_map.mp hx
      exact hcontents b hb
    obtain ⟨q2, hpolled, hlog⟩ := hleft.polled
    refine ⟨_, q2, hpolled, ?_, ?_⟩
    · rw [hlog, List.map_map]
      rfl
    · intro i hi
      have hframes := countP_framesOf ncmAdapter 0 i (buffers.map fun b => (b, ds b))
        (by simpa using hi)
      rw [Nat.zero_add] at hframes
      rw [show (waitingQueue ncmAdapter ntb buffers).ncmAdapter = ncmAdapter from rfl,
        show (waitingQueue ncmAdapter ntb buffers).log.length = 0 from rfl, hframes]
      simpa using hle buffers[i] (List.getElem_mem hi)

/-- One table of one datagram, whose link leads back to it. -/
def selfLinkedTable : RxBuffer where
  handle := 0
  useContinuousRequestTarget := true
  bytes :=
    [0x4E, 0x43, 0x4D, 0x48, 12, 0, 0, 0, 28, 0, 12, 0,
      0x4E, 0x43, 0x4D, 0x30, 16, 0, 12, 0, 12, 0, 14, 0, 0, 0, 0, 0]
  bytes_lt := by decide

/-- With the datagram filtered out, the one call goes round for ever. -/
theorem getNextFrame_never_returns :
    (∀ fuel r, getNextFrame fuel (waitingQueue (exampleAdapter 0) (initialBlock 16 4 4 0 false)
        [selfLinkedTable]) ≠ .ok r) ∧
      ¬ Finishes (waitingQueue (exampleAdapter 0) (initialBlock 16 4 4 0 false) [selfLinkedTable])
        [selfLinkedTable] := by
  obtain ⟨q1, hfirst, hround⟩ : ∃ q1, getNextFrameBody (waitingQueue (exampleAdapter 0)
      (initialBlock 16 4 4 0 false) [selfLinkedTable]) = .ok (.again q1) ∧
        getNextFrameBody q1 = .ok (.again q1) := ⟨_, rfl, rfl⟩
  generalize waitingQueue (exampleAdapter 0) (initialBlock 16 4 4 0 false) [selfLinkedTable] = q0
    at hfirst ⊢
  have hnever : ∀ fuel r, getNextFrame fuel q0 ≠ .ok r := by
    intro fuel r hcall
    apply not_returns_of_again (fun q => q = q0 ∨ q = q1) _ (Or.inl rfl) (returns_of_loop hcall)
    rintro q (rfl | rfl)
    · exact ⟨q1, hfirst, Or.inr rfl⟩
    · exact ⟨q, hround, Or.inr rfl⟩
  refine ⟨hnever, ?_⟩
  rintro ⟨frames, q', hpolled, -⟩
  cases hpolled with
  | noMore hcall => exact hnever _ _ hcall
  | frame hcall _ => exact hnever _ _ hcall

end UsbNcm.Adapter.NcmRxQueue
