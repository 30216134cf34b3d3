import UsbNcm.Host.PipeHandles
import UsbNcm.Lib.Run

/-!
# No pipe is used that is not there

The handles in the members over all runs: which pipes they are, and that each pipe gets one continuous
reader at most.
-/

open Exec UsbNcm.Ntb

namespace UsbNcm.Host.HostPipes

variable {settings : InterfaceSettings} {outcomes : PipeOutcomes} {host host' : HostPipes}

/-! ## One event -/

/-- The framework has the hardware prepared, in whatever power state. -/
def Up (phase : PnpPhase) : Prop := phase = .prepared ∨ phase = .working ∨ phase = .suspended

/-- The handles in the members are those of the pipes of the settings that are selected, each with the
type and the direction it is taken for, and with a reader where it is read from. What has been started
is what is to be stopped. -/
structure Sound (settings : InterfaceSettings) (host : HostPipes) : Prop where
  base : Base settings host
  interrupt : Up host.phase → InterruptReady host
  data : Up host.phase → DataReady settings host
  running : ∀ handle ∈ host.running,
    host.phase = .working ∧ host.controlInterruptPipe = some handle ∨
      host.receiving = true ∧ host.dataBulkInPipe = some handle ∨
      host.transmitting = true ∧ host.dataBulkOutPipe = some handle
  streams : host.receiving = true ∨ host.transmitting = true → host.phase = .working

theorem newHost_sound (settings : InterfaceSettings) : Sound settings newHost := by
  refine ⟨⟨nofun, nofun, nofun, List.Pairwise.nil, nofun, nofun⟩, ?_, ?_, nofun, ?_⟩
  · rintro (h | h | h) <;> cases h
  · rintro (h | h | h) <;> cases h
  · rintro (h | h) <;> cases h

/-- Outside of the working state nothing is running. -/
theorem Sound.idle (h : Sound settings host) (hphase : host.phase ≠ .working) :
    host.running = [] ∧ host.receiving = false ∧ host.transmitting = false := by
  have hreceiving : host.receiving = false :=
    Bool.eq_false_iff.mpr fun hr => hphase (h.streams (Or.inl hr))
  have htransmitting : host.transmitting = false :=
    Bool.eq_false_iff.mpr fun ht => hphase (h.streams (Or.inr ht))
  refine ⟨List.eq_nil_iff_forall_not_mem.mpr fun handle hmem => ?_, hreceiving, htransmitting⟩
  rcases h.running handle hmem with ⟨hworking, -⟩ | ⟨hr, -⟩ | ⟨ht, -⟩
  · exact hphase hworking
  · rw [hreceiving] at hr
    cases hr
  · rw [htransmitting] at ht
    cases ht

/-- Nothing runs behind a function that has not got the device up. -/
theorem sound_of_idle (hbase : Base settings host)
    (hready : Up host.phase → InterruptReady host ∧ DataReady settings host)
    (hrunning : host.running = []) (hreceiving : host.receiving = false)
    (htransmitting : host.transmitting = false) : Sound settings host := by
  refine ⟨hbase, fun hup => (hready hup).1, fun hup => (hready hup).2, ?_, ?_⟩
  · rw [hrunning]
    nofun
  · rw [hreceiving, htransmitting]
    rintro (h | h) <;> cases h

theorem prepareHardware_sound_iff (h : Sound settings host) (hphase : host.phase = .added)
    (outcomes : PipeOutcomes) (createAdapter : NtStatus) :
    ¬ (GetsToBulkPipes settings outcomes ∧ NoBulkIn settings) ↔
      ∃ host', step settings host (.prepareHardware outcomes createAdapter) = .ok host' ∧
        Sound settings host' := by
  unfold step
  dsimp only
  rw [if_pos hphase]
  obtain ⟨hrunning, hreceiving, htransmitting⟩ := h.idle (by rw [hphase]; nofun)
  rcases initializeDevice_spec h.base outcomes with ⟨hno, herror⟩ | ⟨hno, status, host', hcall, hspec⟩
  · rw [herror, error_bind]
    exact iff_of_false (not_not_intro hno) fun ⟨_, hok, _⟩ => nomatch hok
  · rw [hcall, ok_bind]
    refine iff_of_true hno ⟨_, rfl, ?_⟩
    obtain ⟨hbase, hquiet, hready⟩ := hspec
    have hsame : SamePipes host' { host' with
        phase := if status.ntSuccess ∧ createAdapter.ntSuccess then .prepared else .failed } :=
      ⟨rfl, rfl, rfl, rfl, rfl, rfl, rfl, rfl⟩
    apply sound_of_idle (hsame.base hbase) ?_ (hquiet.running.trans hrunning)
      (hquiet.receiving.trans hreceiving) (hquiet.transmitting.trans htransmitting)
    intro hup
    have hs : status.ntSuccess = true := by
      by_contra hs
      dsimp only at hup
      rw [if_neg fun hboth => hs hboth.1] at hup
      rcases hup with h | h | h <;> cases h
    obtain ⟨hinterrupt, hdata⟩ := hready hs
    exact ⟨hsame.interruptReady hinterrupt, hsame.dataReady hdata⟩

theorem d0Entry_sound (h : Sound settings host) {previousState : PowerState}
    (hphase : (host.phase = .prepared ∧ previousState = .d3Final) ∨
      (host.phase = .suspended ∧ previousState ≠ .d3Final)) (outcomes : PipeOutcomes) :
    ∃ host', step settings host (.d0Entry previousState outcomes) = .ok host' ∧
      Sound settings host' := by
  unfold step
  dsimp only
  rw [if_pos hphase]
  have hup : Up host.phase := by
    rcases hphase with ⟨hprepared, -⟩ | ⟨hsuspended, -⟩
    · exact Or.inl hprepared
    · exact Or.inr (Or.inr hsuspended)
  have hnot : host.phase ≠ .working := by
    rcases hphase with ⟨hprepared, -⟩ | ⟨hsuspended, -⟩
    · rw [hprepared]
      nofun
    · rw [hsuspended]
      nofun
  obtain ⟨hrunning, hreceiving, htransmitting⟩ := h.idle hnot
  obtain ⟨status, host', hcall, hentered⟩ := enterWorkingState_spec h.base (h.interrupt hup) (h.data hup)
    previousState outcomes
  rw [hcall, ok_bind]
  refine ⟨_, rfl, ?_⟩
  have hreceiving' := hentered.receiving.trans hreceiving
  have htransmitting' := hentered.transmitting.trans htransmitting
  have hsame : SamePipes host' { host' with phase := if status.ntSuccess then .working else .failed } :=
    ⟨rfl, rfl, rfl, rfl, rfl, rfl, rfl, rfl⟩
  by_cases hs : status.ntSuccess = true
  · obtain ⟨hinterrupt, hdata⟩ := hentered.ready hs
    refine ⟨hsame.base hentered.base, fun _ => hsame.interruptReady hinterrupt,
      fun _ => hsame.dataReady hdata, fun handle hmem => Or.inl ⟨if_pos hs, ?_⟩, fun _ => if_pos hs⟩
    rcases hentered.running handle hmem with hold | ⟨-, hmember⟩
    · rw [hrunning] at hold
      cases hold
    · exact hmember
  · apply sound_of_idle (hsame.base hentered.base) ?_ ?_ hreceiving' htransmitting'
    · intro hup'
      dsimp only at hup'
      rw [if_neg hs] at hup'
      rcases hup' with h | h | h <;> cases h
    · refine List.eq_nil_iff_forall_not_mem.mpr fun handle hmem => ?_
      rcases hentered.running handle hmem with hold | ⟨hsuccess, -⟩
      · rw [hrunning] at hold
        cases hold
      · exact hs hsuccess

/-- The members stay, and what runs is accounted for. -/
theorem Sound.of_same (h : Sound settings host) (hsame : SamePipes host host')
    (hup : Up host'.phase → Up host.phase)
    (hrunning : ∀ handle ∈ host'.running,
      host'.phase = .working ∧ host'.controlInterruptPipe = some handle ∨
        host'.receiving = true ∧ host'.dataBulkInPipe = some handle ∨
        host'.transmitting = true ∧ host'.dataBulkOutPipe = some handle)
    (hstreams : host'.receiving = true ∨ host'.transmitting = true → host'.phase = .working) :
    Sound settings host' :=
  ⟨hsame.base h.base, fun h' => hsame.interruptReady (h.interrupt (hup h')),
    fun h' => hsame.dataReady (h.data (hup h')), hrunning, hstreams⟩

theorem d0Exit_sound (h : Sound settings host)
    (hphase : host.phase = .working ∧ host.receiving = false ∧ host.transmitting = false) :
    ∃ host', step settings host .d0Exit = .ok host' ∧ Sound settings host' := by
  obtain ⟨hworking, hreceiving, htransmitting⟩ := hphase
  have hup : Up host.phase := Or.inr (Or.inl hworking)
  obtain ⟨handle, hmember, htarget⟩ := (h.interrupt hup).target
  unfold step leaveWorkingState stopPipe
  dsimp only
  rw [if_pos ⟨hworking, hreceiving, htransmitting⟩, htarget]
  refine ⟨_, rfl, h.of_same ⟨rfl, rfl, rfl, rfl, rfl, rfl, rfl, rfl⟩ (fun _ => hup) ?_ ?_⟩
  · intro handle' hmem
    obtain ⟨hold, hne⟩ := List.mem_filter.mp hmem
    rcases h.running handle' hold with ⟨-, hinterrupt⟩ | ⟨hr, -⟩ | ⟨ht, -⟩
    · rw [hmember] at hinterrupt
      exact absurd (Option.some.inj hinterrupt).symm (of_decide_eq_true hne)
    · rw [hreceiving] at hr
      cases hr
    · rw [htransmitting] at ht
      cases ht
  · dsimp only
    rw [hreceiving, htransmitting]
    rintro (h | h) <;> cases h

theorem releaseHardware_sound (h : Sound settings host) :
    ∃ host', step settings host .releaseHardware = .ok host' ∧ Sound settings host' := by
  refine ⟨_, rfl, ?_⟩
  split
  next hphase =>
    have hnot : host.phase ≠ .working := by
      rintro hworking
      rw [hworking] at hphase
      rcases hphase with h | h | h <;> cases h
    obtain ⟨hrunning, hreceiving, htransmitting⟩ := h.idle hnot
    have hsame : SamePipes host { host with phase := .added } := ⟨rfl, rfl, rfl, rfl, rfl, rfl, rfl, rfl⟩
    apply sound_of_idle (hsame.base h.base) ?_ hrunning hreceiving htransmitting
    rintro (h | h | h) <;> cases h
  next => exact h

/-- Starting or stopping a bulk pipe leaves what the adapter has of both. -/
structure Streams (host host' : HostPipes) : Prop where
  receiving : host'.receiving = host.receiving
  transmitting : host'.transmitting = host.transmitting

/-- The adapter starts one of the bulk pipes. -/
theorem startPipe_sound (h : Sound settings host) (hworking : host.phase = .working)
    {pipe : Option Nat} {handle : Nat} (hmember : pipe = some handle)
    (htarget : host.target pipe = .ok handle) (status : NtStatus) {receiving transmitting : Bool}
    (hreceiving : host.receiving = true → receiving = true)
    (htransmitting : host.transmitting = true → transmitting = true)
    (hnew : receiving = true ∧ host.dataBulkInPipe = pipe ∨
      transmitting = true ∧ host.dataBulkOutPipe = pipe) :
    ∃ host1, host.startPipe pipe status = .ok (status, host1) ∧ Streams host host1 ∧
      Sound settings { host1 with receiving := receiving, transmitting := transmitting } := by
  unfold startPipe
  rw [htarget, ok_bind]
  refine ⟨_, rfl, ?_⟩
  have hup : Up host.phase := Or.inr (Or.inl hworking)
  have hold : ∀ handle' ∈ host.running,
      host.phase = .working ∧ host.controlInterruptPipe = some handle' ∨
        receiving = true ∧ host.dataBulkInPipe = some handle' ∨
        transmitting = true ∧ host.dataBulkOutPipe = some handle' := by
    intro handle' hmem
    rcases h.running handle' hmem with hcontrol | ⟨hr, hin⟩ | ⟨ht, hout⟩
    · exact Or.inl hcontrol
    · exact Or.inr (Or.inl ⟨hreceiving hr, hin⟩)
    · exact Or.inr (Or.inr ⟨htransmitting ht, hout⟩)
  split
  next =>
    refine ⟨⟨rfl, rfl⟩, h.of_same ⟨rfl, rfl, rfl, rfl, rfl, rfl, rfl, rfl⟩ (fun _ => hup)
      (fun handle' hmem => ?_) fun _ => hworking⟩
    rcases List.mem_append.mp hmem with hmem | hmem
    · exact hold handle' hmem
    · rw [List.mem_singleton.mp hmem, ← hmember]
      exact Or.inr hnew
  next =>
    exact ⟨⟨rfl, rfl⟩,
      h.of_same ⟨rfl, rfl, rfl, rfl, rfl, rfl, rfl, rfl⟩ (fun _ => hup) hold fun _ => hworking⟩

/-- It stops one of them. -/
theorem stopPipe_sound (h : Sound settings host) (hworking : host.phase = .working)
    {pipe : Option Nat} {handle : Nat} (hmember : pipe = some handle)
    (htarget : host.target pipe = .ok handle) (receiving transmitting : Bool)
    (hreceiving : host.receiving = true → receiving = true ∨ host.dataBulkInPipe = pipe)
    (htransmitting : host.transmitting = true → transmitting = true ∨ host.dataBulkOutPipe = pipe) :
    ∃ host1, host.stopPipe pipe = .ok host1 ∧ Streams host host1 ∧
      Sound settings { host1 with receiving := receiving, transmitting := transmitting } := by
  unfold stopPipe
  rw [htarget, ok_bind]
  have hup : Up host.phase := Or.inr (Or.inl hworking)
  refine ⟨_, rfl, ⟨rfl, rfl⟩, h.of_same ⟨rfl, rfl, rfl, rfl, rfl, rfl, rfl, rfl⟩ (fun _ => hup)
    (fun handle' hmem => ?_) fun _ => hworking⟩
  obtain ⟨hold, hkept⟩ := List.mem_filter.mp hmem
  have hne : pipe ≠ some handle' := by
    rw [hmember]
    exact fun heq => of_decide_eq_true hkept (Option.some.inj heq).symm
  rcases h.running handle' hold with hcontrol | ⟨hr, hin⟩ | ⟨ht, hout⟩
  · exact Or.inl hcontrol
  · rcases hreceiving hr with hr | heq
    · exact Or.inr (Or.inl ⟨hr, hin⟩)
    · exact absurd (heq.symm.trans hin) hne
  · rcases htransmitting ht with ht | heq
    · exact Or.inr (Or.inr ⟨ht, hout⟩)
    · exact absurd (heq.symm.trans hout) hne

theorem startReceive_sound (h : Sound settings host) (status : NtStatus) :
    ∃ host', step settings host (.startReceive status) = .ok host' ∧ Sound settings host' := by
  unfold step
  dsimp only
  split
  next hphase =>
    obtain ⟨handle, hmember, htarget⟩ := (h.data (Or.inr (Or.inl hphase.1))).targetIn
    obtain ⟨host1, hcall, hstreams, hsound⟩ := startPipe_sound h hphase.1 hmember htarget status
      (fun _ => rfl) id (Or.inl ⟨rfl, rfl⟩)
    rw [← hstreams.transmitting] at hsound
    rw [hcall, ok_bind]
    exact ⟨_, rfl, hsound⟩
  next => exact ⟨host, rfl, h⟩

theorem stopReceive_sound (h : Sound settings host) :
    ∃ host', step settings host .stopReceive = .ok host' ∧ Sound settings host' := by
  unfold step
  dsimp only
  split
  next hreceiving =>
    have hworking := h.streams (Or.inl hreceiving)
    obtain ⟨handle, hmember, htarget⟩ := (h.data (Or.inr (Or.inl hworking))).targetIn
    obtain ⟨host1, hcall, hstreams, hsound⟩ := stopPipe_sound h hworking hmember htarget false
      host.transmitting (fun _ => Or.inr rfl) Or.inl
    rw [← hstreams.transmitting] at hsound
    rw [hcall, ok_bind]
    exact ⟨_, rfl, hsound⟩
  next => exact ⟨host, rfl, h⟩

theorem startTransmit_sound (h : Sound settings host) (status : NtStatus) :
    ∃ host', step settings host (.startTransmit status) = .ok host' ∧ Sound settings host' := by
  unfold step
  dsimp only
  split
  next hphase =>
    obtain ⟨handle, hmember, htarget⟩ := (h.data (Or.inr (Or.inl hphase.1))).targetOut
    obtain ⟨host1, hcall, hstreams, hsound⟩ := startPipe_sound h hphase.1 hmember htarget status
      id (fun _ => rfl) (Or.inr ⟨rfl, rfl⟩)
    rw [← hstreams.receiving] at hsound
    rw [hcall, ok_bind]
    exact ⟨_, rfl, hsound⟩
  next => exact ⟨host, rfl, h⟩

theorem stopTransmit_sound (h : Sound settings host) :
    ∃ host', step settings host .stopTransmit = .ok host' ∧ Sound settings host' := by
  unfold step
  dsimp only
  split
  next htransmitting =>
    have hworking := h.streams (Or.inr htransmitting)
    obtain ⟨handle, hmember, htarget⟩ := (h.data (Or.inr (Or.inl hworking))).targetOut
    obtain ⟨host1, hcall, hstreams, hsound⟩ := stopPipe_sound h hworking hmember htarget
      host.receiving false Or.inl (fun _ => Or.inr rfl)
    rw [← hstreams.receiving] at hsound
    rw [hcall, ok_bind]
    exact ⟨_, rfl, hsound⟩
  next => exact ⟨host, rfl, h⟩

theorem transmitFrames_sound (h : Sound settings host) :
    ∃ host', step settings host .transmitFrames = .ok host' ∧ Sound settings host' := by
  unfold step
  dsimp only
  split
  next htransmitting =>
    have hworking := h.streams (Or.inr htransmitting)
    obtain ⟨handle, -, htarget⟩ := (h.data (Or.inr (Or.inl hworking))).targetOut
    rw [htarget, ok_bind]
    exact ⟨host, rfl, h⟩
  next => exact ⟨host, rfl, h⟩

/-! ## Runs -/

/-- `InitializeDevice` does not get to a data interface without an IN pipe. -/
def FindsBulkIn (settings : InterfaceSettings) (host : HostPipes) : PipeEvent → Prop
  | .prepareHardware outcomes _ =>
    host.phase = .added → ¬ (GetsToBulkPipes settings outcomes ∧ NoBulkIn settings)
  | _ => True

theorem step_sound_iff (h : Sound settings host) (event : PipeEvent) :
    FindsBulkIn settings host event ↔
      ∃ host', step settings host event = .ok host' ∧ Sound settings host' := by
  cases event with
  | prepareHardware outcomes createAdapter =>
    by_cases hphase : host.phase = .added
    · rw [← prepareHardware_sound_iff h hphase]
      exact ⟨fun hfinds => hfinds hphase, fun hfinds _ => hfinds⟩
    · exact iff_of_true (fun hadded => absurd hadded hphase) ⟨host, if_neg hphase, h⟩
  | releaseHardware => exact iff_of_true trivial (releaseHardware_sound h)
  | d0Entry previousState outcomes =>
    refine iff_of_true trivial ?_
    by_cases hphase : (host.phase = .prepared ∧ previousState = .d3Final) ∨
        (host.phase = .suspended ∧ previousState ≠ .d3Final)
    · exact d0Entry_sound h hphase outcomes
    · exact ⟨host, if_neg hphase, h⟩
  | d0Exit =>
    refine iff_of_true trivial ?_
    by_cases hphase : host.phase = .working ∧ host.receiving = false ∧ host.transmitting = false
    · exact d0Exit_sound h hphase
    · exact ⟨host, if_neg hphase, h⟩
  | startReceive status => exact iff_of_true trivial (startReceive_sound h status)
  | stopReceive => exact iff_of_true trivial (stopReceive_sound h)
  | startTransmit status => exact iff_of_true trivial (startTransmit_sound h status)
  | stopTransmit => exact iff_of_true trivial (stopTransmit_sound h)
  | transmitFrames => exact iff_of_true trivial (transmitFrames_sound h)

/-- In every sequence of what the framework and the adapter call, with any results, and over power
states and restarts, no call takes a handle that is null or was deleted, and the members stay as
`Sound` says, exactly when `InitializeDevice` never gets to a data interface without an IN pipe. -/
theorem throughout_sound_iff (settings : InterfaceSettings) (events : List PipeEvent) :
    Throughout (step settings) (fun _ _ host => Sound settings host) newHost events ↔
      AllSteps (step settings) (FindsBulkIn settings) newHost events := by
  apply throughout_iff (Sound settings) (fun _ _ => True)
  · exact fun host event h _ => step_sound_iff h event
  · exact fun _ _ _ _ _ _ hsound => hsound
  · exact newHost_sound settings
  · exact allSteps_of_forall (fun _ _ => trivial) newHost events

def interruptIn : PipeInformation := ⟨.interrupt, true, false, 16⟩
def bulkIn : PipeInformation := ⟨.bulk, true, false, 512⟩
def bulkOut : PipeInformation := ⟨.bulk, false, true, 512⟩

def allSucceed : PipeOutcomes :=
  ⟨.success, .success, .success, .success, .success, .success, .success, .success, .success, .success⟩

/-- The start, then low power and back. -/
example : (((([PipeEvent.prepareHardware allSucceed .success, .d0Entry .d3Final allSucceed,
    .startReceive .success, .startTransmit .success, .transmitFrames, .stopTransmit, .stopReceive, .d0Exit,
    .d0Entry .other allSucceed].foldlM (step ⟨[interruptIn], [], [bulkOut, bulkIn]⟩) newHost).map
      fun host => (host.dataBulkInPipe, host.dataBulkOutPipe, host.readers, host.running)))) =
    .ok (some 4, some 3, [0, 2, 4], [0]) := by decide

/-- Two OUT pipes: the continuous reader is configured on a null handle. -/
example : step ⟨[interruptIn], [], [bulkOut, bulkOut]⟩ newHost (.prepareHardware allSucceed .success) =
    .error .access := by decide

end UsbNcm.Host.HostPipes
