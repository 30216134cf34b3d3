import UsbNcm.Host.Pipes

/-!
# Which pipes the host driver finds

What the functions that select the settings and retrieve the pipes leave in the members, for all
interfaces that a device can have and all results of the framework.
-/

open Exec LastMatch UsbNcm.Ntb

namespace UsbNcm.Host.HostPipes

variable {settings : InterfaceSettings} {outcomes : PipeOutcomes} {host host' : HostPipes}
  {status : NtStatus} {informations : List PipeInformation} {pipes : List UsbPipe}

def IsBulkIn (information : PipeInformation) : Prop :=
  information.pipeType = .bulk ∧ information.isInEndpoint = true

def IsBulkOut (information : PipeInformation) : Prop :=
  information.pipeType = .bulk ∧ information.isInEndpoint = false ∧ information.isOutEndpoint = true

instance (information : PipeInformation) : Decidable (IsBulkIn information) :=
  inferInstanceAs (Decidable (_ ∧ _))

instance (information : PipeInformation) : Decidable (IsBulkOut information) :=
  inferInstanceAs (Decidable (_ ∧ _))

/-! ## Pipe objects -/

theorem createPipes_information (n : Nat) (informations : List PipeInformation) :
    (createPipes n informations).map UsbPipe.information = informations := by
  induction informations generalizing n with
  | nil => rfl
  | cons information informations ih => exact congrArg (information :: ·) (ih (n + 1))

theorem createPipes_handle {n : Nat} {pipe : UsbPipe} (h : pipe ∈ createPipes n informations) :
    n ≤ pipe.handle ∧ pipe.handle < n + informations.length := by
  induction informations generalizing n with
  | nil => cases h
  | cons information informations ih =>
    rw [List.length_cons]
    rcases List.mem_cons.mp h with rfl | h
    · exact ⟨Nat.le_refl _, by dsimp only; omega⟩
    · have := ih h
      omega

/-- What holds of the members whatever the functions return: every pipe there is, and every one that
got a reader, was made, none got two, and a member that was ever set shows that the setting has such a
pipe. -/
structure Base (settings : InterfaceSettings) (host : HostPipes) : Prop where
  control_lt : ∀ pipe ∈ host.controlInterface, pipe.handle < host.objects
  data_lt : ∀ pipe ∈ host.dataInterface, pipe.handle < host.objects
  readers_lt : ∀ handle ∈ host.readers, handle < host.objects
  readers : host.readers.Nodup
  bulkIn : host.dataBulkInPipe.isSome → ∃ information ∈ settings.dataOne, IsBulkIn information
  bulkOut : host.dataBulkOutPipe.isSome → ∃ information ∈ settings.dataOne, IsBulkOut information

/-- The pipe of the control interface is in its member, with its reader. -/
def InterruptReady (host : HostPipes) : Prop :=
  ∃ pipe, host.controlInterface = [pipe] ∧ pipe.information.pipeType = .interrupt ∧
    host.controlInterruptPipe = some pipe.handle ∧ pipe.handle ∈ host.readers

/-- The pipes of the data interface at setting 1 are in theirs. -/
structure DataReady (settings : InterfaceSettings) (host : HostPipes) : Prop where
  informations : host.dataInterface.map UsbPipe.information = settings.dataOne
  bulkIn : ∃ pipe ∈ host.dataInterface, IsBulkIn pipe.information ∧
    host.dataBulkInPipe = some pipe.handle ∧ pipe.handle ∈ host.readers
  bulkOut : ∃ pipe ∈ host.dataInterface, IsBulkOut pipe.information ∧
    host.dataBulkOutPipe = some pipe.handle ∧
    host.dataBulkOutPipeMaximumPacketSize = pipe.information.maximumPacketSize

theorem selectData_base (h : Base settings host) (informations : List PipeInformation) :
    Base settings (host.selectData informations) := by
  refine ⟨fun pipe hpipe => ?_, fun pipe hpipe => (createPipes_handle hpipe).2, fun handle hhandle => ?_,
    h.readers, h.bulkIn, h.bulkOut⟩
  · exact Nat.lt_add_right _ (h.control_lt pipe hpipe)
  · exact Nat.lt_add_right _ (h.readers_lt handle hhandle)

theorem selectConfig_base (h : Base settings host) : Base settings (selectConfig settings host) := by
  unfold selectConfig
  apply selectData_base
  refine ⟨fun pipe hpipe => (createPipes_handle hpipe).2, fun pipe hpipe => ?_,
    fun handle hhandle => ?_, h.readers, h.bulkIn, h.bulkOut⟩
  · exact Nat.lt_add_right _ (h.data_lt pipe hpipe)
  · exact Nat.lt_add_right _ (h.readers_lt handle hhandle)

/-! ## The calls with a pipe -/

/-- The members and readers that a pipe is started and stopped with stay the same. -/
structure SamePipes (host host' : HostPipes) : Prop where
  controlInterface : host'.controlInterface = host.controlInterface
  dataInterface : host'.dataInterface = host.dataInterface
  objects : host'.objects = host.objects
  readers : host'.readers = host.readers
  controlInterruptPipe : host'.controlInterruptPipe = host.controlInterruptPipe
  dataBulkInPipe : host'.dataBulkInPipe = host.dataBulkInPipe
  dataBulkOutPipe : host'.dataBulkOutPipe = host.dataBulkOutPipe
  maximumPacketSize :
    host'.dataBulkOutPipeMaximumPacketSize = host.dataBulkOutPipeMaximumPacketSize

theorem SamePipes.base (hsame : SamePipes host host') (h : Base settings host) :
    Base settings host' := by
  obtain ⟨hcontrol, hdata, hobjects, hreaders, -, hin, hout, -⟩ := hsame
  obtain ⟨h1, h2, h3, h4, h5, h6⟩ := h
  rw [← hcontrol, ← hobjects] at h1
  rw [← hdata, ← hobjects] at h2
  rw [← hreaders, ← hobjects] at h3
  rw [← hreaders] at h4
  rw [← hin] at h5
  rw [← hout] at h6
  exact ⟨h1, h2, h3, h4, h5, h6⟩

theorem SamePipes.interruptReady (hsame : SamePipes host host') (h : InterruptReady host) :
    InterruptReady host' := by
  unfold InterruptReady at h ⊢
  rwa [hsame.controlInterface, hsame.controlInterruptPipe, hsame.readers]

theorem SamePipes.dataReady (hsame : SamePipes host host') (h : DataReady settings host) :
    DataReady settings host' := by
  obtain ⟨hinformations, hin, hout⟩ := h
  rw [← hsame.dataInterface] at hinformations hin hout
  rw [← hsame.dataBulkInPipe, ← hsame.readers] at hin
  rw [← hsame.dataBulkOutPipe, ← hsame.maximumPacketSize] at hout
  exact ⟨hinformations, hin, hout⟩

theorem target_of_mem {pipe : UsbPipe} (h : pipe ∈ host.controlInterface ++ host.dataInterface) :
    host.target (some pipe.handle) = .ok pipe.handle :=
  if_pos (List.mem_map_of_mem h)

theorem InterruptReady.target (h : InterruptReady host) :
    ∃ handle, host.controlInterruptPipe = some handle ∧
      host.target host.controlInterruptPipe = .ok handle := by
  obtain ⟨pipe, hcontrol, -, hmember, -⟩ := h
  refine ⟨pipe.handle, hmember, ?_⟩
  rw [hmember]
  apply target_of_mem
  rw [hcontrol]
  exact List.mem_append_left _ List.mem_cons_self

theorem DataReady.targetIn (h : DataReady settings host) :
    ∃ handle, host.dataBulkInPipe = some handle ∧ host.target host.dataBulkInPipe = .ok handle := by
  obtain ⟨pipe, hpipe, -, hmember, -⟩ := h.bulkIn
  refine ⟨pipe.handle, hmember, ?_⟩
  rw [hmember]
  exact target_of_mem (List.mem_append_right _ hpipe)

theorem DataReady.targetOut (h : DataReady settings host) :
    ∃ handle, host.dataBulkOutPipe = some handle ∧ host.target host.dataBulkOutPipe = .ok handle := by
  obtain ⟨pipe, hpipe, -, hmember, -⟩ := h.bulkOut
  refine ⟨pipe.handle, hmember, ?_⟩
  rw [hmember]
  exact target_of_mem (List.mem_append_right _ hpipe)

/-! ## The bulk pipes -/

theorem retrieveDataBulkPipe_in {pipe : UsbPipe} (h : IsBulkIn pipe.information) :
    host.retrieveDataBulkPipe pipe = (.success, { host with dataBulkInPipe := some pipe.handle }) := by
  unfold retrieveDataBulkPipe
  rw [if_neg (not_not_intro h.1), if_pos h.2]

theorem retrieveDataBulkPipe_out {pipe : UsbPipe} (h : IsBulkOut pipe.information) :
    host.retrieveDataBulkPipe pipe =
      (.success,
        { host with
          dataBulkOutPipeMaximumPacketSize := pipe.information.maximumPacketSize
          dataBulkOutPipe := some pipe.handle }) := by
  unfold retrieveDataBulkPipe
  rw [if_neg (not_not_intro h.1), if_neg (by rw [h.2.1]; nofun), if_pos h.2.2]

theorem retrieveDataBulkPipe_bad {pipe : UsbPipe} (hin : ¬ IsBulkIn pipe.information)
    (hout : ¬ IsBulkOut pipe.information) :
    host.retrieveDataBulkPipe pipe = (.deviceHardwareError, host) := by
  unfold retrieveDataBulkPipe
  split
  next => rfl
  next htype =>
    rw [not_not] at htype
    have hnotIn : pipe.information.isInEndpoint = false :=
      Bool.eq_false_iff.mpr fun h => hin ⟨htype, h⟩
    have hnotOut : pipe.information.isOutEndpoint = false :=
      Bool.eq_false_iff.mpr fun h => hout ⟨htype, hnotIn, h⟩
    rw [if_neg (by rw [hnotIn]; nofun), if_neg (by rw [hnotOut]; nofun)]

/-- The last IN pipe and the last OUT pipe, as far as there is one. -/
def withBulkPipes (host : HostPipes) (pipes : List UsbPipe) : HostPipes :=
  let bulkIn := lastMatch (fun pipe : UsbPipe => IsBulkIn pipe.information) pipes
  let bulkOut := lastMatch (fun pipe : UsbPipe => IsBulkOut pipe.information) pipes
  { host with
    dataBulkInPipe := (bulkIn.map UsbPipe.handle).or host.dataBulkInPipe
    dataBulkOutPipeMaximumPacketSize :=
      (bulkOut.map fun pipe => pipe.information.maximumPacketSize).getD
        host.dataBulkOutPipeMaximumPacketSize
    dataBulkOutPipe := (bulkOut.map UsbPipe.handle).or host.dataBulkOutPipe }

theorem not_out_of_in {information : PipeInformation} (h : IsBulkIn information) :
    ¬ IsBulkOut information := by
  intro hout
  have hfalse := hout.2.1
  rw [h.2] at hfalse
  cases hfalse

theorem withBulkPipes_in {pipe : UsbPipe} (h : IsBulkIn pipe.information) (pipes : List UsbPipe) :
    { host with dataBulkInPipe := some pipe.handle }.withBulkPipes pipes =
      host.withBulkPipes (pipe :: pipes) := by
  unfold withBulkPipes
  simp only [lastMatch_cons, if_pos h, if_neg (not_out_of_in h), Option.or_none]
  cases lastMatch (fun pipe : UsbPipe => IsBulkIn pipe.information) pipes <;> rfl

theorem withBulkPipes_out {pipe : UsbPipe} (h : IsBulkOut pipe.information) (pipes : List UsbPipe) :
    { host with
      dataBulkOutPipeMaximumPacketSize := pipe.information.maximumPacketSize
      dataBulkOutPipe := some pipe.handle }.withBulkPipes pipes =
      host.withBulkPipes (pipe :: pipes) := by
  unfold withBulkPipes
  simp only [lastMatch_cons, if_pos h, if_neg fun hin => not_out_of_in hin h, Option.or_none]
  cases lastMatch (fun pipe : UsbPipe => IsBulkOut pipe.information) pipes <;> rfl

theorem retrieveEach_success (h : ∀ pipe ∈ pipes, IsBulkIn pipe.information ∨ IsBulkOut pipe.information) :
    host.retrieveEach pipes = (.success, host.withBulkPipes pipes) := by
  induction pipes generalizing host with
  | nil => rfl
  | cons pipe pipes ih =>
    obtain ⟨hfirst, hrest⟩ := List.forall_mem_cons.mp h
    unfold retrieveEach
    rcases hfirst with hin | hout
    · rw [retrieveDataBulkPipe_in hin, ← withBulkPipes_in hin]
      exact ih hrest
    · rw [retrieveDataBulkPipe_out hout, ← withBulkPipes_out hout]
      exact ih hrest

/-- A pipe that is neither ends the loop with an error, behind those that are before it. -/
theorem retrieveEach_bad (host : HostPipes)
    (h : ¬ ∀ pipe ∈ pipes, IsBulkIn pipe.information ∨ IsBulkOut pipe.information) :
    ∃ taken, taken <+: pipes ∧
      host.retrieveEach pipes = (.deviceHardwareError, host.withBulkPipes taken) := by
  induction pipes generalizing host with
  | nil => exact absurd (fun _ hmem => absurd hmem List.not_mem_nil) h
  | cons pipe pipes ih =>
    rw [List.forall_mem_cons, Classical.not_and_iff_not_or_not] at h
    unfold retrieveEach
    by_cases hin : IsBulkIn pipe.information
    · have hrest := h.resolve_left (not_not_intro (Or.inl hin))
      obtain ⟨taken, htaken, heq⟩ := ih { host with dataBulkInPipe := some pipe.handle } hrest
      refine ⟨pipe :: taken, List.cons_prefix_cons.mpr ⟨rfl, htaken⟩, ?_⟩
      rw [retrieveDataBulkPipe_in hin, ← withBulkPipes_in hin]
      exact heq
    · by_cases hout : IsBulkOut pipe.information
      · have hrest := h.resolve_left (not_not_intro (Or.inr hout))
        obtain ⟨taken, htaken, heq⟩ := ih { host with
          dataBulkOutPipeMaximumPacketSize := pipe.information.maximumPacketSize
          dataBulkOutPipe := some pipe.handle } hrest
        refine ⟨pipe :: taken, List.cons_prefix_cons.mpr ⟨rfl, htaken⟩, ?_⟩
        rw [retrieveDataBulkPipe_out hout, ← withBulkPipes_out hout]
        exact heq
      · refine ⟨[], List.nil_prefix, ?_⟩
        rw [retrieveDataBulkPipe_bad hin hout]
        rfl

/-! ## The functions of the driver -/

/-- Nothing has been started or stopped. -/
structure Quiet (host host' : HostPipes) : Prop where
  running : host'.running = host.running
  phase : host'.phase = host.phase
  receiving : host'.receiving = host.receiving
  transmitting : host'.transmitting = host.transmitting

theorem Quiet.trans {host1 host2 host3 : HostPipes} (h : Quiet host1 host2) (h' : Quiet host2 host3) :
    Quiet host1 host3 :=
  ⟨h'.running.trans h.running, h'.phase.trans h.phase, h'.receiving.trans h.receiving,
    h'.transmitting.trans h.transmitting⟩

/-- At most the pipes of the data interface have been replaced. -/
structure Selected (settings : InterfaceSettings) (host host' : HostPipes) : Prop where
  base : Base settings host'
  quiet : Quiet host host'
  controlInterface : host'.controlInterface = host.controlInterface
  controlInterruptPipe : host'.controlInterruptPipe = host.controlInterruptPipe
  readers : host'.readers = host.readers
  dataBulkOutPipe : host'.dataBulkOutPipe = host.dataBulkOutPipe

theorem Selected.interruptReady (hselected : Selected settings host host') (h : InterruptReady host) :
    InterruptReady host' := by
  unfold InterruptReady at h ⊢
  rwa [hselected.controlInterface, hselected.controlInterruptPipe, hselected.readers]

/-- With success the pipes are new ones, of setting 1. -/
structure NewData (settings : InterfaceSettings) (host : HostPipes) (before : Nat) : Prop where
  informations : host.dataInterface.map UsbPipe.information = settings.dataOne
  behind : ∀ pipe ∈ host.dataInterface, before ≤ pipe.handle

theorem selectData_selected (h : Base settings host) (informations : List PipeInformation) :
    Selected settings host (host.selectData informations) :=
  ⟨selectData_base h informations, ⟨rfl, rfl, rfl, rfl⟩, rfl, rfl, rfl, rfl⟩

theorem Selected.trans {host1 host2 host3 : HostPipes} (h : Selected settings host1 host2)
    (h' : Selected settings host2 host3) : Selected settings host1 host3 :=
  ⟨h'.base, h.quiet.trans h'.quiet, h'.controlInterface.trans h.controlInterface,
    h'.controlInterruptPipe.trans h.controlInterruptPipe, h'.readers.trans h.readers,
    h'.dataBulkOutPipe.trans h.dataBulkOutPipe⟩

/-- What the control transfers and the selections of settings return. -/
def SelectsSetting (outcomes : PipeOutcomes) : Prop :=
  outcomes.settingZero.ntSuccess = true ∧ outcomes.configureNtb.ntSuccess = true ∧
    outcomes.settingOne.ntSuccess = true

theorem selectSetting_spec (h : Base settings host) (outcomes : PipeOutcomes) :
    ∃ status host', host.selectSetting settings outcomes = (status, host') ∧
      Selected settings host host' ∧ (status.ntSuccess = true ↔ SelectsSetting outcomes) ∧
      (status.ntSuccess = true → NewData settings host' host.objects) := by
  have hzero := selectData_selected h settings.dataZero
  have hone := hzero.trans (selectData_selected hzero.base settings.dataOne)
  unfold selectSetting SelectsSetting
  by_cases h1 : outcomes.settingZero.ntSuccess = true
  · by_cases h2 : outcomes.configureNtb.ntSuccess = true
    · by_cases h3 : outcomes.settingOne.ntSuccess = true
      · rw [if_neg (not_not_intro h1)]
        dsimp only
        rw [if_neg (not_not_intro h2), if_neg (not_not_intro h3)]
        refine ⟨_, _, rfl, hone, iff_of_true rfl ⟨h1, h2, h3⟩, fun _ => ⟨?_, ?_⟩⟩
        · exact createPipes_information _ _
        · intro pipe hpipe
          exact Nat.le_trans (Nat.le_add_right _ _) (createPipes_handle hpipe).1
      · rw [if_neg (not_not_intro h1)]
        dsimp only
        rw [if_neg (not_not_intro h2), if_pos h3]
        exact ⟨_, _, rfl, hzero, iff_of_false h3 fun hall => h3 hall.2.2, fun hs => absurd hs h3⟩
    · rw [if_neg (not_not_intro h1)]
      dsimp only
      rw [if_pos h2]
      exact ⟨_, _, rfl, hzero, iff_of_false h2 fun hall => h2 hall.2.1, fun hs => absurd hs h2⟩
  · rw [if_pos h1]
    refine ⟨_, _, rfl, ⟨h, ⟨rfl, rfl, rfl, rfl⟩, rfl, rfl, rfl, rfl⟩, ?_, fun hs => absurd hs h1⟩
    exact iff_of_false h1 fun hall => h1 hall.1

/-- One new reader, for a pipe that has none. -/
theorem configContinuousReader_of_mem (host : HostPipes) {pipe : UsbPipe}
    (hmem : pipe ∈ host.controlInterface ++ host.dataInterface) (status : NtStatus) :
    host.configContinuousReader (some pipe.handle) status =
      .ok (status, if status.ntSuccess then { host with readers := host.readers ++ [pipe.handle] }
        else host) := by
  unfold configContinuousReader
  rw [target_of_mem hmem, ok_bind]
  split
  next hs =>
    rw [NtStatus.eq_success hs]
    rfl
  next => rfl

theorem Base.withReader (h : Base settings host) {handle : Nat} (hlt : handle < host.objects)
    (hnew : handle ∉ host.readers) :
    Base settings { host with readers := host.readers ++ [handle] } := by
  refine ⟨h.control_lt, h.data_lt, ?_, ?_, h.bulkIn, h.bulkOut⟩
  · intro handle' hmem
    rcases List.mem_append.mp hmem with hmem | hmem
    · exact h.readers_lt handle' hmem
    · rwa [List.mem_singleton.mp hmem]
  · refine List.nodup_append.mpr ⟨h.readers, List.pairwise_singleton _ _, ?_⟩
    intro handle' hmem new hnew' heq
    rw [List.mem_singleton.mp hnew'] at heq
    exact hnew (heq ▸ hmem)

/-- The control interface has one pipe, and that is an interrupt pipe. -/
def OneInterrupt (informations : List PipeInformation) : Prop :=
  ∃ information, informations = [information] ∧ information.pipeType = .interrupt

/-- `RetrieveInterruptPipe` when the pipes of the control interface are new. -/
theorem retrieveInterruptPipe_spec (h : Base settings host)
    (hnew : ∀ pipe ∈ host.controlInterface, pipe.handle ∉ host.readers) (outcomes : PipeOutcomes) :
    ∃ status host', host.retrieveInterruptPipe outcomes = .ok (status, host') ∧
      Base settings host' ∧ Quiet host host' ∧ host'.dataInterface = host.dataInterface ∧
      (∀ handle ∈ host'.readers, handle ∈ host.readers ∨
        ∃ pipe ∈ host.controlInterface, handle = pipe.handle) ∧
      (status.ntSuccess = true ↔ OneInterrupt (host.controlInterface.map UsbPipe.information) ∧
        outcomes.interruptReader.ntSuccess = true) ∧
      (status.ntSuccess = true → InterruptReady host') := by
  unfold retrieveInterruptPipe
  split
  next pipe hcontrol =>
    have hinformations : OneInterrupt (host.controlInterface.map UsbPipe.information) ↔
        pipe.information.pipeType = .interrupt := by
      unfold OneInterrupt
      rw [hcontrol]
      exact ⟨fun ⟨_, heq, htype⟩ => (List.cons.inj heq).1 ▸ htype, fun htype => ⟨_, rfl, htype⟩⟩
    rw [hinformations]
    split
    next htype =>
      refine ⟨_, _, rfl, ⟨h.control_lt, h.data_lt, h.readers_lt, h.readers, h.bulkIn, h.bulkOut⟩,
        ⟨rfl, rfl, rfl, rfl⟩, rfl, fun _ hmem => Or.inl hmem, ?_, nofun⟩
      exact iff_of_false nofun fun hboth => htype hboth.1
    next htype =>
      rw [not_not] at htype
      have hmem : pipe ∈ host.controlInterface := by
        rw [hcontrol]
        exact List.mem_cons_self
      have hbase : Base settings
          { host with
            controlInterruptPipe := some pipe.handle
            controlInterruptPipeMaxPacket := pipe.information.maximumPacketSize } :=
        ⟨h.control_lt, h.data_lt, h.readers_lt, h.readers, h.bulkIn, h.bulkOut⟩
      have hcall := configContinuousReader_of_mem
        { host with
          controlInterruptPipe := some pipe.handle
          controlInterruptPipeMaxPacket := pipe.information.maximumPacketSize }
        (List.mem_append_left _ hmem) outcomes.interruptReader
      refine ⟨_, _, hcall, ?_⟩
      by_cases hs : outcomes.interruptReader.ntSuccess = true
      · rw [if_pos hs]
        refine ⟨hbase.withReader (h.control_lt pipe hmem) (hnew pipe hmem), ⟨rfl, rfl, rfl, rfl⟩, rfl, ?_,
          iff_of_true hs ⟨htype, hs⟩, fun _ => ⟨pipe, hcontrol, htype, rfl, ?_⟩⟩
        · intro handle hhandle
          rcases List.mem_append.mp hhandle with hold | hpipe
          · exact Or.inl hold
          · exact Or.inr ⟨pipe, hmem, List.mem_singleton.mp hpipe⟩
        · exact List.mem_append_right _ List.mem_cons_self
      · rw [if_neg hs]
        exact ⟨hbase, ⟨rfl, rfl, rfl, rfl⟩, rfl, fun _ hmem => Or.inl hmem,
          iff_of_false hs fun hboth => hs hboth.2, fun h => absurd h hs⟩
  next hnot =>
    refine ⟨_, _, rfl, h, ⟨rfl, rfl, rfl, rfl⟩, rfl, fun _ hmem => Or.inl hmem, ?_, nofun⟩
    refine iff_of_false nofun ?_
    rintro ⟨⟨information, heq, -⟩, -⟩
    obtain ⟨pipe, hpipe, -⟩ := List.map_eq_singleton_iff.mp heq
    exact hnot pipe hpipe

/-- Two pipes for the data interface at setting 1, and each of them is a bulk pipe. -/
def TwoBulk (settings : InterfaceSettings) : Prop :=
  settings.dataOne.length = 2 ∧ ∀ information ∈ settings.dataOne, IsBulkIn information ∨ IsBulkOut information

theorem withBulkPipes_base (h : Base settings host)
    (hsub : ∀ pipe ∈ pipes, pipe.information ∈ settings.dataOne) :
    Base settings (host.withBulkPipes pipes) := by
  refine ⟨h.control_lt, h.data_lt, h.readers_lt, h.readers, fun hsome => ?_, fun hsome => ?_⟩
  · cases hin : lastMatch (fun pipe : UsbPipe => IsBulkIn pipe.information) pipes with
    | none =>
      unfold withBulkPipes at hsome
      rw [hin] at hsome
      exact h.bulkIn hsome
    | some pipe =>
      obtain ⟨hmem, hbulk⟩ := lastMatch_some hin
      exact ⟨pipe.information, hsub pipe hmem, hbulk⟩
  · cases hout : lastMatch (fun pipe : UsbPipe => IsBulkOut pipe.information) pipes with
    | none =>
      unfold withBulkPipes at hsome
      rw [hout] at hsome
      exact h.bulkOut hsome
    | some pipe =>
      obtain ⟨hmem, hbulk⟩ := lastMatch_some hout
      exact ⟨pipe.information, hsub pipe hmem, hbulk⟩

/-- Two bulk pipes, and both are OUT. -/
def NoBulkIn (settings : InterfaceSettings) : Prop :=
  TwoBulk settings ∧ ∀ information ∈ settings.dataOne, ¬ IsBulkIn information

/-- What `RetrieveDataBulkPipes` leaves. -/
structure Retrieved (settings : InterfaceSettings) (host host' : HostPipes) : Prop where
  base : Base settings host'
  quiet : Quiet host host'
  interruptReady : InterruptReady host → InterruptReady host'

theorem withBulkPipes_retrieved (h : Base settings host)
    (hsub : ∀ pipe ∈ pipes, pipe.information ∈ settings.dataOne) :
    Retrieved settings host (host.withBulkPipes pipes) :=
  ⟨withBulkPipes_base h hsub, ⟨rfl, rfl, rfl, rfl⟩, id⟩

/-- The IN pipe gets its reader, and an OUT pipe is found if there is one. -/
theorem withBulkPipes_dataReady (hdata : host.dataInterface.map UsbPipe.information = settings.dataOne)
    {pipe : UsbPipe}
    (hin : lastMatch (fun pipe : UsbPipe => IsBulkIn pipe.information) host.dataInterface = some pipe)
    (hout : ∃ information ∈ settings.dataOne, IsBulkOut information) :
    DataReady settings { host.withBulkPipes host.dataInterface with
      readers := host.readers ++ [pipe.handle] } := by
  obtain ⟨hmem, hbulk⟩ := lastMatch_some hin
  have hexists : ∃ pipe ∈ host.dataInterface, IsBulkOut pipe.information := by
    obtain ⟨information, hinformation, hbulkOut⟩ := hout
    rw [← hdata] at hinformation
    obtain ⟨pipe, hpipe, rfl⟩ := List.mem_map.mp hinformation
    exact ⟨pipe, hpipe, hbulkOut⟩
  obtain ⟨pipeOut, hlast⟩ := exists_lastMatch_iff.mpr hexists
  obtain ⟨hmemOut, hbulkOut⟩ := lastMatch_some hlast
  refine ⟨hdata, ⟨pipe, hmem, hbulk, ?_, List.mem_append_right _ List.mem_cons_self⟩,
    ⟨pipeOut, hmemOut, hbulkOut, ?_, ?_⟩⟩
  · change ((lastMatch _ _).map UsbPipe.handle).or _ = _
    rw [hin]
    rfl
  · change ((lastMatch _ _).map UsbPipe.handle).or _ = _
    rw [hlast]
    rfl
  · change ((lastMatch _ _).map _).getD _ = _
    rw [hlast]
    rfl

/-- The reader of the IN pipe that has been found. -/
theorem bulkInReader_of_some (h : Base settings host)
    (hdata : host.dataInterface.map UsbPipe.information = settings.dataOne)
    (hnew : ∀ pipe ∈ host.dataInterface, pipe.handle ∉ host.readers)
    {pipe : UsbPipe}
    (hin : lastMatch (fun pipe : UsbPipe => IsBulkIn pipe.information) host.dataInterface = some pipe)
    (hretrieved : Retrieved settings host (host.withBulkPipes host.dataInterface)) (status : NtStatus) :
    ∃ host', (host.withBulkPipes host.dataInterface).configContinuousReader
        (host.withBulkPipes host.dataInterface).dataBulkInPipe status = .ok (status, host') ∧
      Retrieved settings host host' ∧
      (status.ntSuccess = true → (∃ information ∈ settings.dataOne, IsBulkOut information) →
        DataReady settings host') := by
  obtain ⟨hmem, -⟩ := lastMatch_some hin
  have hmember : (host.withBulkPipes host.dataInterface).dataBulkInPipe = some pipe.handle := by
    change ((lastMatch _ _).map UsbPipe.handle).or _ = _
    rw [hin]
    rfl
  have hcall := configContinuousReader_of_mem (host.withBulkPipes host.dataInterface)
    (List.mem_append_right _ hmem) status
  rw [hmember]
  refine ⟨_, hcall, ?_⟩
  by_cases hs : status.ntSuccess = true
  · rw [if_pos hs]
    refine ⟨⟨?_, ⟨rfl, rfl, rfl, rfl⟩, ?_⟩, fun _ => withBulkPipes_dataReady hdata hin⟩
    · exact hretrieved.base.withReader (h.data_lt pipe hmem) (hnew pipe hmem)
    · rintro ⟨pipe', hcontrol, htype, hmember', hreader⟩
      exact ⟨pipe', hcontrol, htype, hmember', List.mem_append_left _ hreader⟩
  · rw [if_neg hs]
    exact ⟨hretrieved, fun h => absurd h hs⟩

/-- Without an IN pipe the member is as before, and no setting without one has ever set it. -/
theorem bulkInReader_of_none (h : Base settings host)
    (hno : ∀ information ∈ settings.dataOne, ¬ IsBulkIn information)
    (hin : lastMatch (fun pipe : UsbPipe => IsBulkIn pipe.information) host.dataInterface = none)
    (status : NtStatus) :
    (host.withBulkPipes host.dataInterface).configContinuousReader
      (host.withBulkPipes host.dataInterface).dataBulkInPipe status = .error .access := by
  have hnone : (host.withBulkPipes host.dataInterface).dataBulkInPipe = none := by
    change ((lastMatch _ _).map UsbPipe.handle).or _ = _
    rw [hin, Option.map_none, Option.none_or]
    by_contra hsome
    obtain ⟨information, hmem, hbulkIn⟩ := h.bulkIn (Option.isSome_iff_ne_none.mpr hsome)
    exact hno information hmem hbulkIn
  rw [hnone]
  rfl

theorem retrieveDataBulkPipes_spec (h : Base settings host)
    (hdata : host.dataInterface.map UsbPipe.information = settings.dataOne)
    (hnew : ∀ pipe ∈ host.dataInterface, pipe.handle ∉ host.readers) (outcomes : PipeOutcomes) :
    NoBulkIn settings ∧ host.retrieveDataBulkPipes outcomes = .error .access ∨
      ¬ NoBulkIn settings ∧ ∃ status host', host.retrieveDataBulkPipes outcomes = .ok (status, host') ∧
        Retrieved settings host host' ∧
        (status.ntSuccess = true → (∃ information ∈ settings.dataOne, IsBulkOut information) →
          DataReady settings host') := by
  have hsub : ∀ pipe ∈ host.dataInterface, pipe.information ∈ settings.dataOne := by
    intro pipe hpipe
    rw [← hdata]
    exact List.mem_map_of_mem hpipe
  have hlength : host.dataInterface.length = settings.dataOne.length := by
    rw [← hdata, List.length_map]
  have hbulk : (∀ information ∈ settings.dataOne, IsBulkIn information ∨ IsBulkOut information) ↔
      ∀ pipe ∈ host.dataInterface, IsBulkIn pipe.information ∨ IsBulkOut pipe.information := by
    rw [← hdata, List.forall_mem_map]
  unfold retrieveDataBulkPipes
  by_cases htwo : host.dataInterface.length = 2
  · rw [if_neg (not_not_intro htwo)]
    by_cases hall : ∀ pipe ∈ host.dataInterface, IsBulkIn pipe.information ∨ IsBulkOut pipe.information
    · rw [retrieveEach_success hall]
      dsimp only
      rw [if_neg (show ¬ ¬ NtStatus.success.ntSuccess = true from not_not_intro rfl)]
      cases hin : lastMatch (fun pipe : UsbPipe => IsBulkIn pipe.information) host.dataInterface with
      | none =>
        have hno : ∀ information ∈ settings.dataOne, ¬ IsBulkIn information := by
          rw [← hdata, List.forall_mem_map]
          exact lastMatch_eq_none_iff.mp hin
        exact Or.inl ⟨⟨⟨hlength ▸ htwo, hbulk.mpr hall⟩, hno⟩, bulkInReader_of_none h hno hin _⟩
      | some pipe =>
        obtain ⟨hmem, hbulkIn⟩ := lastMatch_some hin
        obtain ⟨host', hcall, hspec⟩ := bulkInReader_of_some h hdata hnew hin
          (withBulkPipes_retrieved h hsub) outcomes.bulkInReader
        exact Or.inr ⟨fun hno => hno.2 _ (hsub pipe hmem) hbulkIn, _, host', hcall, hspec⟩
    · obtain ⟨taken, htaken, heach⟩ := retrieveEach_bad host hall
      rw [heach]
      refine Or.inr ⟨fun hno => hall (hbulk.mp hno.1.2), _, _, rfl, ?_, nofun⟩
      exact withBulkPipes_retrieved h fun pipe hpipe => hsub pipe (htaken.subset hpipe)
  · rw [if_pos htwo]
    refine Or.inr ⟨fun hno => htwo (hlength.trans hno.1.1), _, _, rfl, ?_, nofun⟩
    exact ⟨h, ⟨rfl, rfl, rfl, rfl⟩, id⟩

/-- `InitializeDevice` gets to the bulk pipes. -/
structure GetsToBulkPipes (settings : InterfaceSettings) (outcomes : PipeOutcomes) : Prop where
  targetDeviceCreate : outcomes.targetDeviceCreate.ntSuccess = true
  retrieveInformation : outcomes.retrieveInformation.ntSuccess = true
  selectConfiguration : outcomes.selectConfiguration.ntSuccess = true
  selectSetting : SelectsSetting outcomes
  interrupt : OneInterrupt settings.control
  interruptReader : outcomes.interruptReader.ntSuccess = true

/-- All that is known when a function of the driver has returned. -/
structure Initialized (settings : InterfaceSettings) (host : HostPipes) (status : NtStatus)
    (host' : HostPipes) : Prop where
  base : Base settings host'
  quiet : Quiet host host'
  ready : status.ntSuccess = true → InterruptReady host' ∧ DataReady settings host'

/-- The end of `InitializeDevice`: all three members have to be there. -/
theorem pipesFound_ready {host1 host2 : HostPipes} (hretrieved : Retrieved settings host1 host2)
    (hinterrupt : InterruptReady host1)
    (hdata : (∃ information ∈ settings.dataOne, IsBulkOut information) → DataReady settings host2) :
    Initialized settings host1 (if host2.pipesFound then .success else .deviceHardwareError) host2 := by
  refine ⟨hretrieved.base, hretrieved.quiet, fun hs => ?_⟩
  have hfound : host2.pipesFound = true := by
    by_contra hnot
    rw [if_neg hnot] at hs
    cases hs
  unfold pipesFound at hfound
  rw [Bool.and_eq_true] at hfound
  exact ⟨hretrieved.interruptReady hinterrupt, hdata (hretrieved.base.bulkOut hfound.2)⟩

theorem retrievePipes_spec (h : Base settings host)
    (hcontrol : host.controlInterface.map UsbPipe.information = settings.control)
    (hdata : host.dataInterface.map UsbPipe.information = settings.dataOne)
    (hnew : ∀ pipe ∈ host.controlInterface, pipe.handle ∉ host.readers)
    (hnewData : ∀ pipe ∈ host.dataInterface, pipe.handle ∉ host.readers ∧
      ∀ pipe' ∈ host.controlInterface, pipe.handle ≠ pipe'.handle) (outcomes : PipeOutcomes) :
    ((OneInterrupt settings.control ∧ outcomes.interruptReader.ntSuccess = true) ∧ NoBulkIn settings) ∧
        host.retrievePipes outcomes = .error .access ∨
      ¬ ((OneInterrupt settings.control ∧ outcomes.interruptReader.ntSuccess = true) ∧
          NoBulkIn settings) ∧
        ∃ status host', host.retrievePipes outcomes = .ok (status, host') ∧
          Initialized settings host status host' := by
  obtain ⟨status1, host1, hcall1, hbase1, hquiet1, hdata1, hreaders1, hiff1, hready1⟩ :=
    retrieveInterruptPipe_spec h hnew outcomes
  rw [hcontrol] at hiff1
  unfold retrievePipes
  rw [hcall1, ok_bind, ← hiff1]
  dsimp only
  by_cases h1 : status1.ntSuccess = true
  · rw [if_neg (not_not_intro h1)]
    have hnewData1 : ∀ pipe ∈ host1.dataInterface, pipe.handle ∉ host1.readers := by
      intro pipe hpipe hreader
      rw [hdata1] at hpipe
      obtain ⟨hnot, hapart⟩ := hnewData pipe hpipe
      rcases hreaders1 _ hreader with hold | ⟨pipe', hpipe', heq⟩
      · exact hnot hold
      · exact hapart pipe' hpipe' heq
    rcases retrieveDataBulkPipes_spec hbase1 (hdata1 ▸ hdata) hnewData1 outcomes with
      ⟨hno, herror⟩ | ⟨hno, status2, host2, hcall2, hretrieved, hready2⟩
    · refine Or.inl ⟨⟨h1, hno⟩, ?_⟩
      rw [herror]
      rfl
    · refine Or.inr ⟨fun hboth => hno hboth.2, ?_⟩
      rw [hcall2, ok_bind]
      dsimp only
      by_cases h2 : status2.ntSuccess = true
      · rw [if_neg (not_not_intro h2)]
        obtain ⟨hbase, hquiet, hready⟩ := pipesFound_ready hretrieved (hready1 h1) (hready2 h2)
        exact ⟨_, _, rfl, hbase, hquiet1.trans hquiet, hready⟩
      · rw [if_pos h2]
        exact ⟨_, _, rfl, hretrieved.base, hquiet1.trans hretrieved.quiet, fun hs => absurd hs h2⟩
  · rw [if_pos h1]
    exact Or.inr ⟨fun hboth => h1 hboth.1, _, _, rfl, hbase1, hquiet1, fun hs => absurd hs h1⟩

/-- After `WdfUsbTargetDeviceSelectConfig` the pipes of the control interface are new. -/
theorem selectConfig_control (h : Base settings host) :
    (selectConfig settings host).controlInterface.map UsbPipe.information = settings.control ∧
      ∀ pipe ∈ (selectConfig settings host).controlInterface,
        pipe.handle ∉ (selectConfig settings host).readers := by
  refine ⟨createPipes_information _ _, fun pipe hpipe hreader => ?_⟩
  have hge := (createPipes_handle hpipe).1
  have hlt := h.readers_lt _ hreader
  omega

theorem initializeDevice_spec (h : Base settings host) (outcomes : PipeOutcomes) :
    (GetsToBulkPipes settings outcomes ∧ NoBulkIn settings) ∧
        host.initializeDevice settings outcomes = .error .access ∨
      ¬ (GetsToBulkPipes settings outcomes ∧ NoBulkIn settings) ∧
        ∃ status host', host.initializeDevice settings outcomes = .ok (status, host') ∧
          Initialized settings host status host' := by
  have hsame : ∀ {status : NtStatus}, ¬ status.ntSuccess = true → Initialized settings host status host :=
    fun hs => ⟨h, ⟨rfl, rfl, rfl, rfl⟩, fun hsuccess => absurd hsuccess hs⟩
  unfold initializeDevice
  by_cases h1 : outcomes.targetDeviceCreate.ntSuccess = true
  swap
  · rw [if_pos h1]
    exact Or.inr ⟨fun hgets => h1 hgets.1.targetDeviceCreate, _, _, rfl, hsame h1⟩
  by_cases h2 : outcomes.retrieveInformation.ntSuccess = true
  swap
  · rw [if_neg (not_not_intro h1), if_pos h2]
    exact Or.inr ⟨fun hgets => h2 hgets.1.retrieveInformation, _, _, rfl, hsame h2⟩
  by_cases h3 : outcomes.selectConfiguration.ntSuccess = true
  swap
  · rw [if_neg (not_not_intro h1), if_neg (not_not_intro h2), if_pos h3]
    exact Or.inr ⟨fun hgets => h3 hgets.1.selectConfiguration, _, _, rfl, hsame h3⟩
  rw [if_neg (not_not_intro h1), if_neg (not_not_intro h2), if_neg (not_not_intro h3)]
  have hconfig := selectConfig_base h
  obtain ⟨hcontrol, hnew⟩ := selectConfig_control h
  obtain ⟨status4, host4, hcall4, hselected, hiff4, hdata4⟩ := selectSetting_spec hconfig outcomes
  have hquiet4 : Quiet host host4 :=
    (show Quiet host (selectConfig settings host) from ⟨rfl, rfl, rfl, rfl⟩).trans hselected.quiet
  rw [hcall4]
  dsimp only
  by_cases h4 : status4.ntSuccess = true
  swap
  · rw [if_pos h4]
    refine Or.inr ⟨fun hgets => h4 (hiff4.mpr hgets.1.selectSetting), _, _, rfl, hselected.base, hquiet4, ?_⟩
    exact fun hs => absurd hs h4
  rw [if_neg (not_not_intro h4)]
  have hgets : GetsToBulkPipes settings outcomes ↔
      OneInterrupt settings.control ∧ outcomes.interruptReader.ntSuccess = true :=
    ⟨fun hgets => ⟨hgets.interrupt, hgets.interruptReader⟩,
      fun hboth => ⟨h1, h2, h3, hiff4.mp h4, hboth.1, hboth.2⟩⟩
  rw [hgets]
  obtain ⟨hinformations, hbehind⟩ := hdata4 h4
  have hrest := retrievePipes_spec hselected.base (hselected.controlInterface ▸ hcontrol) hinformations
    (by rwa [hselected.controlInterface, hselected.readers]) (fun pipe hpipe => ?_) outcomes
  · rcases hrest with herror | ⟨hno, status, host', hcall, hbase, hquiet, hready⟩
    · exact Or.inl herror
    · exact Or.inr ⟨hno, status, host', hcall, hbase, hquiet4.trans hquiet, hready⟩
  · have hge := hbehind pipe hpipe
    rw [hselected.readers, hselected.controlInterface]
    refine ⟨fun hreader => ?_, fun pipe' hpipe' heq => ?_⟩
    · have hlt := hconfig.readers_lt _ hreader
      omega
    · have hlt := hconfig.control_lt pipe' hpipe'
      omega

theorem DataReady.not_noBulkIn (h : DataReady settings host) : ¬ NoBulkIn settings := by
  intro hno
  obtain ⟨pipe, hpipe, hbulk, -⟩ := h.bulkIn
  apply hno.2 pipe.information ?_ hbulk
  rw [← h.informations]
  exact List.mem_map_of_mem hpipe

theorem DataReady.bulkOut_mem (h : DataReady settings host) :
    ∃ information ∈ settings.dataOne, IsBulkOut information := by
  obtain ⟨pipe, hpipe, hbulk, -⟩ := h.bulkOut
  refine ⟨pipe.information, ?_, hbulk⟩
  rw [← h.informations]
  exact List.mem_map_of_mem hpipe

/-- What `EnterWorkingState` leaves. -/
structure Entered (settings : InterfaceSettings) (host : HostPipes) (status : NtStatus)
    (host' : HostPipes) : Prop where
  base : Base settings host'
  receiving : host'.receiving = host.receiving
  transmitting : host'.transmitting = host.transmitting
  running : ∀ handle ∈ host'.running, handle ∈ host.running ∨
    status.ntSuccess = true ∧ host'.controlInterruptPipe = some handle
  ready : status.ntSuccess = true → InterruptReady host' ∧ DataReady settings host'

/-- The last step, which starts the interrupt pipe. -/
theorem startInterrupt_spec {host1 : HostPipes} (hbase : Base settings host1)
    (hquiet : Quiet host host1) (hinterrupt : InterruptReady host1) (hdata : DataReady settings host1)
    (status : NtStatus) :
    ∃ host', host1.startPipe host1.controlInterruptPipe status = .ok (status, host') ∧
      Entered settings host status host' := by
  obtain ⟨handle, hmember, htarget⟩ := hinterrupt.target
  unfold startPipe
  rw [htarget, ok_bind]
  refine ⟨_, rfl, ?_⟩
  by_cases hs : status.ntSuccess = true
  · rw [if_pos hs]
    have hsame : SamePipes host1 { host1 with running := host1.running ++ [handle] } :=
      ⟨rfl, rfl, rfl, rfl, rfl, rfl, rfl, rfl⟩
    refine ⟨hsame.base hbase, hquiet.receiving, hquiet.transmitting, fun handle' hmem => ?_,
      fun _ => ⟨hsame.interruptReady hinterrupt, hsame.dataReady hdata⟩⟩
    rcases List.mem_append.mp hmem with hold | hnew
    · rw [hquiet.running] at hold
      exact Or.inl hold
    · rw [List.mem_singleton.mp hnew]
      exact Or.inr ⟨hs, hmember⟩
  · rw [if_neg hs]
    refine ⟨hbase, hquiet.receiving, hquiet.transmitting, fun handle' hmem => Or.inl ?_,
      fun h => absurd h hs⟩
    rwa [hquiet.running] at hmem

theorem enterWorkingState_spec (h : Base settings host) (hinterrupt : InterruptReady host)
    (hdata : DataReady settings host) (previousState : PowerState) (outcomes : PipeOutcomes) :
    ∃ status host', host.enterWorkingState settings previousState outcomes = .ok (status, host') ∧
      Entered settings host status host' := by
  unfold enterWorkingState
  split
  next =>
    obtain ⟨status1, host1, hcall1, hselected, -, hnew⟩ := selectSetting_spec h outcomes
    have hfailed : ∀ {status : NtStatus} {host2 : HostPipes}, Base settings host2 →
        Quiet host host2 → ¬ status.ntSuccess = true → Entered settings host status host2 :=
      fun hbase hquiet hs => ⟨hbase, hquiet.receiving, hquiet.transmitting,
        fun handle hmem => Or.inl (hquiet.running ▸ hmem), fun h => absurd h hs⟩
    rw [hcall1]
    dsimp only
    by_cases h1 : status1.ntSuccess = true
    · rw [if_neg (not_not_intro h1)]
      obtain ⟨hinformations, hbehind⟩ := hnew h1
      have hnewData : ∀ pipe ∈ host1.dataInterface, pipe.handle ∉ host1.readers := by
        intro pipe hpipe hreader
        rw [hselected.readers] at hreader
        have hge := hbehind pipe hpipe
        have hlt := h.readers_lt _ hreader
        omega
      rcases retrieveDataBulkPipes_spec hselected.base hinformations hnewData outcomes with
        ⟨hno, -⟩ | ⟨-, status2, host2, hcall2, hretrieved, hready⟩
      · exact absurd hno hdata.not_noBulkIn
      · have hquiet := hselected.quiet.trans hretrieved.quiet
        rw [hcall2, ok_bind]
        dsimp only
        by_cases h2 : status2.ntSuccess = true
        · rw [if_neg (not_not_intro h2)]
          obtain ⟨host', hcall, hentered⟩ := startInterrupt_spec hretrieved.base hquiet
            (hretrieved.interruptReady (hselected.interruptReady hinterrupt))
            (hready h2 hdata.bulkOut_mem) outcomes.startPipe
          exact ⟨_, host', hcall, hentered⟩
        · rw [if_pos h2]
          exact ⟨_, _, rfl, hfailed hretrieved.base hquiet h2⟩
    · rw [if_pos h1]
      exact ⟨_, _, rfl, hfailed hselected.base hselected.quiet h1⟩
  next =>
    obtain ⟨host', hcall, hentered⟩ := startInterrupt_spec h ⟨rfl, rfl, rfl, rfl⟩ hinterrupt hdata
      outcomes.startPipe
    exact ⟨_, host', hcall, hentered⟩

end UsbNcm.Host.HostPipes
