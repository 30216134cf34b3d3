import UsbNcm.Bus.StartUp
import UsbNcm.Function.InputSize

/-!
# The two drivers agree

Whatever start-ups, resumes, aborts and signals of the bus there have been, an adapter of the
function fits what the host has selected.
-/

open Exec ByteMemory UsbNcm.Ntb UsbNcm.Host UsbNcm.Function UsbNcm.Function.UsbNcmFunctionDevice

namespace UsbNcm.Bus

variable {system system' : System} {host : HostConfiguration} {negotiation negotiation' : Negotiation}
  {function function' : UsbNcmFunctionDevice} {outcomes : Outcomes}

/-! ## The host -/

/-- The host has taken over the parameters of the function. -/
structure Knows (host : HostConfiguration) : Prop where
  use32BitNtb : host.use32BitNtb = true
  ntbParamters : host.ntbParamters = Function.ntbParameters
  hostSelectedNtbInMaxSize :
    host.hostSelectedNtbInMaxSize = Function.ntbParameters.dwNtbInMaxSize

theorem selectNtbParameters_knows (host : HostConfiguration) :
    (selectNtbParameters host Function.ntbParameters).1 = .success ∧
      Knows (selectNtbParameters host Function.ntbParameters).2 :=
  ⟨rfl, rfl, rfl, rfl⟩

/-- The function takes NTBs as large as the host wants, so there is no size to be set. -/
theorem Knows.afterNtbFormat (h : Knows host) : HostTask.afterNtbFormat host = .selectOne := by
  unfold HostTask.afterNtbFormat
  rw [h.hostSelectedNtbInMaxSize, h.ntbParamters, if_neg (by decide)]

/-! ## The function -/

/-- The size is the largest one, and an adapter was created with it and with 32-bit NTBs, at
alternate setting 1. -/
structure Fits (negotiation : Negotiation) : Prop where
  hostSelectedNtbInMaxSize :
    negotiation.hostSelectedNtbInMaxSize = Function.ntbParameters.dwNtbInMaxSize
  adapter : ∀ adapter ∈ negotiation.adapter, negotiation.alternateInterfaceNumber = 1 ∧
    adapter.use32BitNtb = true ∧ adapter.txMaxNtbSize = Function.ntbParameters.dwNtbInMaxSize

/-- There is no adapter, and the function is at alternate setting 0. -/
structure AtZero (negotiation : Negotiation) : Prop where
  hostSelectedNtbInMaxSize :
    negotiation.hostSelectedNtbInMaxSize = Function.ntbParameters.dwNtbInMaxSize
  alternateInterfaceNumber : negotiation.alternateInterfaceNumber = 0
  adapter : negotiation.adapter = none

theorem fits_of_none (hsize : negotiation.hostSelectedNtbInMaxSize =
      Function.ntbParameters.dwNtbInMaxSize) (hnone : negotiation.adapter = none) :
    Fits negotiation := by
  refine ⟨hsize, ?_⟩
  rw [hnone]
  nofun

theorem AtZero.fits (h : AtZero negotiation) : Fits negotiation :=
  fits_of_none h.hostSelectedNtbInMaxSize h.adapter

theorem Fits.adapter_none (h : Fits negotiation) (hne : negotiation.alternateInterfaceNumber ≠ 1) :
    negotiation.adapter = none := by
  apply Option.eq_none_iff_forall_not_mem.mpr
  intro adapter hmem
  exact hne (h.adapter adapter hmem).1

theorem Fits.destroyAdapter (h : Fits negotiation) (outcomes : Outcomes) :
    Fits (negotiation.destroyAdapter outcomes) ∧
      (negotiation.destroyAdapter outcomes).adapter = none := by
  by_cases hsome : negotiation.adapter.isSome
  · obtain ⟨i, hdestroy⟩ := negotiation.destroyAdapter_spec outcomes hsome
    rw [hdestroy]
    exact ⟨fits_of_none rfl rfl, rfl⟩
  · rw [negotiation.destroyAdapter_none outcomes hsome]
    exact ⟨h, Option.not_isSome_iff_eq_none.mp hsome⟩

/-- What the host has set so far is as it was. -/
structure Kept (negotiation negotiation' : Negotiation) : Prop where
  alternateInterfaceNumber :
    negotiation'.alternateInterfaceNumber = negotiation.alternateInterfaceNumber
  use32BitNtb : negotiation'.use32BitNtb = negotiation.use32BitNtb
  adapter : negotiation'.adapter = negotiation.adapter

theorem Fits.signal (h : Fits negotiation) (signal : BusSignal) (completionStatus : NtStatus)
    (outcomes : Outcomes) :
    ∃ negotiation', negotiation.step ⟨completionStatus, signal.event, outcomes⟩ =
      .ok negotiation' ∧ Fits negotiation' ∧
      ((signal.aborts = true ∧ negotiation'.adapter = none) ∨ Kept negotiation negotiation') := by
  unfold Negotiation.step
  by_cases hstatus : completionStatus.ntSuccess
  · rw [if_pos hstatus]
    cases signal with
    | attach | suspend | resume => exact ⟨_, rfl, ⟨h.1, h.2⟩, Or.inr ⟨rfl, rfl, rfl⟩⟩
    | unConfigured | detach | reset =>
      have hmoved : Fits { negotiation with configured := false } := ⟨h.1, h.2⟩
      obtain ⟨hfits, hnone⟩ := hmoved.destroyAdapter outcomes
      exact ⟨_, rfl, hfits, Or.inl ⟨rfl, hnone⟩⟩
  · rw [if_neg hstatus]
    exact ⟨_, rfl, h, Or.inr ⟨rfl, rfl, rfl⟩⟩

theorem Fits.selectZero (h : Fits negotiation) (hconfigured : negotiation.configured = true)
    (interfaceNumber : UInt16) (outcomes : Outcomes) :
    ∃ negotiation', negotiation.step ⟨.success, .setInterface interfaceNumber 0, outcomes⟩ =
      .ok negotiation' ∧ AtZero negotiation' := by
  change ∃ negotiation', negotiation.setInterface 0 outcomes = _ ∧ _
  unfold Negotiation.setInterface
  rw [if_neg (not_not.mpr hconfigured)]
  by_cases hzero : negotiation.alternateInterfaceNumber = 0
  · rw [if_pos hzero]
    exact ⟨_, rfl, h.hostSelectedNtbInMaxSize, hzero, h.adapter_none (by rw [hzero]; decide)⟩
  · rw [if_neg hzero, if_pos rfl]
    by_cases hsome : negotiation.adapter.isSome
    · obtain ⟨i, hdestroy⟩ := Negotiation.destroyAdapter_spec
        { negotiation with alternateInterfaceNumber := 0 } outcomes hsome
      rw [hdestroy]
      exact ⟨_, rfl, rfl, rfl, rfl⟩
    · rw [Negotiation.destroyAdapter_none { negotiation with alternateInterfaceNumber := 0 }
        outcomes hsome]
      exact ⟨_, rfl, h.hostSelectedNtbInMaxSize, rfl, Option.not_isSome_iff_eq_none.mp hsome⟩

theorem AtZero.selectOne (h : AtZero negotiation) (hconfigured : negotiation.configured = true)
    (hformat : negotiation.use32BitNtb = true) (interfaceNumber : UInt16) (outcomes : Outcomes) :
    ∃ negotiation', negotiation.step ⟨.success, .setInterface interfaceNumber 1, outcomes⟩ =
      .ok negotiation' ∧ Fits negotiation' := by
  change ∃ negotiation', negotiation.setInterface 1 outcomes = _ ∧ _
  unfold Negotiation.setInterface
  rw [if_neg (not_not.mpr hconfigured), if_neg (by rw [h.alternateInterfaceNumber]; decide),
    if_neg (by decide), if_pos rfl]
  obtain ⟨i, adapter, hcreate, hmade⟩ := Negotiation.createAdapter_spec
    { negotiation with alternateInterfaceNumber := 1 } outcomes h.adapter
  refine ⟨_, hcreate, h.hostSelectedNtbInMaxSize, ?_⟩
  intro made hmem
  rw [hmade made hmem]
  exact ⟨rfl, hformat, h.hostSelectedNtbInMaxSize⟩

/-! ## Requests -/

theorem getNtbParameters_step (hconfigured : negotiation.configured = true) (wIndex : UInt16)
    (outcomes : Outcomes) :
    negotiation.step ⟨.success, .setupPacket ⟨0x80, 0, wIndex, 0x1C⟩, outcomes⟩ =
      .ok negotiation := by
  change negotiation.processSetupPacket _ _ = _
  unfold Negotiation.processSetupPacket
  rw [if_neg (not_not.mpr hconfigured)]
  split <;> rfl

theorem AtZero.setNtbFormat (h : AtZero negotiation) (hconfigured : negotiation.configured = true)
    (wIndex : UInt16) (outcomes : Outcomes) :
    ∃ negotiation', negotiation.step ⟨.success, .setupPacket ⟨0x84, 1, wIndex, 0⟩, outcomes⟩ =
      .ok negotiation' ∧ AtZero negotiation' := by
  change ∃ negotiation', negotiation.processSetupPacket _ _ = _ ∧ _
  unfold Negotiation.processSetupPacket
  rw [if_neg (not_not.mpr hconfigured)]
  split
  · refine ⟨_, rfl, ?_⟩
    unfold Negotiation.setNtbFmt
    split
    · exact h
    · exact ⟨h.hostSelectedNtbInMaxSize, h.alternateInterfaceNumber, h.adapter⟩
  · exact ⟨_, rfl, h⟩

theorem actions_eq {extra : List DeviceAction} (h : function'.log = function.log ++ extra) :
    System.actions function function' = extra := by
  unfold System.actions
  rw [h, List.drop_left]

theorem stallEndPoint0_log (function : UsbNcmFunctionDevice) (stallEp0 : Bool) :
    (if stallEp0 then function.stallEndPoint0 else function).log =
      function.log ++ if stallEp0 then [.stalledEndPoint0] else [] := by
  cases stallEp0 with
  | false => exact (List.append_nil _).symm
  | true => rfl

/-- The parameters that the host gets are those of the function. -/
theorem getNtbParameters_answer {wIndex : UInt16} {ntbParamters : NtbParameters}
    (hstate : function.state = .configured)
    (h : function.processSetupPacket ⟨0x80, 0, wIndex, 0x1C⟩ outcomes = .ok function')
    (hanswer : System.ntbParametersOf (System.actions function function') = some ntbParamters) :
    ntbParamters = function.ntbParamters := by
  unfold processSetupPacket at h
  rw [if_neg (not_not.mpr hstate)] at h
  split at h
  · obtain ⟨extra, hlog, hextra⟩ := getRequest_log function ⟨0x80, 0, wIndex, 0x1C⟩ outcomes 0x1C
      (.ntbParameters function.ntbParamters)
    have hfunction' := (Except.ok.inj h).symm
    have hactions : System.actions function function' = extra ++
        if (function.getRequest ⟨0x80, 0, wIndex, 0x1C⟩ outcomes 0x1C
          (.ntbParameters function.ntbParamters)).1 then [.stalledEndPoint0] else [] := by
      apply actions_eq
      rw [hfunction', ← List.append_assoc, ← hlog]
      exact stallEndPoint0_log _ _
    rw [hactions] at hanswer
    rcases hextra with rfl | rfl
    · split at hanswer <;> cases hanswer
    · exact (Option.some.inj hanswer).symm
  · cases h
    rw [actions_eq rfl] at hanswer
    cases hanswer

/-- At alternate setting 0 the function takes the format, or it stalls. -/
theorem setNtbFormat_answer {wIndex : UInt16} (hstate : function.state = .configured)
    (halternate : function.alternateInterfaceNumber = 0)
    (h : function.processSetupPacket ⟨0x84, 1, wIndex, 0⟩ outcomes = .ok function')
    (hstall : .stalledEndPoint0 ∉ System.actions function function') :
    function'.use32BitNtb = true := by
  unfold processSetupPacket at h
  rw [if_neg (not_not.mpr hstate)] at h
  split at h
  · have hformat : (function.setNtbFmt ⟨0x84, 1, wIndex, 0⟩ outcomes).2.use32BitNtb = true := by
      unfold setNtbFmt
      rw [if_neg (by rw [halternate]; simp)]
      rfl
    rw [← Except.ok.inj h]
    split
    · exact hformat
    · exact hformat
  · cases h
    rw [actions_eq rfl] at hstall
    exact absurd (List.mem_singleton_self _) hstall

/-! ## The invariant -/

/-- What the requests so far have done, when this one comes next. -/
def Prepared (task : HostTask) (host : HostConfiguration) (negotiation : Negotiation) : Prop :=
  match task with
  | .idle | .getNtbParameters => True
  | .selectZero => Knows host
  | .setNtbFormat => Knows host ∧ AtZero negotiation
  | .setNtbInputSize => False
  | .selectOne => Knows host ∧ AtZero negotiation ∧ negotiation.use32BitNtb = true

structure Agreeing (system : System) (negotiation : Negotiation) : Prop where
  refines : Refines system.function negotiation
  fits : Fits negotiation
  known : system.selectedConfiguration = true → Knows system.host
  knownBySetting : system.selectedSetting = true → Knows system.host
  knownByAdapter : negotiation.adapter.isSome → Knows system.host
  prepared : Prepared system.task system.host negotiation
  bufferOutputSize : system.bufferOutputSize = Function.ntbParameters.dwNtbOutMaxSize

/-- The host gives up what it is in the middle of. -/
theorem Agreeing.idle (h : Agreeing system negotiation) :
    Agreeing { system with task := .idle } negotiation :=
  ⟨h.refines, h.fits, h.known, h.knownBySetting, h.knownByAdapter, trivial, h.bufferOutputSize⟩

/-- The function has handled something, and the host gives up or has not begun. -/
theorem Agreeing.handled (h : Agreeing system negotiation) (hrefines : Refines function' negotiation')
    (hfits : Fits negotiation') (hadapter : negotiation'.adapter.isSome → Knows system.host) :
    Agreeing { system with function := function', task := .idle } negotiation' :=
  ⟨hrefines, hfits, h.known, h.knownBySetting, hadapter, trivial, h.bufferOutputSize⟩

theorem Prepared.kept {task : HostTask} (h : Prepared task host negotiation)
    (hfits : Fits negotiation') (hkept : Kept negotiation negotiation') :
    Prepared task host negotiation' := by
  have hzero : AtZero negotiation → AtZero negotiation' := fun hz =>
    ⟨hfits.hostSelectedNtbInMaxSize, hkept.alternateInterfaceNumber.trans hz.alternateInterfaceNumber,
      hkept.adapter.trans hz.adapter⟩
  cases task with
  | idle | getNtbParameters => trivial
  | selectZero => exact h
  | setNtbFormat => exact ⟨h.1, hzero h.2⟩
  | setNtbInputSize => exact h
  | selectOne => exact ⟨h.1, hzero h.2.1, hkept.use32BitNtb.trans h.2.2⟩

theorem Agreeing.selectConfiguration (h : Agreeing system negotiation)
    (configured acknowledged : Bool) (outcomes : Outcomes) :
    ∃ system', system.step (.selectConfiguration configured acknowledged outcomes) = .ok system' ∧
      ∃ negotiation', Agreeing system' negotiation' := by
  have hforgotten : Agreeing { system with selectedConfiguration := false, task := .idle }
      negotiation :=
    ⟨h.refines, h.fits, nofun, h.knownBySetting, h.knownByAdapter, trivial, h.bufferOutputSize⟩
  cases configured with
  | false => exact ⟨_, rfl, _, hforgotten⟩
  | true =>
    obtain ⟨function', hread, hrefines⟩ := (busEventNotificationRead_refines h.refines
      ⟨.success, .configured, outcomes⟩).ok_right rfl
    unfold System.step
    simp only [if_true, hread, ok_bind]
    refine ⟨_, rfl, _, ⟨hrefines, ⟨h.fits.1, h.fits.2⟩, nofun, h.knownBySetting, h.knownByAdapter, ?_,
      h.bufferOutputSize⟩⟩
    cases acknowledged <;> trivial

theorem Agreeing.signal (h : Agreeing system negotiation) (signal : BusSignal)
    (completionStatus : NtStatus) (outcomes : Outcomes) :
    ∃ system', system.step (.signal signal completionStatus outcomes) = .ok system' ∧
      ∃ negotiation', Agreeing system' negotiation' := by
  obtain ⟨negotiation', hstep, hfits, hcases⟩ := h.fits.signal signal completionStatus outcomes
  obtain ⟨function', hread, hrefines⟩ := (busEventNotificationRead_refines h.refines
    ⟨completionStatus, signal.event, outcomes⟩).ok_right hstep
  unfold System.step
  simp only [hread, ok_bind]
  refine ⟨_, rfl, negotiation', ?_⟩
  rcases hcases with ⟨haborts, hnone⟩ | hkept
  · rw [if_pos haborts]
    apply h.handled hrefines hfits
    rw [hnone]
    nofun
  · have hadapter : negotiation'.adapter.isSome → Knows system.host := by
      rw [hkept.adapter]
      exact h.knownByAdapter
    split
    · exact h.handled hrefines hfits hadapter
    · exact ⟨hrefines, hfits, h.known, h.knownBySetting, hadapter, h.prepared.kept hfits hkept,
        h.bufferOutputSize⟩

/-! ## A request -/

/-- What a request that the function has handled has led to, before the host goes on. -/
structure Handled (system : System) (function' : UsbNcmFunctionDevice)
    (negotiation' : Negotiation) : Prop where
  refines : Refines function' negotiation'
  fits : Fits negotiation'
  known : negotiation'.adapter.isSome → Knows system.host
  succeeds : .stalledEndPoint0 ∉ System.actions system.function function' →
    Agreeing ({ system with function := function' }.succeed
      (System.actions system.function function')) negotiation'

section Requests

variable (h : Agreeing system negotiation) (hstate : system.function.state = .configured)

include h hstate

theorem Agreeing.configured : negotiation.configured = true := by
  rw [h.refines.configured, hstate]
  rfl

variable (hread : ∀ {event negotiation'},
  negotiation.step ⟨.success, event, outcomes⟩ = .ok negotiation' →
    ∃ function', system.function.busEventNotificationRead ⟨.success, event, outcomes⟩ =
      .ok function' ∧ Refines function' negotiation')

include hread

theorem Agreeing.getNtbParameters (htask : system.task = .getNtbParameters) (wIndex : UInt16) :
    ∃ function' negotiation', system.function.busEventNotificationRead
        ⟨.success, .setupPacket ⟨0x80, 0, wIndex, 0x1C⟩, outcomes⟩ = .ok function' ∧
      Handled system function' negotiation' := by
  obtain ⟨function', hread, hrefines⟩ :=
    hread (getNtbParameters_step (h.configured hstate) wIndex outcomes)
  refine ⟨function', negotiation, hread, hrefines, h.fits, h.knownByAdapter, fun _ => ?_⟩
  unfold System.succeed
  simp only [htask]
  cases hanswer : System.ntbParametersOf (System.actions system.function function') with
  | none => exact h.handled hrefines h.fits h.knownByAdapter
  | some ntbParamters =>
    obtain rfl : ntbParamters = Function.ntbParameters := by
      rw [← h.refines.ntbParamters]
      exact getNtbParameters_answer hstate hread hanswer
    obtain ⟨hstatus, hknows⟩ := selectNtbParameters_knows system.host
    simp only [hstatus]
    exact ⟨hrefines, h.fits, fun _ => hknows, fun _ => hknows, fun _ => hknows, hknows,
      h.bufferOutputSize⟩

theorem Agreeing.selectZero (htask : system.task = .selectZero) (interfaceNumber : UInt16) :
    ∃ function' negotiation', system.function.busEventNotificationRead
        ⟨.success, .setInterface interfaceNumber 0, outcomes⟩ = .ok function' ∧
      Handled system function' negotiation' := by
  have hknows := h.prepared
  rw [htask] at hknows
  obtain ⟨negotiation', hstep, hzero⟩ :=
    h.fits.selectZero (h.configured hstate) interfaceNumber outcomes
  obtain ⟨function', hread, hrefines⟩ := hread hstep
  refine ⟨function', negotiation', hread, hrefines, hzero.fits, fun _ => hknows, fun _ => ?_⟩
  unfold System.succeed
  simp only [htask, HostTask.next, hknows.use32BitNtb, if_true]
  exact ⟨hrefines, hzero.fits, h.known, h.knownBySetting, fun _ => hknows, ⟨hknows, hzero⟩,
    h.bufferOutputSize⟩

theorem Agreeing.setNtbFormat (htask : system.task = .setNtbFormat) (wIndex : UInt16) :
    ∃ function' negotiation', system.function.busEventNotificationRead
        ⟨.success, .setupPacket ⟨0x84, 1, wIndex, 0⟩, outcomes⟩ = .ok function' ∧
      Handled system function' negotiation' := by
  have hprepared := h.prepared
  rw [htask] at hprepared
  obtain ⟨hknows, hzero⟩ := hprepared
  obtain ⟨negotiation', hstep, hzero'⟩ :=
    hzero.setNtbFormat (h.configured hstate) wIndex outcomes
  obtain ⟨function', hread, hrefines⟩ := hread hstep
  refine ⟨function', negotiation', hread, hrefines, hzero'.fits, fun _ => hknows, fun hstall => ?_⟩
  have hformat : negotiation'.use32BitNtb = true := by
    rw [hrefines.use32BitNtb]
    apply setNtbFormat_answer hstate _ hread hstall
    rw [← h.refines.alternateInterfaceNumber, hzero.alternateInterfaceNumber]
  unfold System.succeed
  simp only [htask, HostTask.next, hknows.afterNtbFormat]
  exact ⟨hrefines, hzero'.fits, h.known, h.knownBySetting, fun _ => hknows,
    ⟨hknows, hzero', hformat⟩, h.bufferOutputSize⟩

theorem Agreeing.selectOne (htask : system.task = .selectOne) (interfaceNumber : UInt16) :
    ∃ function' negotiation', system.function.busEventNotificationRead
        ⟨.success, .setInterface interfaceNumber 1, outcomes⟩ = .ok function' ∧
      Handled system function' negotiation' := by
  have hprepared := h.prepared
  rw [htask] at hprepared
  obtain ⟨hknows, hzero, hformat⟩ := hprepared
  obtain ⟨negotiation', hstep, hfits⟩ :=
    hzero.selectOne (h.configured hstate) hformat interfaceNumber outcomes
  obtain ⟨function', hread, hrefines⟩ := hread hstep
  refine ⟨function', negotiation', hread, hrefines, hfits, fun _ => hknows, fun _ => ?_⟩
  unfold System.succeed
  simp only [htask]
  exact ⟨hrefines, hfits, h.known, fun _ => hknows, fun _ => hknows, trivial, h.bufferOutputSize⟩

end Requests

theorem Agreeing.handles (h : Agreeing system negotiation)
    (hstate : system.function.state = .configured) {event : UsbFnEvent}
    (hevent : system.requestEvent = some event) (outcomes : Outcomes) :
    ∃ function' negotiation', system.function.busEventNotificationRead ⟨.success, event, outcomes⟩ =
      .ok function' ∧ Handled system function' negotiation' := by
  have hread : ∀ {event negotiation'},
      negotiation.step ⟨.success, event, outcomes⟩ = .ok negotiation' →
      ∃ function', system.function.busEventNotificationRead ⟨.success, event, outcomes⟩ =
        .ok function' ∧ Refines function' negotiation' :=
    fun hstep => (busEventNotificationRead_refines h.refines _).ok_right hstep
  have hprepared := h.prepared
  unfold System.requestEvent at hevent
  cases htask : system.task <;> rw [htask] at hevent hprepared <;> cases hevent
  · exact h.getNtbParameters hstate hread htask _
  · exact h.selectZero hstate hread htask _
  · exact h.setNtbFormat hstate hread htask _
  · exact absurd hprepared id
  · exact h.selectOne hstate hread htask _

theorem Agreeing.request (h : Agreeing system negotiation) (acknowledged : Bool)
    (outcomes : Outcomes) :
    ∃ system', system.step (.request acknowledged outcomes) = .ok system' ∧
      ∃ negotiation', Agreeing system' negotiation' := by
  unfold System.step
  cases hevent : system.requestEvent with
  | none => exact ⟨_, rfl, _, h⟩
  | some event =>
    dsimp only
    by_cases hstate : system.function.state = .configured
    · rw [if_pos hstate]
      unfold System.deliver
      dsimp only
      obtain ⟨function', negotiation', hread, hhandled⟩ := h.handles hstate hevent
        { outcomes with
          readEndPoint0 :=
            outcomes.readEndPoint0.map fun _ => system.host.hostSelectedNtbInMaxSize }
      rw [hread, ok_bind]
      refine ⟨_, rfl, negotiation', ?_⟩
      split
      · next hdone => exact hhandled.succeeds hdone.2
      · exact h.handled hhandled.refines hhandled.fits hhandled.known
    · rw [if_neg hstate]
      exact ⟨_, rfl, _, h.idle⟩

/-! ## Runs -/

theorem Agreeing.step (h : Agreeing system negotiation) (e : SystemEvent) :
    ∃ system', system.step e = .ok system' ∧ ∃ negotiation', Agreeing system' negotiation' := by
  cases e with
  | selectConfiguration configured acknowledged outcomes =>
    exact h.selectConfiguration configured acknowledged outcomes
  | enterWorkingState =>
    refine ⟨_, rfl, negotiation, ?_⟩
    by_cases hselected : system.selectedConfiguration = true
    · rw [if_pos hselected]
      exact ⟨h.refines, h.fits, h.known, h.knownBySetting, h.knownByAdapter, h.known hselected,
        h.bufferOutputSize⟩
    · rw [if_neg hselected]
      exact h
  | request acknowledged outcomes => exact h.request acknowledged outcomes
  | abort => exact ⟨_, rfl, _, h.idle⟩
  | signal signal completionStatus outcomes => exact h.signal signal completionStatus outcomes

theorem agreeing_started {initializeOutcomes : UsbNcmFunctionDevice.InitializeOutcomes}
    (hdevice : newDevice.initializeDevice initializeOutcomes = .ok (.success, function))
    (host : HostConfiguration) (controlInterfaceNumber dataInterfaceNumber : UInt8) :
    Agreeing (startedSystem host controlInterfaceNumber dataInterfaceNumber function)
      function.negotiated := by
  have hrefines := initializeDevice_refines hdevice
  obtain ⟨c, d, e, i, bi, bo, rfl⟩ := initializeDevice_success hdevice
  exact ⟨hrefines, fits_of_none rfl rfl, nofun, nofun, nofun, trivial, rfl⟩

/-- How the adapter of the function fits the host, and what the host builds its adapter with. -/
structure Agrees (system : System) (netAdapter : NetAdapter) : Prop where
  use32BitNtb :
    netAdapter.parameters.use32BitNtb = (Host.adapterParameters system.host).use32BitNtb
  functionToHost : netAdapter.parameters.txMaxNtbSize ≤ system.host.hostSelectedNtbInMaxSize
  hostToFunction : (Host.adapterParameters system.host).txMaxNtbSize = system.bufferOutputSize
  alignment : (Host.adapterParameters system.host).txNdpAlignment =
    system.function.ntbParamters.wNdpOutAlignment
  divisor : (Host.adapterParameters system.host).txNdpDivisor =
    system.function.ntbParamters.wNdpOutDivisor
  payloadRemainder : (Host.adapterParameters system.host).txNdpPayloadRemainder =
    system.function.ntbParamters.wNdpOutPayloadRemainder

theorem Agreeing.agrees (h : Agreeing system negotiation) (hselected : system.selectedSetting = true)
    {netAdapter : NetAdapter} (hadapter : system.function.netAdapter = some netAdapter) :
    Agrees system netAdapter := by
  have hknows := h.knownBySetting hselected
  obtain ⟨-, hformat, hsize⟩ := h.fits.adapter netAdapter.parameters
    (by rw [h.refines.adapter, hadapter]; rfl)
  have hparameters := hknows.ntbParamters.trans h.refines.ntbParamters.symm
  refine ⟨hformat.trans hknows.use32BitNtb.symm, ?_, ?_, ?_, ?_, ?_⟩
  · rw [hsize, hknows.hostSelectedNtbInMaxSize]
    exact UInt32.le_refl _
  · exact (congrArg NtbParameters.dwNtbOutMaxSize hknows.ntbParamters).trans
      h.bufferOutputSize.symm
  · exact congrArg NtbParameters.wNdpOutAlignment hparameters
  · exact congrArg NtbParameters.wNdpOutDivisor hparameters
  · exact congrArg NtbParameters.wNdpOutPayloadRemainder hparameters

/-- No run of the two drivers stops, and in every state that one leads to, behind a `SelectSetting`
that succeeded, an adapter of the function agrees with the host. -/
theorem run_agrees {initializeOutcomes : UsbNcmFunctionDevice.InitializeOutcomes}
    (hdevice : newDevice.initializeDevice initializeOutcomes = .ok (.success, function))
    (host : HostConfiguration) (controlInterfaceNumber dataInterfaceNumber : UInt8)
    (events : List SystemEvent) :
    ∃ system, events.foldlM System.step
        (startedSystem host controlInterfaceNumber dataInterfaceNumber function) = .ok system ∧
      (system.selectedSetting = true → ∀ netAdapter,
        system.function.netAdapter = some netAdapter → Agrees system netAdapter) := by
  have hstep : ∀ system e, (∃ n, Agreeing system n) →
      ∃ system', system.step e = .ok system' ∧ ∃ n, Agreeing system' n :=
    fun system e ⟨_, h⟩ => h.step e
  obtain ⟨system, hsystem, negotiation, h⟩ := run_invariant hstep
    ⟨_, agreeing_started hdevice host controlInterfaceNumber dataInterfaceNumber⟩ events
  exact ⟨system, hsystem, fun hselected netAdapter hadapter => h.agrees hselected hadapter⟩

/-- A start-up that is cut off by a reset, and one that goes through. -/
def twoStartUps : List SystemEvent :=
  [.selectConfiguration true true exampleOutcomes, .request true exampleOutcomes,
    .request true exampleOutcomes, .request true exampleOutcomes,
    .signal (.reset .high) .success exampleOutcomes,
    .selectConfiguration true true exampleOutcomes, .request true exampleOutcomes,
    .request true exampleOutcomes, .request true exampleOutcomes, .request true exampleOutcomes]

theorem run_agrees_twoStartUps :
    ∃ system netAdapter, twoStartUps.foldlM System.step
        (startedSystem ⟨false, ⟨0, 0, 0, 0, 0, 0, 0, 0, 0, 0, 0, 0⟩, 0, 0, [0, 0, 0, 0, 0, 0]⟩ 0 1
          exampleDevice) = .ok system ∧
      system.selectedSetting = true ∧ system.function.netAdapter = some netAdapter ∧
      Agrees system netAdapter := by
  obtain ⟨system, hsystem, hagrees⟩ := run_agrees exampleDevice_initialized
    ⟨false, ⟨0, 0, 0, 0, 0, 0, 0, 0, 0, 0, 0, 0⟩, 0, 0, [0, 0, 0, 0, 0, 0]⟩ 0 1 twoStartUps
  have hselected : system.selectedSetting = true ∧ system.function.netAdapter.isSome := by
    cases hsystem
    exact ⟨rfl, rfl⟩
  obtain ⟨netAdapter, hadapter⟩ := Option.isSome_iff_exists.mp hselected.2
  exact ⟨system, netAdapter, hsystem, hselected.1, hadapter, hagrees hselected.1 _ hadapter⟩

end UsbNcm.Bus
