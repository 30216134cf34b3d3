import UsbNcm.Function.AdapterCalls
import UsbNcm.Function.PnpCycles

/-!
# What the device says of its adapter

The host asks for the parameters, the format and the size of the NTBs. Which events leave an adapter
that was created from something else.
-/

open Exec UsbNcm.Ntb

namespace UsbNcm.Function

/-! ## The machine -/

namespace Negotiation

variable {negotiation negotiation' : Negotiation} {outcomes : Outcomes} {setupPacket : SetupPacket}
  {notification : Notification}

/-- A SET_NTB_FORMAT that the device takes. -/
structure Reformats (negotiation : Negotiation) (setupPacket : SetupPacket) : Prop where
  configured : negotiation.configured = true
  wIndex : setupPacket.wIndex.toNat = negotiation.communicationInterfaceIndex.toNat
  requestType : ncmRequestType setupPacket.bRequest = some .setNtbFmt
  wValue : ¬ setupPacket.wValue > 1
  wLength : setupPacket.wLength = 0
  alternateInterfaceNumber : negotiation.alternateInterfaceNumber = 0

/-- An adapter that is there when the device takes a format has this format already. -/
def KeepsFormat (negotiation : Negotiation) (notification : Notification) : Prop :=
  ∀ setupPacket, notification.completionStatus.ntSuccess →
    notification.event = .setupPacket setupPacket → negotiation.Reformats setupPacket →
      ∀ adapter ∈ negotiation.adapter, adapter.use32BitNtb = decide (setupPacket.wValue = 1)

theorem upToDate_of_none (h : negotiation.adapter = none) : negotiation.UpToDate := by
  unfold UpToDate
  rw [h]
  nofun

theorem UpToDate.destroyAdapter (h : negotiation.UpToDate) (outcomes : Outcomes) :
    (negotiation.destroyAdapter outcomes).UpToDate := by
  unfold Negotiation.destroyAdapter
  split
  · exact upToDate_of_none rfl
  · exact h

theorem createAdapter_upToDate (h : negotiation.createAdapter outcomes = .ok negotiation') :
    negotiation'.UpToDate := by
  cases hadapter : negotiation.adapter with
  | none =>
    obtain ⟨i, adapter, hcreated, hmade⟩ := negotiation.createAdapter_spec outcomes hadapter
    cases hcreated.symm.trans h
    exact hmade
  | some adapter =>
    unfold Negotiation.createAdapter at h
    rw [if_pos (by rw [hadapter]; rfl)] at h
    cases h

/-- A format that is set without a look at the adapter. -/
theorem UpToDate.reformatted_iff (h : negotiation.UpToDate) (use32BitNtb : Bool) :
    { negotiation with use32BitNtb := use32BitNtb }.UpToDate ↔
      ∀ adapter ∈ negotiation.adapter, adapter.use32BitNtb = use32BitNtb := by
  constructor
  · intro hset adapter hmem
    rw [hset adapter hmem]
    rfl
  · intro hall adapter hmem
    have hmade := h adapter hmem
    have hformat : negotiation.use32BitNtb = use32BitNtb := by
      rw [← hall adapter hmem, hmade]
      rfl
    rw [hmade]
    unfold agreedParameters
    rw [hformat]

theorem Reformats.processSetupPacket (h : negotiation.Reformats setupPacket) (outcomes : Outcomes) :
    negotiation.processSetupPacket setupPacket outcomes =
      .ok { negotiation with use32BitNtb := decide (setupPacket.wValue = 1) } := by
  have htaken : ¬ (setupPacket.wValue > 1 ∨ setupPacket.wLength ≠ 0 ∨
      negotiation.alternateInterfaceNumber ≠ 0) := by
    rintro (hvalue | hlength | halternate)
    · exact h.wValue hvalue
    · exact hlength h.wLength
    · exact halternate h.alternateInterfaceNumber
  unfold Negotiation.processSetupPacket processRequest setNtbFmt
  rw [if_neg (not_not.mpr h.configured), if_pos h.wIndex, h.requestType]
  dsimp only
  rw [if_neg htaken]

/-- Every other request leaves the adapter up to date. -/
theorem UpToDate.processSetupPacket (h : negotiation.UpToDate)
    (hnot : ¬ negotiation.Reformats setupPacket)
    (hstep : negotiation.processSetupPacket setupPacket outcomes = .ok negotiation') :
    negotiation'.UpToDate := by
  unfold Negotiation.processSetupPacket processRequest at hstep
  split at hstep
  · cases hstep
  next hconfigured =>
    split at hstep
    · next hindex =>
      split at hstep
      · next htype =>
        unfold setNtbFmt at hstep
        split at hstep
        · cases hstep
          exact h
        · next htaken =>
          rw [not_or, not_or, not_not, not_not] at htaken
          exact absurd ⟨not_not.mp hconfigured, hindex, htype, htaken.1, htaken.2.1, htaken.2.2⟩ hnot
      · obtain rfl | ⟨ntbInMaxSize, -, -, -, -, -, hresize⟩ := setNtbInputSize_cases hstep
        · exact h
        · obtain ⟨resized, hresized, -, hupToDate, -⟩ := negotiation.resize_spec outcomes ntbInMaxSize
          cases hresized.symm.trans hresize
          exact hupToDate
      all_goals
        cases hstep
        exact h
    · cases hstep
      exact h

theorem UpToDate.setInterface (h : negotiation.UpToDate) {alternateInterfaceNumber : UInt16}
    (hstep : negotiation.setInterface alternateInterfaceNumber outcomes = .ok negotiation') :
    negotiation'.UpToDate := by
  have hselected : { negotiation with
      alternateInterfaceNumber := alternateInterfaceNumber }.UpToDate := h
  obtain rfl | ⟨-, rfl⟩ | ⟨-, hcreate⟩ | ⟨-, -, rfl⟩ := setInterface_cases hstep
  · exact h
  · exact hselected.destroyAdapter outcomes
  · exact createAdapter_upToDate hcreate
  · exact hselected

/-- The one event that can leave the adapter behind is a format that is taken. -/
theorem UpToDate.step_iff (h : negotiation.UpToDate) (notification : Notification) :
    negotiation.KeepsFormat notification ↔
      ∀ negotiation', negotiation.step notification = .ok negotiation' → negotiation'.UpToDate := by
  have hmoved : ∀ configured, { negotiation with configured := configured }.UpToDate := fun _ => h
  by_cases hreformats : notification.completionStatus.ntSuccess ∧ ∃ setupPacket,
      notification.event = .setupPacket setupPacket ∧ negotiation.Reformats setupPacket
  · obtain ⟨hstatus, setupPacket, hevent, hreformats⟩ := hreformats
    have hstep : negotiation.step notification =
        .ok { negotiation with use32BitNtb := decide (setupPacket.wValue = 1) } := by
      unfold step
      rw [if_pos hstatus, hevent]
      exact hreformats.processSetupPacket notification.outcomes
    rw [hstep]
    constructor
    · intro hkeeps negotiation' hnext
      cases hnext
      exact (h.reformatted_iff _).mpr (hkeeps setupPacket hstatus hevent hreformats)
    · intro hnext setupPacket' _ hevent' _
      cases hevent.symm.trans hevent'
      exact (h.reformatted_iff _).mp (hnext _ rfl)
  · refine iff_of_true (fun setupPacket hstatus hevent hre =>
      absurd ⟨hstatus, setupPacket, hevent, hre⟩ hreformats) fun negotiation' hstep => ?_
    unfold step at hstep
    split at hstep
    · next hstatus =>
      cases hevent : notification.event <;> rw [hevent] at hstep
      case attach | configured =>
        cases hstep
        exact hmoved _
      case suspend | resume =>
        cases hstep
        exact h
      case unConfigured | detach | reset =>
        cases hstep
        exact (hmoved false).destroyAdapter _
      case setupPacket setupPacket =>
        exact h.processSetupPacket (fun hre => hreformats ⟨hstatus, setupPacket, hevent, hre⟩) hstep
      case setInterface interfaceNumber alternateInterfaceNumber => exact h.setInterface hstep
    · cases hstep
      exact h

end Negotiation

/-! ## The answers -/

/-- What the host is told holds of this adapter. The function sends what the host calls IN. -/
def EndPoint0Data.Describes (data : EndPoint0Data) (parameters : AdapterParameters) : Prop :=
  match data with
  | .ntbParameters ntbParamters =>
    parameters.txNdpAlignment = ntbParamters.wNdpInAlignment ∧
      parameters.txNdpDivisor = ntbParamters.wNdpInDivisor ∧
      parameters.txNdpPayloadRemainder = ntbParamters.wNdpInPayloadRemainder ∧
      parameters.txMaxNtbSize ≤ ntbParamters.dwNtbInMaxSize
  | .ntbFormat format => parameters.use32BitNtb = decide (format = 1)
  | .ntbInputSize hostSelectedNtbInMaxSize => parameters.txMaxNtbSize = hostSelectedNtbInMaxSize

namespace UsbNcmFunctionDevice

variable {device device' : UsbNcmFunctionDevice} {outcomes : Outcomes} {setupPacket : SetupPacket}
  {actions : List DeviceAction} {data : EndPoint0Data}

/-- The adapter is the one that the device would create now, and whatever request comes next, what is
written to endpoint 0 describes it. -/
structure Truthful (device : UsbNcmFunctionDevice) : Prop where
  upToDate : device.negotiated.UpToDate
  answers : ∀ netAdapter, device.netAdapter = some netAdapter → ∀ setupPacket outcomes device' data,
    device.processSetupPacket setupPacket outcomes = .ok device' →
      .wroteToEndPoint0 data ∈ actionsSince device device' → data.Describes netAdapter.parameters

/-- What GET requests are answered with. -/
def answers (device : UsbNcmFunctionDevice) : List EndPoint0Data :=
  [.ntbParameters device.ntbParamters, .ntbFormat (if device.use32BitNtb then 1 else 0),
    .ntbInputSize device.hostSelectedNtbInMaxSize]

/-- Nothing is written to endpoint 0 but the answers. -/
def OnlyAnswers (device device' : UsbNcmFunctionDevice) : Prop :=
  ∃ actions, device'.log = device.log ++ actions ∧
    ∀ data, .wroteToEndPoint0 data ∈ actions → data ∈ device.answers

theorem onlyAnswers_of_silent (h : device'.log = device.log ++ actions)
    (hsilent : ∀ data, .wroteToEndPoint0 data ∉ actions) : OnlyAnswers device device' :=
  ⟨actions, h, fun data hmem => absurd hmem (hsilent data)⟩

theorem getRequest_onlyAnswers (size : UInt16) (hdata : data ∈ device.answers) :
    OnlyAnswers device (device.getRequest setupPacket outcomes size data).2 := by
  obtain ⟨extra, hlog, hextra⟩ := device.getRequest_log setupPacket outcomes size data
  refine ⟨extra, hlog, fun written hmem => ?_⟩
  rcases hextra with rfl | rfl
  · cases hmem
  · simp only [List.mem_cons, DeviceAction.wroteToEndPoint0.injEq, reduceCtorEq, List.not_mem_nil,
      or_false] at hmem
    rwa [hmem]

theorem setNtbFmt_onlyAnswers :
    OnlyAnswers device (device.setNtbFmt setupPacket outcomes).2 := by
  unfold setNtbFmt
  split
  · exact onlyAnswers_of_silent (List.append_nil _).symm (by simp)
  · exact @onlyAnswers_of_silent device _ [.sentHandshake outcomes.handshake] rfl (by simp)

theorem setNtbInputSize_onlyAnswers (h : Refines device device.negotiated) {stallEp0 : Bool}
    (hset : device.setNtbInputSize setupPacket outcomes = .ok (stallEp0, device')) :
    OnlyAnswers device device' := by
  by_cases hshape : setupPacket.wValue ≠ 0 ∨ setupPacket.wLength ≠ 4
  · unfold setNtbInputSize at hset
    rw [if_pos hshape] at hset
    cases hset
    exact onlyAnswers_of_silent (List.append_nil _).symm (by simp)
  · cases hread : outcomes.readEndPoint0 with
    | none =>
      unfold setNtbInputSize readFromEndPoint0 at hset
      rw [if_neg hshape, hread] at hset
      cases hset
      exact onlyAnswers_of_silent (List.append_nil _).symm (by simp)
    | some ntbInMaxSize =>
      by_cases hrange : ntbInMaxSize ≥ 2048 ∧ ntbInMaxSize ≤ device.ntbParamters.dwNtbInMaxSize
      · obtain ⟨taken, actions, hcall, hlog, hoff, -⟩ :=
          setNtbInputSize_taken h hshape hread hrange
        cases hcall.symm.trans hset
        refine onlyAnswers_of_silent hlog fun data hmem => ?_
        rcases List.mem_cons.mp hmem with heq | hmem
        · cases heq
        · exact hoff _ hmem trivial
      · have hnot : ¬ (ntbInMaxSize ≥ 2048 ∧
            ntbInMaxSize ≤ (device.sendHandshake outcomes).2.ntbParamters.dwNtbInMaxSize) := hrange
        unfold setNtbInputSize readFromEndPoint0 at hset
        rw [if_neg hshape, hread] at hset
        dsimp only at hset
        rw [if_neg hnot] at hset
        cases hset
        exact @onlyAnswers_of_silent device _ [.sentHandshake outcomes.handshake] rfl (by simp)

theorem processRequest_onlyAnswers (h : Refines device device.negotiated) {stallEp0 : Bool}
    (hrequest : device.processRequest setupPacket outcomes = .ok (stallEp0, device')) :
    OnlyAnswers device device' := by
  unfold processRequest at hrequest
  cases htype : ncmRequestType setupPacket.bRequest with
  | none =>
    rw [htype] at hrequest
    cases hrequest
    exact onlyAnswers_of_silent (List.append_nil _).symm (by simp)
  | some requestType =>
    rw [htype] at hrequest
    cases requestType with
    | getNtbParams | getNtbFmt | getNtbInputSize =>
      obtain rfl := congrArg Prod.snd (Except.ok.inj hrequest)
      exact getRequest_onlyAnswers _ (by simp [answers])
    | setNtbFmt =>
      obtain rfl := congrArg Prod.snd (Except.ok.inj hrequest)
      exact setNtbFmt_onlyAnswers
    | setNtbInputSize => exact setNtbInputSize_onlyAnswers h hrequest

theorem processSetupPacket_onlyAnswers (h : Refines device device.negotiated)
    (hprocess : device.processSetupPacket setupPacket outcomes = .ok device') :
    OnlyAnswers device device' := by
  have hstall : ∀ {stallEp0 : Bool} {left : UsbNcmFunctionDevice}, OnlyAnswers device left →
      OnlyAnswers device (if stallEp0 then left.stallEndPoint0 else left) := by
    rintro (_ | _) left ⟨actions, hlog, honly⟩
    · exact ⟨actions, hlog, honly⟩
    · refine ⟨actions ++ [.stalledEndPoint0], ?_, fun data hmem => honly data ?_⟩
      · rw [← List.append_assoc, ← hlog]
        rfl
      · simpa using hmem
  unfold processSetupPacket at hprocess
  by_cases hstate : device.state = .configured
  swap
  · rw [if_pos hstate] at hprocess
    cases hprocess
  rw [if_neg (not_not.mpr hstate)] at hprocess
  dsimp only at hprocess
  split at hprocess
  · obtain ⟨⟨stallEp0, left⟩, hrequest, hleft⟩ := bind_eq_ok.mp hprocess
    cases hleft
    exact hstall (processRequest_onlyAnswers h hrequest)
  · cases hprocess
    exact hstall (onlyAnswers_of_silent (List.append_nil _).symm (by simp))

/-- The answers come from the fields that the adapter was created from. -/
theorem truthful_of_upToDate (h : Provided device) (hupToDate : device.negotiated.UpToDate) :
    Truthful device := by
  refine ⟨hupToDate, fun netAdapter hadapter setupPacket outcomes device' data hprocess hmem => ?_⟩
  have hmade : netAdapter.parameters = device.negotiated.agreedParameters := by
    apply hupToDate
    change netAdapter.parameters ∈ device.netAdapter.map (·.parameters)
    rw [hadapter]
    rfl
  obtain ⟨actions, hlog, honly⟩ :=
    processSetupPacket_onlyAnswers ⟨rfl, h.callbacks, h.ntbParamters⟩ hprocess
  rw [actionsSince_eq hlog] at hmem
  have hanswer := honly data hmem
  simp only [answers, List.mem_cons, List.not_mem_nil, or_false] at hanswer
  rw [hmade]
  obtain rfl | rfl | rfl := hanswer
  · rw [h.ntbParamters]
    exact ⟨rfl, rfl, rfl, h.size_le⟩
  · change device.use32BitNtb = _
    cases device.use32BitNtb <;> rfl
  · rfl

/-- Without its registration or its class information a device is left as it was. Otherwise it begins
with the parameters of the driver, and with the adapter that it has. -/
theorem initializeDevice_cases (device : UsbNcmFunctionDevice) (outcomes : InitializeOutcomes) :
    (¬ (outcomes.registerClassDevice.ntSuccess ∧ outcomes.classInformation.isSome) ∧
      ∃ status, ¬ status.ntSuccess ∧ device.initializeDevice outcomes = .ok (status, device)) ∨
    ((outcomes.registerClassDevice.ntSuccess ∧ outcomes.classInformation.isSome) ∧
      ∃ status c d e i bi bo, device.initializeDevice outcomes =
        .ok (status, { (device.recached c d e i bi bo).setParameters with
          cdcMacAddress := outcomes.cdcMacAddress })) := by
  unfold initializeDevice
  by_cases hregister : outcomes.registerClassDevice.ntSuccess = true
  swap
  · rw [if_pos hregister]
    exact Or.inl ⟨fun h => hregister h.1, _, hregister, rfl⟩
  rw [if_neg (not_not.mpr hregister)]
  cases hinfo : outcomes.classInformation with
  | none => exact Or.inl ⟨nofun, .unsuccessful, by decide, rfl⟩
  | some info =>
    obtain ⟨status, c, d, e, i, bi, bo, hcache, hstatus, -⟩ :=
      cacheClassInformation_ok device (some info)
    refine Or.inr ⟨⟨hregister, rfl⟩, ?_⟩
    simp only [hcache, ok_bind, hstatus, Option.isSome_some, not_true_eq_false, if_false]
    split
    · exact ⟨_, c, d, e, i, bi, bo, rfl⟩
    · split
      · exact ⟨_, c, d, e, i, bi, bo, rfl⟩
      · exact ⟨_, c, d, e, i, bi, bo, rfl⟩

end UsbNcmFunctionDevice

/-! ## Over starts and stops -/

namespace FunctionPnp

open UsbNcmFunctionDevice

variable {pnp pnp' : FunctionPnp}

/-- Until the device is initialised for the first time it has no adapter, and the bus is not heard. -/
def Ready (pnp : FunctionPnp) : Prop :=
  Provided pnp.device ∨
    (pnp.device.netAdapter = none ∧ (pnp.phase = .added ∨ pnp.phase = .failed))

/-- An adapter that is there when the device is initialised again is as the device would create it
then, and one that is there when the device takes a format has this format. -/
def KeepsReported (pnp : FunctionPnp) : FunctionPnpEvent → Prop
  | .prepareHardware outcomes => pnp.phase = .added →
    outcomes.registerClassDevice.ntSuccess → outcomes.classInformation.isSome →
      ∀ netAdapter, pnp.device.netAdapter = some netAdapter →
        netAdapter.parameters = adapterParameters ntbParameters false
          (getNextMACAddress outcomes.cdcMacAddress) ntbParameters.dwNtbInMaxSize
  | .busEventNotificationRead notification =>
    pnp.phase = .subscribed → pnp.device.negotiated.KeepsFormat notification
  | _ => True

theorem Ready.truthful_iff (h : Ready pnp) :
    Truthful pnp.device ↔ pnp.device.negotiated.UpToDate := by
  refine ⟨Truthful.upToDate, fun hupToDate => ?_⟩
  rcases h with hprovided | ⟨hnone, -⟩
  · exact truthful_of_upToDate hprovided hupToDate
  · refine ⟨hupToDate, fun netAdapter hadapter => ?_⟩
    rw [hnone] at hadapter
    cases hadapter

/-- In a phase in which the device has been initialised. -/
theorem Ready.provided (h : Ready pnp)
    (hphase : pnp.phase = .prepared ∨ pnp.phase = .suspended ∨ pnp.phase = .subscribed) :
    Provided pnp.device := by
  rcases h with hprovided | ⟨-, hadded | hfailed⟩
  · exact hprovided
  · rw [hadded] at hphase
    rcases hphase with h | h | h <;> cases h
  · rw [hfailed] at hphase
    rcases hphase with h | h | h <;> cases h

theorem prepareHardware_eq {outcomes : UsbNcmFunctionDevice.InitializeOutcomes} {status : NtStatus}
    {device' : UsbNcmFunctionDevice} (hphase : pnp.phase = .added)
    (hcall : pnp.device.initializeDevice outcomes = .ok (status, device')) :
    pnp.step (.prepareHardware outcomes) = .ok
      { pnp.registerClassDevice outcomes.registerClassDevice with
        device := device'
        phase := if status.ntSuccess then .prepared else .failed } := by
  unfold step prepareHardware
  dsimp only
  rw [if_pos hphase, hcall]
  rfl

theorem prepareHardware_reported (h : Ready pnp)
    (outcomes : UsbNcmFunctionDevice.InitializeOutcomes) (hphase : pnp.phase = .added) :
    ∃ pnp', pnp.step (.prepareHardware outcomes) = .ok pnp' ∧ Ready pnp' ∧
      (pnp.device.negotiated.UpToDate →
        (KeepsReported pnp (.prepareHardware outcomes) ↔ pnp'.device.negotiated.UpToDate)) := by
  rcases initializeDevice_cases pnp.device outcomes with
    ⟨hnot, status, hstatus, hcall⟩ | ⟨⟨hregister, hinfo⟩, status, c, d, e, i, bi, bo, hcall⟩
  · refine ⟨_, prepareHardware_eq hphase hcall, ?_, ?_⟩
    · rcases h with hprovided | ⟨hnone, -⟩
      · exact Or.inl hprovided
      · exact Or.inr ⟨hnone, Or.inr (if_neg hstatus)⟩
    · exact iff_of_true fun _ hregister hinfo => absurd ⟨hregister, hinfo⟩ hnot
  · refine ⟨_, prepareHardware_eq hphase hcall, Or.inl ⟨rfl, ?_, ?_, ?_⟩, ?_⟩
    · change 2048 ≤ ntbParameters.dwNtbInMaxSize
      decide
    · exact UInt32.le_refl ntbParameters.dwNtbInMaxSize
    · intro hsome
      rcases h with hprovided | ⟨hnone, -⟩
      · exact hprovided.callbacks hsome
      · change pnp.device.netAdapter.isSome at hsome
        rw [hnone] at hsome
        cases hsome
    · intro _
      unfold KeepsReported Negotiation.UpToDate
      change _ ↔ ∀ adapter ∈ pnp.device.netAdapter.map (·.parameters), adapter = adapterParameters
        ntbParameters false (getNextMACAddress outcomes.cdcMacAddress) ntbParameters.dwNtbInMaxSize
      constructor
      · intro hkeeps adapter hmem
        obtain ⟨netAdapter, hadapter, rfl⟩ := Option.map_eq_some_iff.mp hmem
        exact hkeeps hphase hregister hinfo netAdapter hadapter
      · intro hall _ _ _ netAdapter hadapter
        exact hall _ (Option.mem_map_of_mem _ hadapter)

theorem busEvent_reported (h : Ready pnp) (notification : Notification)
    (hphase : pnp.phase = .subscribed) :
    (∀ pnp', pnp.step (.busEventNotificationRead notification) = .ok pnp' → Ready pnp') ∧
      (pnp.device.negotiated.UpToDate →
        (KeepsReported pnp (.busEventNotificationRead notification) ↔
          ∀ pnp', pnp.step (.busEventNotificationRead notification) = .ok pnp' →
            pnp'.device.negotiated.UpToDate)) := by
  have hprovided := h.provided (Or.inr (Or.inr hphase))
  have hrefines : Refines pnp.device pnp.device.negotiated :=
    ⟨rfl, hprovided.callbacks, hprovided.ntbParamters⟩
  have hread := busEventNotificationRead_refines hrefines notification
  have hstep : pnp.step (.busEventNotificationRead notification) =
      (pnp.device.busEventNotificationRead notification).map fun device =>
        { pnp with device := device } := if_pos hphase
  have hcases : ∀ pnp', pnp.step (.busEventNotificationRead notification) = .ok pnp' →
      ∃ device', pnp.device.busEventNotificationRead notification = .ok device' ∧
        pnp' = { pnp with device := device' } := by
    intro pnp' hok
    rw [hstep] at hok
    cases hdevice : pnp.device.busEventNotificationRead notification with
    | error stop =>
      rw [hdevice] at hok
      cases hok
    | ok device' =>
      rw [hdevice] at hok
      exact ⟨device', rfl, (Except.ok.inj hok).symm⟩
  constructor
  · intro pnp' hok
    obtain ⟨device', hdevice, rfl⟩ := hcases pnp' hok
    exact Or.inl (hprovided.step hdevice)
  · intro hupToDate
    have hkeeps : KeepsReported pnp (.busEventNotificationRead notification) ↔
        pnp.device.negotiated.KeepsFormat notification :=
      ⟨fun hall => hall hphase, fun hall _ => hall⟩
    rw [hkeeps, hupToDate.step_iff]
    constructor
    · intro hall pnp' hok
      obtain ⟨device', hdevice, rfl⟩ := hcases pnp' hok
      obtain ⟨negotiation', hnext, hrefines'⟩ := hread.ok_left hdevice
      change device'.negotiated.UpToDate
      rw [hrefines'.negotiation_eq]
      exact hall negotiation' hnext
    · intro hall negotiation' hnext
      obtain ⟨device', hdevice, hrefines'⟩ := hread.ok_right hnext
      rw [← hrefines'.negotiation_eq]
      exact hall { pnp with device := device' } (by rw [hstep, hdevice]; rfl)

/-- The events that do not get to the device. -/
theorem step_sameDevice {event : FunctionPnpEvent} (h : Ready pnp) (hstep : pnp.step event = .ok pnp')
    (hprepare : ∀ outcomes, event = .prepareHardware outcomes → pnp.phase ≠ .added)
    (hread : ∀ notification, event = .busEventNotificationRead notification →
      pnp.phase ≠ .subscribed) :
    pnp'.device = pnp.device ∧ Ready pnp' := by
  cases event with
  | prepareHardware outcomes =>
    obtain rfl := Except.ok.inj ((if_neg (hprepare outcomes rfl)).symm.trans hstep)
    exact ⟨rfl, h⟩
  | busEventNotificationRead notification =>
    obtain rfl := Except.ok.inj ((if_neg (hread notification rfl)).symm.trans hstep)
    exact ⟨rfl, h⟩
  | releaseHardware =>
    unfold step releaseHardware at hstep
    dsimp only at hstep
    split at hstep
    · split at hstep
      · cases hstep
      · cases hstep
        rcases h with hprovided | ⟨hnone, -⟩
        · exact ⟨rfl, Or.inl hprovided⟩
        · exact ⟨rfl, Or.inr ⟨hnone, Or.inl rfl⟩⟩
    · cases hstep
      exact ⟨rfl, h⟩
  | selfManagedIoInitAndRestart status =>
    obtain rfl := Except.ok.inj hstep
    split
    · next hphase => exact ⟨rfl, Or.inl (h.provided (hphase.imp_right Or.inl))⟩
    · exact ⟨rfl, h⟩
  | selfManagedIoSuspend =>
    obtain rfl := Except.ok.inj hstep
    split
    · next hphase => exact ⟨rfl, Or.inl (h.provided (Or.inr (Or.inr hphase)))⟩
    · exact ⟨rfl, h⟩

/-- What an event leads to is ready again, and up to date exactly when the event keeps it so. -/
theorem step_reported (h : Ready pnp) (event : FunctionPnpEvent) :
    (∀ pnp', pnp.step event = .ok pnp' → Ready pnp') ∧
      (pnp.device.negotiated.UpToDate → (KeepsReported pnp event ↔
        ∀ pnp', pnp.step event = .ok pnp' → pnp'.device.negotiated.UpToDate)) := by
  have hsame : KeepsReported pnp event →
      (∀ pnp', pnp.step event = .ok pnp' → pnp'.device = pnp.device ∧ Ready pnp') →
      (∀ pnp', pnp.step event = .ok pnp' → Ready pnp') ∧
        (pnp.device.negotiated.UpToDate → (KeepsReported pnp event ↔
          ∀ pnp', pnp.step event = .ok pnp' → pnp'.device.negotiated.UpToDate)) := by
    refine fun hkeeps hall => ⟨fun pnp' hok => (hall pnp' hok).2, fun hupToDate =>
      iff_of_true hkeeps fun pnp' hok => ?_⟩
    rw [(hall pnp' hok).1]
    exact hupToDate
  cases event with
  | prepareHardware outcomes =>
    by_cases hphase : pnp.phase = .added
    · obtain ⟨reached, hstep, hready, hiff⟩ := prepareHardware_reported h outcomes hphase
      have honly : ∀ {I : FunctionPnp → Prop},
          (∀ pnp', pnp.step (.prepareHardware outcomes) = .ok pnp' → I pnp') ↔ I reached := by
        intro I
        refine ⟨fun hall => hall reached hstep, fun hI pnp' hok => ?_⟩
        cases hstep.symm.trans hok
        exact hI
      refine ⟨honly.mpr hready, fun hupToDate => ?_⟩
      rw [honly (I := fun pnp' => pnp'.device.negotiated.UpToDate)]
      exact hiff hupToDate
    · exact hsame (fun hadded => absurd hadded hphase) fun pnp' hok =>
        step_sameDevice h hok (fun _ _ => hphase) fun _ heq => nomatch heq
  | busEventNotificationRead notification =>
    by_cases hphase : pnp.phase = .subscribed
    · exact busEvent_reported h notification hphase
    · exact hsame (fun hsubscribed => absurd hsubscribed hphase) fun pnp' hok =>
        step_sameDevice h hok (fun _ heq => nomatch heq) fun _ _ => hphase
  | releaseHardware | selfManagedIoInitAndRestart status | selfManagedIoSuspend =>
    exact hsame trivial fun pnp' hok =>
      step_sameDevice h hok (fun _ heq => nomatch heq) fun _ heq => nomatch heq

/-! ## Runs -/

/-- In every state of every run of starts, suspends, restarts, stops and bus events, an adapter has
the format, the size and the address that the device would create it with, and every answer that the
host can get on endpoint 0 describes it, exactly when the device never takes another format while it
has an adapter and is not initialised again with an adapter of other parameters. -/
theorem always_truthful_iff (events : List FunctionPnpEvent) :
    Always step (fun pnp => Truthful pnp.device) added events ↔
      AllSteps step KeepsReported added events := by
  have hadded : Ready added := Or.inr ⟨rfl, Or.inl rfl⟩
  apply always_iff (J := Ready)
  · exact fun pnp event pnp' h hstep => (step_reported h event).1 pnp' hstep
  · intro pnp event h htruthful
    obtain ⟨hready, hiff⟩ := step_reported h event
    rw [hiff htruthful.upToDate]
    exact forall_congr' fun pnp' => imp_congr_right fun hok => (hready pnp' hok).truthful_iff.symm
  · exact hadded
  · exact hadded.truthful_iff.mpr (Negotiation.upToDate_of_none rfl)

/-- SET_NTB_INPUT_SIZE leaves an adapter at alternate setting 0, where the format can be set. -/
example : (([.configured, .setInterface 1 1, .setupPacket ⟨0x86, 0, 0, 4⟩,
      .setupPacket ⟨0x84, 1, 0, 0⟩].map fun event =>
        FunctionPnpEvent.busEventNotificationRead (successful event)).foldlM step
          ⟨exampleDevice, .subscribed, some 0, 1, [.take 0]⟩).map (fun pnp : FunctionPnp =>
        (pnp.device.use32BitNtb, pnp.device.netAdapter.map (·.parameters.use32BitNtb))) =
    .ok (true, some false) := rfl

end FunctionPnp

end UsbNcm.Function
