import UsbNcm.Function.InputSize

/-!
# Setup requests that are carried out or refused

A request should end in one of two ways: endpoint 0 is stalled and nothing has changed, or a
handshake was sent and what was asked for is in force. The handlers write, send and stall in
different orders, and do not all look at the handshake.
-/

open Exec ByteMemory UsbNcm.Ntb

namespace UsbNcm.Function

namespace Negotiation

variable {negotiation negotiation' : Negotiation} {outcomes : Outcomes} {notification : Notification}

/-- The size is one that the host may select. -/
def SizeInRange (negotiation : Negotiation) : Prop :=
  2048 ≤ negotiation.hostSelectedNtbInMaxSize ∧
    negotiation.hostSelectedNtbInMaxSize ≤ ntbParameters.dwNtbInMaxSize

theorem sizeInRange_greatest
    (hsize : negotiation.hostSelectedNtbInMaxSize = ntbParameters.dwNtbInMaxSize) :
    negotiation.SizeInRange := by
  unfold SizeInRange
  rw [hsize]
  decide

theorem SizeInRange.destroyAdapter (h : negotiation.SizeInRange) (outcomes : Outcomes) :
    (negotiation.destroyAdapter outcomes).SizeInRange := by
  unfold Negotiation.destroyAdapter
  split
  · exact sizeInRange_greatest rfl
  · exact h

theorem SizeInRange.createAdapter (h : negotiation.SizeInRange)
    (hcreate : negotiation.createAdapter outcomes = .ok negotiation') : negotiation'.SizeInRange := by
  unfold Negotiation.createAdapter at hcreate
  split at hcreate
  · cases hcreate
  · obtain rfl := Except.ok.inj hcreate
    split <;> exact h

theorem SizeInRange.processSetupPacket {setupPacket : SetupPacket} (h : negotiation.SizeInRange)
    (hprocess : negotiation.processSetupPacket setupPacket outcomes = .ok negotiation') :
    negotiation'.SizeInRange := by
  obtain rfl | rfl | ⟨ntbInMaxSize, -, -, -, -, -, hge, hle, hresize⟩ :=
    processSetupPacket_cases hprocess
  · exact h
  · obtain ⟨use32BitNtb, hformat⟩ := negotiation.setNtbFmt_format setupPacket
    rw [hformat]
    exact h
  · unfold resize at hresize
    split at hresize
    · have hsized : { negotiation with hostSelectedNtbInMaxSize := ntbInMaxSize }.SizeInRange :=
        ⟨hge, hle⟩
      exact (hsized.destroyAdapter outcomes).createAdapter hresize
    · obtain rfl := Except.ok.inj hresize
      exact ⟨hge, hle⟩

theorem SizeInRange.step (h : negotiation.SizeInRange)
    (hstep : negotiation.step notification = .ok negotiation') : negotiation'.SizeInRange := by
  unfold Negotiation.step at hstep
  split at hstep
  · obtain ⟨completionStatus, event, outcomes⟩ := notification
    cases event with
    | attach | suspend | resume | configured =>
      obtain rfl := Except.ok.inj hstep
      exact h
    | unConfigured | detach | reset =>
      obtain rfl := Except.ok.inj hstep
      have hleft : { negotiation with configured := false }.SizeInRange := h
      exact hleft.destroyAdapter outcomes
    | setupPacket setupPacket => exact h.processSetupPacket hstep
    | setInterface interfaceNumber alternateInterfaceNumber =>
      have hselected : { negotiation with
        alternateInterfaceNumber := alternateInterfaceNumber }.SizeInRange := h
      obtain rfl | ⟨-, rfl⟩ | ⟨-, hcreate⟩ | ⟨-, -, rfl⟩ := setInterface_cases hstep
      · exact h
      · exact hselected.destroyAdapter outcomes
      · exact hselected.createAdapter hcreate
      · exact hselected
  · obtain rfl := Except.ok.inj hstep
    exact h

end Negotiation

namespace UsbNcmFunctionDevice

variable {device device1 device' : UsbNcmFunctionDevice} {negotiation : Negotiation}
  {outcomes : Outcomes} {setupPacket : SetupPacket} {actions : List DeviceAction}
  {ntbInMaxSize : UInt32}

/-! ## The two ends -/

def actionsSince (device device' : UsbNcmFunctionDevice) : List DeviceAction :=
  device'.log.drop device.log.length

theorem actionsSince_eq (h : device'.log = device.log ++ actions) :
    actionsSince device device' = actions := by
  unfold actionsSince
  rw [h, List.drop_left]

structure Unchanged (device device' : UsbNcmFunctionDevice) : Prop
    extends SameAdapter device device' where
  use32BitNtb : device'.use32BitNtb = device.use32BitNtb
  hostSelectedNtbInMaxSize : device'.hostSelectedNtbInMaxSize = device.hostSelectedNtbInMaxSize
  -- nor is it an adapter that was made anew
  kept : ∀ netAdapter, .destroyedAdapter netAdapter ∉ actionsSince device device'

structure Refused (device device' : UsbNcmFunctionDevice) : Prop
    extends Unchanged device device' where
  stalled : .stalledEndPoint0 ∈ actionsSince device device'

/-- What a SET request asks for is what the device has, and what its adapter was created with. -/
def InForce (device : UsbNcmFunctionDevice) (setupPacket : SetupPacket) (outcomes : Outcomes) :
    Prop :=
  match ncmRequestType setupPacket.bRequest with
  | some .setNtbFmt =>
    device.use32BitNtb = decide (setupPacket.wValue = 1) ∧
      ∀ netAdapter, device.netAdapter = some netAdapter →
        netAdapter.parameters.use32BitNtb = decide (setupPacket.wValue = 1)
  | some .setNtbInputSize =>
    ∃ ntbInMaxSize, outcomes.readEndPoint0 = some ntbInMaxSize ∧
      device.hostSelectedNtbInMaxSize = ntbInMaxSize ∧
      ∀ netAdapter, device.netAdapter = some netAdapter →
        netAdapter.parameters.txMaxNtbSize = ntbInMaxSize
  | some .getNtbParams | some .getNtbFmt | some .getNtbInputSize | none => True

/-- The actions that tell the host how its request ended. -/
def Answers : DeviceAction → Prop
  | .sentHandshake _ | .stalledEndPoint0 => True
  | _ => False

theorem not_answers_of_off {action : DeviceAction} (h : ¬ OnEndPoint0 action) :
    ¬ Answers action := by
  cases action with
  | sentHandshake | stalledEndPoint0 => exact fun _ => h trivial
  | _ => exact id

def Acknowledged (actions : List DeviceAction) : Prop :=
  ∃ status, .sentHandshake status ∈ actions ∧ status.ntSuccess

structure CarriedOut (device : UsbNcmFunctionDevice) (setupPacket : SetupPacket)
    (outcomes : Outcomes) (device' : UsbNcmFunctionDevice) : Prop where
  acknowledged : Acknowledged (actionsSince device device')
  inForce : device'.InForce setupPacket outcomes

/-- The request ends in exactly one of the two ways. -/
def Atomic (device : UsbNcmFunctionDevice) (setupPacket : SetupPacket) (outcomes : Outcomes)
    (device' : UsbNcmFunctionDevice) : Prop :=
  Xor (Refused device device') (CarriedOut device setupPacket outcomes device')

/-! ## When a request does -/

/-- A request that is answered with data must have its handshake sent. -/
def GetOrderly (setupPacket : SetupPacket) (outcomes : Outcomes) (size : UInt16) : Prop :=
  ¬ (setupPacket.wValue ≠ 0 ∨ setupPacket.wLength < size) → outcomes.writeEndPoint0.ntSuccess →
    outcomes.handshake.ntSuccess

/-- The format is written first. Without a handshake it must be the one there was before, and with
one an adapter must have been created with it. -/
def FormatOrderly (device : UsbNcmFunctionDevice) (setupPacket : SetupPacket) (outcomes : Outcomes) :
    Prop :=
  ¬ (setupPacket.wValue > 1 ∨ setupPacket.wLength ≠ 0 ∨ device.alternateInterfaceNumber ≠ 0) →
    if outcomes.handshake.ntSuccess then
      ∀ netAdapter, device.netAdapter = some netAdapter →
        netAdapter.parameters.use32BitNtb = decide (setupPacket.wValue = 1)
    else device.use32BitNtb = decide (setupPacket.wValue = 1)

/-- Once the size is read there is no stall any more. The handshake must be sent, the size must be
one that is taken, and an adapter must not make it be forgotten. -/
def SizeOrderly (device : UsbNcmFunctionDevice) (setupPacket : SetupPacket) (outcomes : Outcomes) :
    Prop :=
  ¬ (setupPacket.wValue ≠ 0 ∨ setupPacket.wLength ≠ 4) →
    ∀ ntbInMaxSize, outcomes.readEndPoint0 = some ntbInMaxSize →
      outcomes.handshake.ntSuccess ∧ 2048 ≤ ntbInMaxSize ∧
        ntbInMaxSize ≤ device.ntbParamters.dwNtbInMaxSize ∧
        (device.netAdapter = none ∨ ntbInMaxSize = device.ntbParamters.dwNtbInMaxSize)

def Orderly (device : UsbNcmFunctionDevice) (setupPacket : SetupPacket) (outcomes : Outcomes) :
    Prop :=
  setupPacket.wIndex.toNat = device.communicationInterfaceIndex.toNat →
    match ncmRequestType setupPacket.bRequest with
    | some .getNtbParams => GetOrderly setupPacket outcomes 0x1C
    | some .getNtbFmt => GetOrderly setupPacket outcomes 2
    | some .getNtbInputSize => GetOrderly setupPacket outcomes 4
    | some .setNtbFmt => device.FormatOrderly setupPacket outcomes
    | some .setNtbInputSize => device.SizeOrderly setupPacket outcomes
    | none => True

/-! ## How a request ends -/

/-- A request that is not stalled must be carried out. -/
theorem atomic_iff_carriedOut (hlog : device'.log = device.log ++ actions)
    (hstall : .stalledEndPoint0 ∉ actions) :
    Atomic device setupPacket outcomes device' ↔ CarriedOut device setupPacket outcomes device' := by
  have hnot : ¬ Refused device device' := by
    intro hrefused
    have hmem := hrefused.stalled
    rw [actionsSince_eq hlog] at hmem
    exact hstall hmem
  unfold Atomic
  constructor
  · rintro (⟨hrefused, -⟩ | ⟨hcarried, -⟩)
    · exact absurd hrefused hnot
    · exact hcarried
  · intro hcarried
    exact Or.inr ⟨hcarried, hnot⟩

/-- One that is stalled without a handshake must not have changed anything. -/
theorem atomic_iff_unchanged (hlog : device1.log = device.log ++ actions)
    (hack : ¬ Acknowledged (actions ++ [.stalledEndPoint0])) :
    Atomic device setupPacket outcomes device1.stallEndPoint0 ↔
      Unchanged device device1.stallEndPoint0 := by
  have hstalled : actionsSince device device1.stallEndPoint0 = actions ++ [.stalledEndPoint0] := by
    apply actionsSince_eq
    rw [← List.append_assoc, ← hlog]
    rfl
  have hnot : ¬ CarriedOut device setupPacket outcomes device1.stallEndPoint0 := by
    intro hcarried
    have hacknowledged := hcarried.acknowledged
    rw [hstalled] at hacknowledged
    exact hack hacknowledged
  have hmem : .stalledEndPoint0 ∈ actionsSince device device1.stallEndPoint0 := by
    rw [hstalled]
    exact List.mem_append_right _ (List.mem_singleton.mpr rfl)
  unfold Atomic
  constructor
  · rintro (⟨hrefused, -⟩ | ⟨hcarried, -⟩)
    · exact hrefused.toUnchanged
    · exact absurd hcarried hnot
  · intro hunchanged
    exact Or.inl ⟨⟨hunchanged, hmem⟩, hnot⟩

theorem acknowledged_stalled : ¬ Acknowledged ([] ++ [.stalledEndPoint0]) := by
  rintro ⟨status, hmem, -⟩
  simp at hmem

/-- Refused before anything was done. -/
theorem atomic_stallEndPoint0 (device : UsbNcmFunctionDevice) (setupPacket : SetupPacket)
    (outcomes : Outcomes) : Atomic device setupPacket outcomes device.stallEndPoint0 := by
  apply (atomic_iff_unchanged (List.append_nil _).symm acknowledged_stalled).mpr
  refine ⟨⟨rfl, rfl, rfl⟩, rfl, rfl, fun netAdapter hmem => ?_⟩
  have hlog : device.stallEndPoint0.log = device.log ++ [.stalledEndPoint0] := rfl
  rw [actionsSince_eq hlog] at hmem
  simp at hmem

/-- What is left of `processSetupPacket` when the request has been handled. -/
def concluded (result : Bool × UsbNcmFunctionDevice) : UsbNcmFunctionDevice :=
  if result.1 then result.2.stallEndPoint0 else result.2

theorem processSetupPacket_concluded (hstate : device.state = .configured) :
    device.processSetupPacket setupPacket outcomes =
      (if setupPacket.wIndex.toNat = device.communicationInterfaceIndex.toNat then
        device.processRequest setupPacket outcomes
      else .ok (true, device)).map concluded := by
  unfold processSetupPacket
  rw [if_neg (not_not.mpr hstate)]
  split
  · cases device.processRequest setupPacket outcomes with
    | error stop => rfl
    | ok result => rfl
  · rfl

/-- A request that is answered by its handshake alone must have it sent, and what it asks for must be
in force. -/
theorem atomic_iff_inForce {before after : List DeviceAction}
    (hlog : device'.log = device.log ++ (before ++ .sentHandshake outcomes.handshake :: after))
    (hquiet : ∀ action ∈ before ++ after, ¬ Answers action) :
    Atomic device setupPacket outcomes device' ↔
      outcomes.handshake.ntSuccess ∧ device'.InForce setupPacket outcomes := by
  have hanswer : ∀ action ∈ before ++ .sentHandshake outcomes.handshake :: after,
      Answers action → action = .sentHandshake outcomes.handshake := by
    intro action hmem hanswers
    rcases List.mem_append.mp hmem with hmem | hmem
    · exact absurd hanswers (hquiet action (List.mem_append_left _ hmem))
    · rcases List.mem_cons.mp hmem with heq | hmem
      · exact heq
      · exact absurd hanswers (hquiet action (List.mem_append_right _ hmem))
  have hack : Acknowledged (before ++ .sentHandshake outcomes.handshake :: after) ↔
      outcomes.handshake.ntSuccess := by
    constructor
    · rintro ⟨status, hmem, hstatus⟩
      obtain rfl := DeviceAction.sentHandshake.inj (hanswer _ hmem trivial)
      exact hstatus
    · intro hstatus
      exact ⟨_, List.mem_append_right _ List.mem_cons_self, hstatus⟩
  rw [atomic_iff_carriedOut hlog fun hmem => nomatch hanswer _ hmem trivial]
  constructor
  · rintro ⟨hacknowledged, hforce⟩
    rw [actionsSince_eq hlog] at hacknowledged
    exact ⟨hack.mp hacknowledged, hforce⟩
  · rintro ⟨hhandshake, hforce⟩
    refine ⟨?_, hforce⟩
    rw [actionsSince_eq hlog]
    exact hack.mpr hhandshake

/-! ## The handlers -/

theorem getRequest_atomic_iff (hforce : ∀ device', InForce device' setupPacket outcomes)
    (size : UInt16) (data : EndPoint0Data) :
    Atomic device setupPacket outcomes
        (concluded (device.getRequest setupPacket outcomes size data)) ↔
      GetOrderly setupPacket outcomes size := by
  unfold getRequest writeToEndPoint0 GetOrderly
  split
  · next hrefused =>
    exact iff_of_true (atomic_stallEndPoint0 device setupPacket outcomes) fun h => absurd hrefused h
  · next haccepted =>
    by_cases hwrite : outcomes.writeEndPoint0.ntSuccess
    · rw [if_pos hwrite]
      have hlog : (concluded (!outcomes.writeEndPoint0.ntSuccess,
          ({ device with
            log := device.log ++ [DeviceAction.wroteToEndPoint0 data] }.sendHandshake outcomes).2)).log
            = device.log ++ ([.wroteToEndPoint0 data] ++ [.sentHandshake outcomes.handshake]) := by
        simp [concluded, hwrite, sendHandshake]
      rw [atomic_iff_inForce hlog (by simp [Answers])]
      constructor
      · exact fun hends _ _ => hends.1
      · exact fun horderly => ⟨horderly haccepted hwrite, hforce _⟩
    · rw [if_neg hwrite]
      have hstall : concluded (!outcomes.writeEndPoint0.ntSuccess, device) =
          device.stallEndPoint0 := by
        simp [concluded, hwrite]
      dsimp only
      rw [hstall]
      exact iff_of_true (atomic_stallEndPoint0 device setupPacket outcomes)
        fun _ h => absurd h hwrite

/-- With the new format, after the handshake. -/
def formatted (device : UsbNcmFunctionDevice) (outcomes : Outcomes) (use32BitNtb : Bool) :
    UsbNcmFunctionDevice :=
  { (device.sendHandshake outcomes).2 with use32BitNtb := use32BitNtb }

theorem setNtbFmt_formatted (h : ¬ (setupPacket.wValue > 1 ∨ setupPacket.wLength ≠ 0 ∨
      device.alternateInterfaceNumber ≠ 0)) :
    device.setNtbFmt setupPacket outcomes = (!outcomes.handshake.ntSuccess,
      device.formatted outcomes (decide (setupPacket.wValue = 1))) := by
  unfold setNtbFmt
  rw [if_neg h]
  rfl

theorem inForce_format_iff (htype : ncmRequestType setupPacket.bRequest = some .setNtbFmt) :
    InForce device setupPacket outcomes ↔ device.use32BitNtb = decide (setupPacket.wValue = 1) ∧
      ∀ netAdapter, device.netAdapter = some netAdapter →
        netAdapter.parameters.use32BitNtb = decide (setupPacket.wValue = 1) := by
  unfold InForce
  rw [htype]

theorem setNtbFmt_atomic_iff (htype : ncmRequestType setupPacket.bRequest = some .setNtbFmt) :
    Atomic device setupPacket outcomes (concluded (device.setNtbFmt setupPacket outcomes)) ↔
      device.FormatOrderly setupPacket outcomes := by
  unfold FormatOrderly
  by_cases hrefused : setupPacket.wValue > 1 ∨ setupPacket.wLength ≠ 0 ∨
      device.alternateInterfaceNumber ≠ 0
  · unfold setNtbFmt
    rw [if_pos hrefused]
    exact iff_of_true (atomic_stallEndPoint0 device setupPacket outcomes) fun h => absurd hrefused h
  · rw [setNtbFmt_formatted hrefused, imp_iff_right hrefused]
    have hlog : (device.formatted outcomes (decide (setupPacket.wValue = 1))).log =
        device.log ++ [.sentHandshake outcomes.handshake] := rfl
    cases hhandshake : outcomes.handshake.ntSuccess with
    | true =>
      change Atomic device setupPacket outcomes (device.formatted outcomes _) ↔ _
      rw [@atomic_iff_inForce _ _ _ _ [] [] hlog (by simp), hhandshake, inForce_format_iff htype,
        if_pos rfl]
      constructor
      · rintro ⟨-, -, hadapter⟩
        exact hadapter
      · exact fun hadapter => ⟨rfl, rfl, hadapter⟩
    | false =>
      have hack : ¬ Acknowledged ([.sentHandshake outcomes.handshake] ++ [.stalledEndPoint0]) := by
        rintro ⟨status, hmem, hstatus⟩
        simp at hmem
        rw [hmem, hhandshake] at hstatus
        cases hstatus
      change Atomic device setupPacket outcomes (device.formatted outcomes _).stallEndPoint0 ↔ _
      rw [atomic_iff_unchanged hlog hack, if_neg Bool.false_ne_true]
      constructor
      · intro hunchanged
        exact hunchanged.use32BitNtb.symm
      · intro hsame
        refine ⟨⟨rfl, rfl, rfl⟩, hsame.symm, rfl, fun netAdapter hmem => ?_⟩
        have hstalled : (device.formatted outcomes
            (decide (setupPacket.wValue = 1))).stallEndPoint0.log =
          device.log ++ [.sentHandshake outcomes.handshake, .stalledEndPoint0] :=
          List.append_assoc _ _ _
        rw [actionsSince_eq hstalled] at hmem
        simp at hmem

/-! ## SET_NTB_INPUT_SIZE -/

theorem destroyAdapter_log (h : device.destroyAdapter outcomes = .ok device') :
    ∃ actions, device'.log = device.log ++ actions ∧ ∀ action ∈ actions, ¬ OnEndPoint0 action := by
  rcases destroyAdapter_cases h with ⟨-, rfl⟩ | ⟨netAdapter, c, d, e, i, bi, bo, -, -, rfl⟩
  · exact ⟨[], (List.append_nil _).symm, by simp⟩
  · exact ⟨_, List.append_assoc _ _ _, by simp [OnEndPoint0]⟩

theorem createAdapter_log {status : NtStatus}
    (h : device.createAdapter outcomes = .ok (status, device')) :
    ∃ actions, device'.log = device.log ++ actions ∧ ∀ action ∈ actions, ¬ OnEndPoint0 action := by
  cases (createAdapter_cases h).2 with
  | notCached | failed | notStarted => exact ⟨[], (List.append_nil _).symm, by simp⟩
  | created => exact ⟨_, List.append_assoc _ _ _, by simp [OnEndPoint0]⟩

/-- A size that is taken is in force afterwards if there was no adapter, and otherwise the greatest
one is. -/
theorem setNtbInputSize_taken (h : Refines device negotiation)
    (hshape : ¬ (setupPacket.wValue ≠ 0 ∨ setupPacket.wLength ≠ 4))
    (hread : outcomes.readEndPoint0 = some ntbInMaxSize)
    (hrange : ntbInMaxSize ≥ 2048 ∧ ntbInMaxSize ≤ device.ntbParamters.dwNtbInMaxSize) :
    ∃ device' actions, device.setNtbInputSize setupPacket outcomes = .ok (false, device') ∧
      device'.log = device.log ++ .sentHandshake outcomes.handshake :: actions ∧
      (∀ action ∈ actions, ¬ OnEndPoint0 action) ∧
      device'.hostSelectedNtbInMaxSize =
        (if device.netAdapter = none then ntbInMaxSize else device.ntbParamters.dwNtbInMaxSize) ∧
      ∀ netAdapter, device'.netAdapter = some netAdapter →
        netAdapter.parameters.txMaxNtbSize = device'.hostSelectedNtbInMaxSize := by
  unfold setNtbInputSize readFromEndPoint0
  rw [if_neg hshape, hread]
  dsimp only
  rw [if_pos ⟨hrange.1, hrange.2⟩]
  cases hadapter : device.netAdapter with
  | none =>
    have hnone : ¬ (device.sendHandshake outcomes).2.netAdapter.isSome = true := by
      change ¬ device.netAdapter.isSome = true
      rw [hadapter]
      decide
    rw [if_neg hnone, if_pos rfl]
    refine ⟨device.sized outcomes ntbInMaxSize, [], rfl, rfl, by simp, rfl, ?_⟩
    intro netAdapter hsome
    change device.netAdapter = some netAdapter at hsome
    rw [hadapter] at hsome
    cases hsome
  | some netAdapter =>
    have hsent : (device.sendHandshake outcomes).2.netAdapter.isSome := by
      change device.netAdapter.isSome
      rw [hadapter]
      rfl
    have hsome : (device.sized outcomes ntbInMaxSize).netAdapter = some netAdapter := hadapter
    have hcallbacks := h.callbacks (by rw [hadapter]; rfl)
    obtain ⟨device1, hdestroy, hdestroyed⟩ := @destroyAdapter_some _ outcomes _ hsome hcallbacks
    obtain ⟨status, device2, hcreate, hcreated, hmade⟩ :=
      @createAdapter_none _ outcomes hdestroyed.netAdapter
    obtain ⟨actions1, hlog1, hoff1⟩ := destroyAdapter_log hdestroy
    obtain ⟨actions2, hlog2, hoff2⟩ := createAdapter_log hcreate
    rw [if_pos hsent, if_neg nofun]
    change ∃ device' actions, ((device.sized outcomes ntbInMaxSize).destroyAdapter outcomes >>= _) =
      _ ∧ _
    rw [hdestroy, ok_bind, hcreate]
    refine ⟨device2, actions1 ++ actions2, rfl, ?_, ?_, ?_, ?_⟩
    · rw [hlog2, hlog1]
      simp [sized, sendHandshake]
    · intro action hmem
      exact (List.mem_append.mp hmem).elim (hoff1 action) (hoff2 action)
    · rw [hcreated.hostSelectedNtbInMaxSize, hdestroyed.hostSelectedNtbInMaxSize, h.ntbParamters]
    · intro netAdapter2 hsome2
      rw [hcreated.hostSelectedNtbInMaxSize]
      rcases hmade with ⟨-, hnone⟩ | ⟨-, netAdapter3, hsome3, hparameters, -⟩
      · rw [hnone] at hsome2
        cases hsome2
      · rw [hsome3] at hsome2
        cases hsome2
        rw [hparameters]
        rfl

theorem inForce_size_iff (htype : ncmRequestType setupPacket.bRequest = some .setNtbInputSize)
    (hread : outcomes.readEndPoint0 = some ntbInMaxSize) :
    InForce device setupPacket outcomes ↔ device.hostSelectedNtbInMaxSize = ntbInMaxSize ∧
      ∀ netAdapter, device.netAdapter = some netAdapter →
        netAdapter.parameters.txMaxNtbSize = ntbInMaxSize := by
  unfold InForce
  rw [htype]
  constructor
  · rintro ⟨data, hdata, hforce⟩
    rw [hread] at hdata
    cases hdata
    exact hforce
  · intro hforce
    exact ⟨ntbInMaxSize, hread, hforce⟩

theorem sizeOrderly_iff (hshape : ¬ (setupPacket.wValue ≠ 0 ∨ setupPacket.wLength ≠ 4))
    (hread : outcomes.readEndPoint0 = some ntbInMaxSize) :
    device.SizeOrderly setupPacket outcomes ↔
      outcomes.handshake.ntSuccess ∧ 2048 ≤ ntbInMaxSize ∧
        ntbInMaxSize ≤ device.ntbParamters.dwNtbInMaxSize ∧
        (device.netAdapter = none ∨ ntbInMaxSize = device.ntbParamters.dwNtbInMaxSize) := by
  unfold SizeOrderly
  simp [hshape, hread]

theorem sizeTaken_atomic_iff (h : Refines device negotiation)
    (htype : ncmRequestType setupPacket.bRequest = some .setNtbInputSize)
    (hshape : ¬ (setupPacket.wValue ≠ 0 ∨ setupPacket.wLength ≠ 4))
    (hread : outcomes.readEndPoint0 = some ntbInMaxSize)
    (hrange : ntbInMaxSize ≥ 2048 ∧ ntbInMaxSize ≤ device.ntbParamters.dwNtbInMaxSize) :
    ∃ result, device.setNtbInputSize setupPacket outcomes = .ok result ∧
      (Atomic device setupPacket outcomes (concluded result) ↔
        device.SizeOrderly setupPacket outcomes) := by
  obtain ⟨device', actions, hcall, hlog, hoff, hsize, hadapter⟩ :=
    setNtbInputSize_taken h hshape hread hrange
  refine ⟨_, hcall, ?_⟩
  change Atomic device setupPacket outcomes device' ↔ _
  rw [@atomic_iff_inForce _ _ _ _ [] actions hlog fun action hmem =>
    not_answers_of_off (hoff action hmem), inForce_size_iff htype hread, sizeOrderly_iff hshape hread]
  refine and_congr_right fun _ => ⟨?_, ?_⟩
  · rintro ⟨hsame, -⟩
    refine ⟨hrange.1, hrange.2, ?_⟩
    rw [hsize] at hsame
    split at hsame
    · next hnone => exact Or.inl hnone
    · exact Or.inr hsame.symm
  · rintro ⟨-, -, hkept⟩
    have hsame : device'.hostSelectedNtbInMaxSize = ntbInMaxSize := by
      rw [hsize]
      split
      · rfl
      · next hsome => exact (hkept.resolve_left hsome).symm
    exact ⟨hsame, fun netAdapter hmade => (hadapter netAdapter hmade).trans hsame⟩

/-- A size that is not taken is acknowledged, and is not the one in force. -/
theorem sizeIgnored_atomic_iff
    (htype : ncmRequestType setupPacket.bRequest = some .setNtbInputSize)
    (hselected : 2048 ≤ device.hostSelectedNtbInMaxSize ∧
      device.hostSelectedNtbInMaxSize ≤ device.ntbParamters.dwNtbInMaxSize)
    (hshape : ¬ (setupPacket.wValue ≠ 0 ∨ setupPacket.wLength ≠ 4))
    (hread : outcomes.readEndPoint0 = some ntbInMaxSize)
    (hrange : ¬ (ntbInMaxSize ≥ 2048 ∧ ntbInMaxSize ≤ device.ntbParamters.dwNtbInMaxSize)) :
    ∃ result, device.setNtbInputSize setupPacket outcomes = .ok result ∧
      (Atomic device setupPacket outcomes (concluded result) ↔
        device.SizeOrderly setupPacket outcomes) := by
  refine ⟨(false, (device.sendHandshake outcomes).2), ?_, ?_⟩
  · unfold setNtbInputSize readFromEndPoint0
    rw [if_neg hshape, hread]
    exact if_neg hrange
  · change Atomic device setupPacket outcomes (device.sendHandshake outcomes).2 ↔ _
    have hlog : (device.sendHandshake outcomes).2.log =
        device.log ++ [.sentHandshake outcomes.handshake] := rfl
    rw [@atomic_iff_inForce _ _ _ _ [] [] hlog (by simp), inForce_size_iff htype hread,
      sizeOrderly_iff hshape hread]
    constructor
    · rintro ⟨-, hsame, -⟩
      exact absurd (hsame ▸ hselected) hrange
    · rintro ⟨-, hge, hle, -⟩
      exact absurd ⟨hge, hle⟩ hrange

theorem setNtbInputSize_atomic_iff (h : Refines device negotiation)
    (htype : ncmRequestType setupPacket.bRequest = some .setNtbInputSize)
    (hselected : 2048 ≤ device.hostSelectedNtbInMaxSize ∧
      device.hostSelectedNtbInMaxSize ≤ device.ntbParamters.dwNtbInMaxSize) :
    ∃ result, device.setNtbInputSize setupPacket outcomes = .ok result ∧
      (Atomic device setupPacket outcomes (concluded result) ↔
        device.SizeOrderly setupPacket outcomes) := by
  by_cases hshape : setupPacket.wValue ≠ 0 ∨ setupPacket.wLength ≠ 4
  · refine ⟨(true, device), ?_, ?_⟩
    · unfold setNtbInputSize
      rw [if_pos hshape]
    · exact iff_of_true (atomic_stallEndPoint0 device setupPacket outcomes)
        fun hnot => absurd hshape hnot
  · cases hread : outcomes.readEndPoint0 with
    | none =>
      refine ⟨(true, device), ?_, ?_⟩
      · unfold setNtbInputSize readFromEndPoint0
        rw [if_neg hshape, hread]
      · refine iff_of_true (atomic_stallEndPoint0 device setupPacket outcomes) ?_
        intro _ ntbInMaxSize hsome
        rw [hread] at hsome
        cases hsome
    | some ntbInMaxSize =>
      by_cases hrange : ntbInMaxSize ≥ 2048 ∧ ntbInMaxSize ≤ device.ntbParamters.dwNtbInMaxSize
      · exact sizeTaken_atomic_iff h htype hshape hread hrange
      · exact sizeIgnored_atomic_iff htype hselected hshape hread hrange

/-! ## In any state that is reached -/

theorem processRequest_atomic_iff (h : Refines device negotiation) (hsize : negotiation.SizeInRange)
    (hindex : setupPacket.wIndex.toNat = device.communicationInterfaceIndex.toNat) :
    ∃ result, device.processRequest setupPacket outcomes = .ok result ∧
      (Atomic device setupPacket outcomes (concluded result) ↔
        device.Orderly setupPacket outcomes) := by
  unfold Orderly processRequest
  rw [imp_iff_right hindex]
  cases htype : ncmRequestType setupPacket.bRequest with
  | none => exact ⟨_, rfl, iff_of_true (atomic_stallEndPoint0 device setupPacket outcomes) trivial⟩
  | some requestType =>
    cases requestType with
    | getNtbParams | getNtbFmt | getNtbInputSize =>
      refine ⟨_, rfl, getRequest_atomic_iff (fun device' => ?_) _ _⟩
      unfold InForce
      rw [htype]
      trivial
    | setNtbFmt => exact ⟨_, rfl, setNtbFmt_atomic_iff htype⟩
    | setNtbInputSize =>
      unfold Negotiation.SizeInRange at hsize
      rw [h.hostSelectedNtbInMaxSize, ← h.ntbParamters] at hsize
      exact setNtbInputSize_atomic_iff h htype hsize

theorem processSetupPacket_atomic (h : Refines device negotiation) (hsize : negotiation.SizeInRange)
    (hstate : device.state = .configured) (setupPacket : SetupPacket) (outcomes : Outcomes) :
    ∃ device', device.processSetupPacket setupPacket outcomes = .ok device' ∧
      (Atomic device setupPacket outcomes device' ↔ device.Orderly setupPacket outcomes) := by
  rw [processSetupPacket_concluded hstate]
  split
  · next hindex =>
    obtain ⟨result, hrequest, hiff⟩ := @processRequest_atomic_iff _ _ outcomes _ h hsize hindex
    rw [hrequest]
    exact ⟨_, rfl, hiff⟩
  · next hindex =>
    refine ⟨device.stallEndPoint0, rfl, ?_⟩
    exact iff_of_true (atomic_stallEndPoint0 device setupPacket outcomes)
      fun hsame => absurd hsame hindex

theorem reached_refines {initializeOutcomes : InitializeOutcomes}
    {initialized : UsbNcmFunctionDevice} {before : List Notification}
    (hdevice : newDevice.initializeDevice initializeOutcomes = .ok (.success, initialized))
    (hrun : before.foldlM busEventNotificationRead initialized = .ok device) :
    ∃ negotiation, Refines device negotiation ∧ negotiation.SizeInRange := by
  obtain ⟨negotiation, hnegotiation, h⟩ := (run_refines hdevice before).ok_left hrun
  have hinitial : initialized.negotiated.SizeInRange := by
    obtain ⟨c, d, e, i, bi, bo, rfl⟩ := initializeDevice_success hdevice
    exact Negotiation.sizeInRange_greatest rfl
  have hall : AllSteps Negotiation.step (fun _ _ => True) initialized.negotiated before :=
    allSteps_of_forall (fun _ _ => trivial) _ _
  exact ⟨negotiation, h,
    hall.invariant (fun _ _ _ hrange _ hstep => hrange.step hstep) hinitial hnegotiation⟩

/-- In every configured state that is reached, a request ends in exactly one of the two ways when
its handshake is sent wherever data was moved, a format whose handshake is not sent is the one there
was, a size is one that is taken, and what was set is not lost between the device and its adapter. -/
theorem processSetupPacket_atomic_iff {initializeOutcomes : InitializeOutcomes}
    {initialized : UsbNcmFunctionDevice} {before : List Notification}
    (hdevice : newDevice.initializeDevice initializeOutcomes = .ok (.success, initialized))
    (hrun : before.foldlM busEventNotificationRead initialized = .ok device)
    (hstate : device.state = .configured) (setupPacket : SetupPacket) (outcomes : Outcomes) :
    ∃ device', device.processSetupPacket setupPacket outcomes = .ok device' ∧
      (Atomic device setupPacket outcomes device' ↔ device.Orderly setupPacket outcomes) := by
  obtain ⟨negotiation, h, hsize⟩ := reached_refines hdevice hrun
  exact processSetupPacket_atomic h hsize hstate setupPacket outcomes

theorem processSetupPacket_atomic_iff_4096 :
    ∃ device device', [successful .configured].foldlM busEventNotificationRead exampleDevice =
        .ok device ∧
      device.processSetupPacket ⟨0x86, 0, 0, 4⟩ exampleOutcomes = .ok device' ∧
      (Atomic device ⟨0x86, 0, 0, 4⟩ exampleOutcomes device' ↔
        device.Orderly ⟨0x86, 0, 0, 4⟩ exampleOutcomes) := by
  have hrun : [successful .configured].foldlM busEventNotificationRead exampleDevice =
      .ok { exampleDevice with state := .configured } := rfl
  obtain ⟨device', hprocess, hiff⟩ :=
    processSetupPacket_atomic_iff exampleDevice_initialized hrun rfl ⟨0x86, 0, 0, 4⟩ exampleOutcomes
  exact ⟨_, device', hrun, hprocess, hiff⟩

/-- No handshake can be sent. -/
def withoutHandshake : Outcomes := { exampleOutcomes with handshake := .unsuccessful }

/-- A format that is refused stays, a GET is not stalled though its handshake was not sent, a size
that was acknowledged is not in force, and one out of range is acknowledged all the same. -/
theorem processSetupPacket_not_atomic :
    ∃ device selected, [successful .configured].foldlM busEventNotificationRead exampleDevice =
        .ok device ∧ device.state = .configured ∧
      selectEvents.foldlM busEventNotificationRead exampleDevice = .ok selected ∧
      selected.state = .configured ∧
      (∃ device', device.processSetupPacket ⟨0x84, 1, 0, 0⟩ withoutHandshake = .ok device' ∧
        ¬ Atomic device ⟨0x84, 1, 0, 0⟩ withoutHandshake device') ∧
      (∃ device', device.processSetupPacket ⟨0x80, 0, 0, 0x1C⟩ withoutHandshake = .ok device' ∧
        ¬ Atomic device ⟨0x80, 0, 0, 0x1C⟩ withoutHandshake device') ∧
      (∃ device', selected.processSetupPacket ⟨0x86, 0, 0, 4⟩ exampleOutcomes = .ok device' ∧
        ¬ Atomic selected ⟨0x86, 0, 0, 4⟩ exampleOutcomes device') ∧
      (∃ device', device.processSetupPacket ⟨0x86, 0, 0, 4⟩
          { exampleOutcomes with readEndPoint0 := some 100 } = .ok device' ∧
        ¬ Atomic device ⟨0x86, 0, 0, 4⟩ { exampleOutcomes with readEndPoint0 := some 100 } device') := by
  have hrun : [successful .configured].foldlM busEventNotificationRead exampleDevice =
      .ok { exampleDevice with state := .configured } := rfl
  have hselect : ∃ selected, selectEvents.foldlM busEventNotificationRead exampleDevice =
      .ok selected ∧ selected.state = .configured ∧ selected.netAdapter.isSome ∧
      selected.communicationInterfaceIndex = 0 ∧ selected.ntbParamters = ntbParameters :=
    ⟨_, rfl, rfl, rfl, rfl, rfl⟩
  obtain ⟨selected, hselected, hstate, hsome, hindex, hparameters⟩ := hselect
  obtain ⟨negotiation, h, hsize⟩ := reached_refines exampleDevice_initialized hrun
  obtain ⟨negotiation', h', hsize'⟩ := reached_refines exampleDevice_initialized hselected
  have hends := fun setupPacket outcomes =>
    processSetupPacket_atomic h hsize rfl setupPacket outcomes
  refine ⟨_, selected, hrun, rfl, hselected, hstate, ?_, ?_, ?_, ?_⟩
  · obtain ⟨device', hprocess, hiff⟩ := hends ⟨0x84, 1, 0, 0⟩ withoutHandshake
    refine ⟨device', hprocess, fun hatomic => ?_⟩
    have horderly : FormatOrderly _ _ _ := hiff.mp hatomic rfl
    exact Bool.false_ne_true (horderly (by decide))
  · obtain ⟨device', hprocess, hiff⟩ := hends ⟨0x80, 0, 0, 0x1C⟩ withoutHandshake
    refine ⟨device', hprocess, fun hatomic => ?_⟩
    have horderly : GetOrderly _ _ 0x1C := hiff.mp hatomic rfl
    exact Bool.false_ne_true (horderly (by decide) rfl)
  · obtain ⟨device', hprocess, hiff⟩ :=
      processSetupPacket_atomic h' hsize' hstate ⟨0x86, 0, 0, 4⟩ exampleOutcomes
    refine ⟨device', hprocess, fun hatomic => ?_⟩
    have horderly : SizeOrderly _ _ _ := hiff.mp hatomic (by rw [hindex]; rfl)
    obtain ⟨-, -, -, hnone | hgreatest⟩ := horderly (by decide) 4096 rfl
    · rw [hnone] at hsome
      cases hsome
    · rw [hparameters] at hgreatest
      exact absurd hgreatest (by decide)
  · obtain ⟨device', hprocess, hiff⟩ :=
      hends ⟨0x86, 0, 0, 4⟩ { exampleOutcomes with readEndPoint0 := some 100 }
    refine ⟨device', hprocess, fun hatomic => ?_⟩
    have horderly : SizeOrderly _ _ _ := hiff.mp hatomic rfl
    exact absurd (horderly (by decide) 100 rfl).2.1 (by decide)

end UsbNcmFunctionDevice

end UsbNcm.Function
