import UsbNcm.Bus.Agreement
import UsbNcm.Function.CreatedAdapter

/-!
# A connected system

What the adapters of the two drivers are created with, in every state behind a `SelectSetting` that
succeeded.
-/

open Exec UsbNcm.Ntb UsbNcm.Host UsbNcm.Function UsbNcm.Function.UsbNcmFunctionDevice

namespace UsbNcm.Bus

variable {system system' : System} {cdcMacAddress : List UInt8}

/-! ## The system -/

/-- The host gets on with its task, and leaves the function to itself. -/
theorem succeed_function (system : System) (answer : List DeviceAction) :
    (system.succeed answer).function = system.function := by
  unfold System.succeed
  split
  · split <;> rfl
  · rfl
  · rfl

/-- All that happens to the function is that it is told something. -/
theorem step_function {e : SystemEvent} (h : system.step e = .ok system') :
    system'.function = system.function ∨ ∃ notification,
      system.function.busEventNotificationRead notification = .ok system'.function := by
  cases e with
  | selectConfiguration configured acknowledged outcomes =>
    cases configured with
    | false =>
      cases h
      exact Or.inl rfl
    | true =>
      obtain ⟨function', hread, hnext⟩ := bind_eq_ok.mp h
      cases hnext
      exact Or.inr ⟨_, hread⟩
  | enterWorkingState =>
    cases h
    left
    split <;> rfl
  | request acknowledged outcomes =>
    unfold System.step at h
    dsimp only at h
    split at h
    · cases h
      exact Or.inl rfl
    · split at h
      · obtain ⟨function', hread, hnext⟩ := bind_eq_ok.mp h
        right
        have hfunction : system'.function = function' := by
          cases hnext
          split
          · exact succeed_function _ _
          · rfl
        rw [hfunction]
        exact ⟨_, hread⟩
      · cases h
        exact Or.inl rfl
  | abort =>
    cases h
    exact Or.inl rfl
  | signal signal completionStatus outcomes =>
    obtain ⟨function', hread, hnext⟩ := bind_eq_ok.mp h
    cases hnext
    exact Or.inr ⟨_, hread⟩

/-- What holds in every state: the two drivers agree as far as they have got, and the adapter of the
function is as the driver creates them. -/
def Invariant (cdcMacAddress : List UInt8) (system : System) : Prop :=
  ∃ negotiation, Agreeing system negotiation ∧ Made cdcMacAddress negotiation

theorem Invariant.step (h : Invariant cdcMacAddress system) (e : SystemEvent) :
    ∃ system', system.step e = .ok system' ∧ Invariant cdcMacAddress system' := by
  obtain ⟨negotiation, hagreeing, hmade⟩ := h
  obtain ⟨system', hstep, negotiation', hagreeing'⟩ := hagreeing.step e
  refine ⟨system', hstep, negotiation', hagreeing', ?_⟩
  rw [← hagreeing'.refines.negotiation_eq]
  rcases step_function hstep with hsame | ⟨notification, hread⟩
  · rw [hsame, hagreeing.refines.negotiation_eq]
    exact hmade
  · obtain ⟨reached, hreached, hrefines⟩ :=
      (busEventNotificationRead_refines hagreeing.refines notification).ok_left hread
    rw [hrefines.negotiation_eq]
    exact hmade.step hreached

/-- The host has taken over the parameters of the function, and the function has created its adapter
for 32-bit NTBs of the largest size. -/
structure Connected (cdcMacAddress : List UInt8) (system : System) (netAdapter : NetAdapter) :
    Prop where
  knows : Knows system.host
  parameters : netAdapter.parameters = Function.adapterParameters Function.ntbParameters true
    (getNextMACAddress cdcMacAddress) Function.ntbParameters.dwNtbInMaxSize
  bufferOutputSize : system.bufferOutputSize = Function.ntbParameters.dwNtbOutMaxSize

theorem Invariant.connected (h : Invariant cdcMacAddress system)
    (hselected : system.selectedSetting = true) {netAdapter : NetAdapter}
    (hadapter : system.function.netAdapter = some netAdapter) :
    Connected cdcMacAddress system netAdapter := by
  obtain ⟨negotiation, hagreeing, hmade⟩ := h
  have hmem : netAdapter.parameters ∈ negotiation.adapter := by
    rw [hagreeing.refines.adapter, hadapter]
    rfl
  obtain ⟨-, hformat, hsize⟩ := hagreeing.fits.adapter _ hmem
  obtain ⟨use32BitNtb, hostSelectedNtbInMaxSize, hparameters⟩ := hmade.adapter _ hmem
  rw [hparameters] at hformat hsize
  obtain rfl : use32BitNtb = true := hformat
  obtain rfl : hostSelectedNtbInMaxSize = Function.ntbParameters.dwNtbInMaxSize := hsize
  exact ⟨hagreeing.knownBySetting hselected, hparameters, hagreeing.bufferOutputSize⟩

theorem connected {function : UsbNcmFunctionDevice}
    {initializeOutcomes : UsbNcmFunctionDevice.InitializeOutcomes}
    (hdevice : newDevice.initializeDevice initializeOutcomes = .ok (.success, function))
    {host : HostConfiguration} {controlInterfaceNumber dataInterfaceNumber : UInt8}
    {events : List SystemEvent}
    (hsystem : events.foldlM System.step
      (startedSystem host controlInterfaceNumber dataInterfaceNumber function) = .ok system)
    (hselected : system.selectedSetting = true) {netAdapter : NetAdapter}
    (hadapter : system.function.netAdapter = some netAdapter) :
    Connected initializeOutcomes.cdcMacAddress system netAdapter := by
  obtain ⟨system', hsystem', h⟩ := run_invariant (fun _ e h => Invariant.step h e)
    ⟨_, agreeing_started hdevice host controlInterfaceNumber dataInterfaceNumber,
      initializeDevice_made hdevice⟩ events
  cases hsystem.symm.trans hsystem'
  exact h.connected hselected hadapter

/-! ## The parameters of the two adapters -/

/-- What both adapters are created with. -/
structure Agreed (parameters : AdapterParameters) : Prop where
  use32BitNtb : parameters.use32BitNtb = true
  txMaxNtbSize : parameters.txMaxNtbSize = 0x10000
  txMaxNtbDatagramCount : parameters.txMaxNtbDatagramCount = 16
  txNdpAlignment : parameters.txNdpAlignment = 4
  txNdpDivisor : parameters.txNdpDivisor = 4
  txNdpPayloadRemainder : parameters.txNdpPayloadRemainder = 0

theorem Connected.function_agreed {netAdapter : NetAdapter}
    (h : Connected cdcMacAddress system netAdapter) : Agreed netAdapter.parameters := by
  rw [h.parameters]
  exact ⟨rfl, rfl, rfl, rfl, rfl, rfl⟩

theorem Knows.host_agreed {host : HostConfiguration} (h : Knows host) :
    Agreed (Host.adapterParameters host) := by
  unfold Host.adapterParameters
  rw [h.ntbParamters]
  exact ⟨h.use32BitNtb, rfl, rfl, rfl, rfl, rfl⟩

end UsbNcm.Bus
