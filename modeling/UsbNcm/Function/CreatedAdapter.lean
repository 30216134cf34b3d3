import UsbNcm.Function.InputSize

/-!
# What the adapters of the device are created with

In every state that notifications lead to, the parameters of an adapter are those of the driver, with
the address behind the one that is reported to the host.
-/

open Exec UsbNcm.Ntb

namespace UsbNcm.Function

/-- The negotiation of a device with this address, and its adapter as the driver creates them. -/
structure Made (cdcMacAddress : List UInt8) (negotiation : Negotiation) : Prop where
  address : negotiation.cdcMacAddress = cdcMacAddress
  adapter : ∀ adapter ∈ negotiation.adapter, ∃ use32BitNtb hostSelectedNtbInMaxSize,
    adapter = adapterParameters ntbParameters use32BitNtb (getNextMACAddress cdcMacAddress)
      hostSelectedNtbInMaxSize

variable {cdcMacAddress : List UInt8} {negotiation negotiation' : Negotiation} {outcomes : Outcomes}

namespace Made

theorem of_none (h : negotiation.cdcMacAddress = cdcMacAddress) (hnone : negotiation.adapter = none) :
    Made cdcMacAddress negotiation := by
  refine ⟨h, ?_⟩
  rw [hnone]
  nofun

theorem destroyAdapter (h : Made cdcMacAddress negotiation) (outcomes : Outcomes) :
    Made cdcMacAddress (negotiation.destroyAdapter outcomes) := by
  unfold Negotiation.destroyAdapter
  split
  · exact .of_none h.address rfl
  · exact h

theorem createAdapter (h : negotiation.cdcMacAddress = cdcMacAddress)
    (hcreate : negotiation.createAdapter outcomes = .ok negotiation') :
    Made cdcMacAddress negotiation' := by
  cases hadapter : negotiation.adapter with
  | none =>
    obtain ⟨i, adapter, hcreated, hmade⟩ := negotiation.createAdapter_spec outcomes hadapter
    cases hcreated.symm.trans hcreate
    refine ⟨h, fun made hmem =>
      ⟨negotiation.use32BitNtb, negotiation.hostSelectedNtbInMaxSize, ?_⟩⟩
    rw [hmade made hmem, ← h]
    rfl
  | some adapter =>
    unfold Negotiation.createAdapter at hcreate
    rw [if_pos (by rw [hadapter]; rfl)] at hcreate
    cases hcreate

theorem resize (h : Made cdcMacAddress negotiation) {ntbInMaxSize : UInt32}
    (hresize : negotiation.resize outcomes ntbInMaxSize = .ok negotiation') :
    Made cdcMacAddress negotiation' := by
  have hsized : Made cdcMacAddress { negotiation with hostSelectedNtbInMaxSize := ntbInMaxSize } :=
    ⟨h.address, h.adapter⟩
  unfold Negotiation.resize at hresize
  dsimp only at hresize
  split at hresize
  · exact createAdapter (hsized.destroyAdapter outcomes).address hresize
  · cases hresize
    exact hsized

theorem processSetupPacket (h : Made cdcMacAddress negotiation) {setupPacket : SetupPacket}
    (hstep : negotiation.processSetupPacket setupPacket outcomes = .ok negotiation') :
    Made cdcMacAddress negotiation' := by
  obtain rfl | rfl | ⟨ntbInMaxSize, -, -, -, -, -, -, -, hresize⟩ :=
    Negotiation.processSetupPacket_cases hstep
  · exact h
  · obtain ⟨use32BitNtb, hformat⟩ := negotiation.setNtbFmt_format setupPacket
    rw [hformat]
    exact ⟨h.address, h.adapter⟩
  · exact h.resize hresize

theorem setInterface (h : Made cdcMacAddress negotiation) {alternateInterfaceNumber : UInt16}
    (hstep : negotiation.setInterface alternateInterfaceNumber outcomes = .ok negotiation') :
    Made cdcMacAddress negotiation' := by
  have hselected : Made cdcMacAddress { negotiation with
      alternateInterfaceNumber := alternateInterfaceNumber } := ⟨h.address, h.adapter⟩
  obtain rfl | ⟨-, rfl⟩ | ⟨-, hcreate⟩ | ⟨-, -, rfl⟩ := Negotiation.setInterface_cases hstep
  · exact h
  · exact hselected.destroyAdapter outcomes
  · exact createAdapter hselected.address hcreate
  · exact hselected

theorem step (h : Made cdcMacAddress negotiation) {notification : Notification}
    (hstep : negotiation.step notification = .ok negotiation') : Made cdcMacAddress negotiation' := by
  have hmoved : ∀ configured, Made cdcMacAddress { negotiation with configured := configured } :=
    fun _ => ⟨h.address, h.adapter⟩
  unfold Negotiation.step at hstep
  split at hstep
  · cases hevent : notification.event <;> rw [hevent] at hstep
    case attach | configured =>
      cases hstep
      exact hmoved _
    case suspend | resume =>
      cases hstep
      exact h
    case unConfigured | detach | reset =>
      cases hstep
      exact (hmoved false).destroyAdapter _
    case setupPacket setupPacket => exact h.processSetupPacket hstep
    case setInterface interfaceNumber alternateInterfaceNumber => exact h.setInterface hstep
  · cases hstep
    exact h

theorem run (h : Made cdcMacAddress negotiation) {notifications : List Notification}
    (hrun : notifications.foldlM Negotiation.step negotiation = .ok negotiation') :
    Made cdcMacAddress negotiation' := by
  induction notifications generalizing negotiation with
  | nil =>
    cases hrun
    exact h
  | cons notification notifications ih =>
    rw [List.foldlM_cons] at hrun
    obtain ⟨reached, hstep, hrest⟩ := bind_eq_ok.mp hrun
    exact ih (h.step hstep) hrest

end Made

namespace UsbNcmFunctionDevice

variable {device device' : UsbNcmFunctionDevice}

theorem initializeDevice_made {outcomes : InitializeOutcomes}
    (h : newDevice.initializeDevice outcomes = .ok (.success, device)) :
    Made outcomes.cdcMacAddress device.negotiated := by
  obtain ⟨c, d, e, i, bi, bo, rfl⟩ := initializeDevice_success h
  exact .of_none rfl rfl

theorem run_made {outcomes : InitializeOutcomes} {notifications : List Notification}
    (hdevice : newDevice.initializeDevice outcomes = .ok (.success, device))
    (hrun : notifications.foldlM busEventNotificationRead device = .ok device') :
    Made outcomes.cdcMacAddress device'.negotiated := by
  obtain ⟨negotiation, hnegotiation, hrefines⟩ := (run_refines hdevice notifications).ok_left hrun
  rw [hrefines.negotiation_eq]
  exact (initializeDevice_made hdevice).run hnegotiation

end UsbNcmFunctionDevice

end UsbNcm.Function
