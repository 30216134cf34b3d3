import UsbNcm.Adapter.Link
import UsbNcm.Host.Descriptors
import UsbNcm.Host.Parameters
import UsbNcm.Lib.LastMatch
import UsbNcm.Mac

/-!
# Which functions `SelectConfiguration` accepts (`host/device.cpp`)

What the scan found is used several steps later, with the interfaces of the configuration. The
variables of the scan start at 0 and null, and nothing asks whether they have been set.
-/

open Exec ByteMemory LastMatch UsbNcm.Ntb

namespace UsbNcm.Host

/-- A WDFUSBINTERFACE, with what the framework says about it. -/
structure UsbInterface where
  handle : Nat
  interfaceNumber : UInt8
  numSettings : UInt8
  deriving DecidableEq, Repr

/-- The members of the host device that `SelectConfiguration` fills in. The interfaces are those of
an earlier call, if there was one. -/
structure SelectedConfiguration where
  controlInterface : Option UsbInterface
  dataInterface : Option UsbInterface
  configuration : HostConfiguration

/-- What the operations outside the driver return, in the order of the calls. -/
structure ConfigurationOutcomes where
  firstRetrieve : NtStatus
  sizeDescriptors : UInt16
  memoryCreate : NtStatus
  secondRetrieve : NtStatus
  -- what the second call writes to the buffer
  retrieved : List UInt8
  interfaces : List UsbInterface
  selectConfig : NtStatus
  queryString : NtStatus
  strMacAddress : Vector UInt16 12
  getNtbParameters : NtStatus
  ntbParamters : NtbParameters
  -- without a buffer the size is all that can be had
  firstRetrieve_ne : firstRetrieve ≠ .success
  retrieved_le : retrieved.length ≤ sizeDescriptors.toNat

/-- The buffer of `sizeDescriptors` bytes. -/
def ConfigurationOutcomes.descriptors (outcomes : ConfigurationOutcomes) : List UInt8 :=
  outcomes.retrieved ++
    List.replicate (outcomes.sizeDescriptors.toNat - outcomes.retrieved.length) 0

namespace SelectedConfiguration

/-- The loop over the interfaces of the configuration. -/
def findInterfaces (device : SelectedConfiguration) (controlInterfaceNumber dataInterfaceNumber : UInt8) :
    List UsbInterface → SelectedConfiguration
  | [] => device
  | usbInterface :: interfaces =>
    let device :=
      if usbInterface.interfaceNumber = controlInterfaceNumber then
        { device with controlInterface := some usbInterface }
      else if usbInterface.interfaceNumber = dataInterfaceNumber then
        { device with dataInterface := some usbInterface }
      else device
    device.findInterfaces controlInterfaceNumber dataInterfaceNumber interfaces

/-- Steps 4 and 5, the MAC address and the parameters of the NTBs. -/
def queryParameters (device : SelectedConfiguration) (outcomes : ConfigurationOutcomes) :
    NtStatus × SelectedConfiguration :=
  if ¬ outcomes.queryString.ntSuccess then (outcomes.queryString, device)
  else
    let (status, macAddress) :=
      hexStringToBytes outcomes.strMacAddress.toList device.configuration.macAddress
    let device :=
      { device with configuration := { device.configuration with macAddress := macAddress } }
    if ¬ status.ntSuccess then (status, device)
    else if ¬ outcomes.getNtbParameters.ntSuccess then (outcomes.getNtbParameters, device)
    else
      let (status, configuration) :=
        selectNtbParameters device.configuration outcomes.ntbParamters
      (status, { device with configuration := configuration })

/-- From step 3 on, with the ECM descriptor. -/
def queryFunction (device : SelectedConfiguration) (outcomes : ConfigurationOutcomes)
    (pEcmFunctionalDescr : Option Nat) : Except Stop (NtStatus × SelectedConfiguration) :=
  match pEcmFunctionalDescr with
  -- the null pointer is dereferenced
  | none => throw .access
  | some pEcmFunctionalDescr => do
    let m := ofBytes outcomes.descriptors
    let wMaxSegmentSize ← readLe m (pEcmFunctionalDescr + 8) 2
    -- iMACAddress, the index of the string
    let _ ← readByte m (pEcmFunctionalDescr + 3)
    let configuration := selectMtu device.configuration (UInt16.ofNat wMaxSegmentSize)
    return { device with configuration := configuration }.queryParameters outcomes

/-- Behind the scan, with what it found. -/
def selectInterfaces (device : SelectedConfiguration) (outcomes : ConfigurationOutcomes)
    (scan : DescriptorScan) : Except Stop (NtStatus × SelectedConfiguration) :=
  let device := device.findInterfaces scan.controlInterfaceNumber scan.dataInterfaceNumber
    outcomes.interfaces
  match device.controlInterface, device.dataInterface with
  | some _, some dataInterface =>
    if dataInterface.numSettings ≠ 2 then .ok (.deviceHardwareError, device)
    else if ¬ outcomes.selectConfig.ntSuccess then .ok (outcomes.selectConfig, device)
    else device.queryFunction outcomes scan.pEcmFunctionalDescr
  | _, _ => .ok (.deviceHardwareError, device)

def selectConfiguration (fuel : Nat) (device : SelectedConfiguration)
    (outcomes : ConfigurationOutcomes) : Except Stop (NtStatus × SelectedConfiguration) :=
  if outcomes.firstRetrieve ≠ .bufferTooSmall then .ok (outcomes.firstRetrieve, device)
  else if ¬ outcomes.memoryCreate.ntSuccess then .ok (outcomes.memoryCreate, device)
  else if ¬ outcomes.secondRetrieve.ntSuccess then .ok (outcomes.secondRetrieve, device)
  else do
    let (status, scan) ← loop (DescriptorScan.scanBody (ofBytes outcomes.descriptors)) fuel .start
    if ¬ status.ntSuccess then return (status, device)
    else device.selectInterfaces outcomes scan

end SelectedConfiguration

/-! ## The descriptor set in plain terms -/

section DescriptorSet

variable (bytes : List UInt8)

/-- The offsets that the lengths lead to from `o`, `n` of them at most. -/
def descriptorsFrom : Nat → Nat → List Nat
  | 0, _ => []
  | n + 1, o =>
    if o < totalLength bytes then o :: descriptorsFrom n (o + (byteAt bytes o).toNat) else []

def descriptorOffsets : List Nat := descriptorsFrom bytes (totalLength bytes) 0

structure DescriptorInside (o : Nat) : Prop where
  length_ne : byteAt bytes o ≠ 0
  header_le : o + 2 ≤ totalLength bytes
  length_le : o + (byteAt bytes o).toNat ≤ totalLength bytes

/-- The whole set is in the buffer, and each descriptor is in the set. -/
structure WellFormedSet : Prop where
  header : 4 ≤ bytes.length
  total_le : totalLength bytes ≤ bytes.length
  inside : ∀ o ∈ descriptorOffsets bytes, DescriptorInside bytes o

/-- The number of the last interface descriptor that is looked for, or 0. -/
def lastNumber (p : Nat → Prop) [DecidablePred p] : UInt8 :=
  ((lastMatch p (descriptorOffsets bytes)).map fun o => byteAt bytes (o + 2)).getD 0

/-- The ECM descriptor that is used. -/
def lastEcm : Option Nat := lastMatch (IsEcm bytes) (descriptorOffsets bytes)

def wMaxSegmentSizeAt (o : Nat) : Nat :=
  (byteAt bytes (o + 8)).toNat + 256 * (byteAt bytes (o + 9)).toNat

end DescriptorSet

theorem wMaxSegmentSizeAt_lt (bytes : List UInt8) (o : Nat) : wMaxSegmentSizeAt bytes o < 65536 := by
  have hlow := (byteAt bytes (o + 8)).toNat_lt
  have hhigh := (byteAt bytes (o + 9)).toNat_lt
  unfold wMaxSegmentSizeAt
  omega

namespace DescriptorScan

variable {bytes : List UInt8} {scan scan' : DescriptorScan} {os : List Nat}

/-! ## What the scan finds -/

theorem next_controlInterfaceNumber : (scan.next bytes).controlInterfaceNumber =
    if IsControl bytes scan.currDescrptorOffset then byteAt bytes (scan.currDescrptorOffset + 2)
    else scan.controlInterfaceNumber := by
  unfold next noted
  dsimp only
  split_ifs <;> rfl

theorem next_dataInterfaceNumber : (scan.next bytes).dataInterfaceNumber =
    if IsData bytes scan.currDescrptorOffset then byteAt bytes (scan.currDescrptorOffset + 2)
    else scan.dataInterfaceNumber := by
  unfold next noted
  dsimp only
  split_ifs with hcontrol hdata
  · have hclass := hcontrol.2.1.symm.trans hdata.2.1
    exact absurd hclass (by decide)
  all_goals rfl

theorem next_pEcmFunctionalDescr : (scan.next bytes).pEcmFunctionalDescr =
    if IsEcm bytes scan.currDescrptorOffset then some scan.currDescrptorOffset
    else scan.pEcmFunctionalDescr := by
  unfold next noted
  dsimp only
  split_ifs with hcontrol hecm hdata hecm hncm hecm
  · exact absurd (hcontrol.1.symm.trans hecm.1) (by decide)
  · rfl
  · exact absurd (hdata.1.symm.trans hecm.1) (by decide)
  · rfl
  · exact absurd (hncm.2.symm.trans hecm.2) (by decide)
  all_goals rfl

/-- The scan has gone over these descriptors, and kept what the last of each kind says. -/
structure Scanned (bytes : List UInt8) (os : List Nat) (scan scan' : DescriptorScan) : Prop where
  controlInterfaceNumber : scan'.controlInterfaceNumber =
    ((lastMatch (IsControl bytes) os).map fun o => byteAt bytes (o + 2)).getD
      scan.controlInterfaceNumber
  dataInterfaceNumber : scan'.dataInterfaceNumber =
    ((lastMatch (IsData bytes) os).map fun o => byteAt bytes (o + 2)).getD scan.dataInterfaceNumber
  pEcmFunctionalDescr : scan'.pEcmFunctionalDescr =
    (lastMatch (IsEcm bytes) os).or scan.pEcmFunctionalDescr

theorem getD_map_or_ite {α β : Type} (f : α → β) (found : Option α) (p : Prop) [Decidable p] (a : α)
    (b : β) : ((found.or (if p then some a else none)).map f).getD b =
      (found.map f).getD (if p then f a else b) := by
  cases found with
  | some a' => rfl
  | none => split <;> rfl

theorem Scanned.cons (h : Scanned bytes os (scan.next bytes) scan') :
    Scanned bytes (scan.currDescrptorOffset :: os) scan scan' := by
  refine ⟨?_, ?_, ?_⟩
  · rw [h.controlInterfaceNumber, next_controlInterfaceNumber, lastMatch_cons, getD_map_or_ite]
  · rw [h.dataInterfaceNumber, next_dataInterfaceNumber, lastMatch_cons, getD_map_or_ite]
  · rw [h.pEcmFunctionalDescr, next_pEcmFunctionalDescr, lastMatch_cons, Option.or_assoc]
    split <;> rfl

theorem looksAt_le (bytes : List UInt8) (o : Nat) : looksAt bytes o ≤ max 2 (byteAt bytes o).toNat := by
  unfold looksAt
  split
  · split
    · omega
    · next hlength =>
      rw [not_not.mp hlength]
      split_ifs <;> decide
  · split
    · split
      · omega
      · next hlength =>
        have hge : 3 ≤ (byteAt bytes o).toNat := UInt8.le_iff_toNat_le.mp (UInt8.not_lt.mp hlength)
        omega
    · omega

/-- Over a chain of descriptors that are inside, the scan refuses one of them or goes over all. -/
theorem scan_descriptors (h4 : 4 ≤ bytes.length) (htotal : totalLength bytes ≤ bytes.length) {n : Nat}
    (hn : totalLength bytes ≤ scan.currDescrptorOffset + n)
    (hinside : ∀ o ∈ descriptorsFrom bytes n scan.currDescrptorOffset, DescriptorInside bytes o)
    {fuel : Nat} (hfuel : n < fuel) :
    ((∃ o ∈ descriptorsFrom bytes n scan.currDescrptorOffset, BadDescriptor bytes o) ∧
        ∃ scan', loop (scanBody (ofBytes bytes)) fuel scan = .ok (.deviceHardwareError, scan')) ∨
      ((∀ o ∈ descriptorsFrom bytes n scan.currDescrptorOffset, ¬ BadDescriptor bytes o) ∧
        ∃ scan', loop (scanBody (ofBytes bytes)) fuel scan = .ok (.success, scan') ∧
          Scanned bytes (descriptorsFrom bytes n scan.currDescrptorOffset) scan scan') := by
  induction n generalizing scan fuel with
  | zero =>
    obtain ⟨fuel, rfl⟩ : ∃ k, fuel = k + 1 := ⟨fuel - 1, by omega⟩
    refine Or.inr ⟨by simp [descriptorsFrom], scan, ?_, rfl, rfl, rfl⟩
    exact loop_leave (scanBody_done h4 (by omega)) fuel
  | succ n ih =>
    obtain ⟨fuel, rfl⟩ : ∃ k, fuel = k + 1 := ⟨fuel - 1, by omega⟩
    unfold descriptorsFrom at hinside ⊢
    by_cases hlt : scan.currDescrptorOffset < totalLength bytes
    · rw [if_pos hlt] at hinside ⊢
      have hfirst := hinside _ List.mem_cons_self
      have hlooks : scan.currDescrptorOffset + looksAt bytes scan.currDescrptorOffset ≤
          bytes.length := by
        have hheader := hfirst.header_le
        have hlength := hfirst.length_le
        have hle := looksAt_le bytes scan.currDescrptorOffset
        omega
      by_cases hbad : BadDescriptor bytes scan.currDescrptorOffset
      · refine Or.inl ⟨⟨_, List.mem_cons_self, hbad⟩, scan, ?_⟩
        exact loop_leave (scanBody_bad h4 hlt hlooks hbad) fuel
      · rw [loop_again (scanBody_next h4 hlt hlooks hbad)]
        have hpos : 0 < (byteAt bytes scan.currDescrptorOffset).toNat :=
          Nat.pos_of_ne_zero fun hzero => hfirst.length_ne (UInt8.toNat_inj.mp hzero)
        have hnext : totalLength bytes ≤ (scan.next bytes).currDescrptorOffset + n := by
          change _ ≤ scan.currDescrptorOffset + _ + n
          omega
        have hrest := ih hnext (fun o ho => hinside o (List.mem_cons_of_mem _ ho))
          (show n < fuel by omega)
        rcases hrest with ⟨⟨o, ho, hrefused⟩, hscan⟩ | ⟨hgood, scan', hscan, hscanned⟩
        · exact Or.inl ⟨⟨o, List.mem_cons_of_mem _ ho, hrefused⟩, hscan⟩
        · refine Or.inr ⟨?_, scan', hscan, hscanned.cons⟩
          intro o ho
          rcases List.mem_cons.mp ho with rfl | ho
          · exact hbad
          · exact hgood o ho
    · rw [if_neg hlt]
      refine Or.inr ⟨by simp, scan, ?_, rfl, rfl, rfl⟩
      exact loop_leave (scanBody_done h4 hlt) fuel

theorem scan_start (hset : WellFormedSet bytes) {fuel : Nat} (hfuel : totalLength bytes < fuel) :
    ((∃ o ∈ descriptorOffsets bytes, BadDescriptor bytes o) ∧
        ∃ scan', loop (scanBody (ofBytes bytes)) fuel .start = .ok (.deviceHardwareError, scan')) ∨
      ((∀ o ∈ descriptorOffsets bytes, ¬ BadDescriptor bytes o) ∧
        ∃ scan', loop (scanBody (ofBytes bytes)) fuel .start = .ok (.success, scan') ∧
          Scanned bytes (descriptorOffsets bytes) .start scan') :=
  @scan_descriptors bytes .start hset.header hset.total_le _ (Nat.le_add_left _ _) hset.inside
    fuel hfuel

end DescriptorScan

namespace SelectedConfiguration

open DescriptorScan Adapter

/-! ## What a call does -/

section Found

variable (device : SelectedConfiguration) (outcomes : ConfigurationOutcomes)

/-- The last interface with the number that the scan has for the control interface. -/
def listedControl : Option UsbInterface :=
  lastMatch
    (fun usbInterface => usbInterface.interfaceNumber =
      lastNumber outcomes.descriptors (IsControl outcomes.descriptors))
    outcomes.interfaces

/-- The last interface with the number that the scan has for the data interface, unless it is that
of the control interface. -/
def listedData : Option UsbInterface :=
  lastMatch
    (fun usbInterface =>
      usbInterface.interfaceNumber ≠
          lastNumber outcomes.descriptors (IsControl outcomes.descriptors) ∧
        usbInterface.interfaceNumber =
          lastNumber outcomes.descriptors (IsData outcomes.descriptors))
    outcomes.interfaces

/-- An interface that is not in the list stays what it was. -/
def found : SelectedConfiguration :=
  { device with
    controlInterface := (listedControl outcomes).or device.controlInterface
    dataInterface := (listedData outcomes).or device.dataInterface }

/-- The two interfaces can be selected. -/
structure Usable : Prop where
  control : (device.found outcomes).controlInterface.isSome
  data : ∃ dataInterface, (device.found outcomes).dataInterface = some dataInterface ∧
    dataInterface.numSettings = 2
  selected : outcomes.selectConfig.ntSuccess

/-- The call gets to where the ECM descriptor is read. -/
structure UsesEcm : Prop where
  size : outcomes.firstRetrieve = .bufferTooSmall
  buffer : outcomes.memoryCreate.ntSuccess
  retrieved : outcomes.secondRetrieve.ntSuccess
  not_bad : ∀ o ∈ descriptorOffsets outcomes.descriptors, ¬ BadDescriptor outcomes.descriptors o
  usable : device.Usable outcomes

/-- What is asked for after that is there, and right. -/
structure Finishes : Prop where
  string : outcomes.queryString.ntSuccess
  macAddress : (hexStringToBytes outcomes.strMacAddress.toList
    device.configuration.macAddress).1.ntSuccess
  parameters : outcomes.getNtbParameters.ntSuccess
  supported : outcomes.ntbParamters.bmNtbFormatsSupported &&& 0x1 ≠ 0

end Found

variable {device : SelectedConfiguration} {outcomes : ConfigurationOutcomes}

theorem findInterfaces_eq (device : SelectedConfiguration)
    (controlInterfaceNumber dataInterfaceNumber : UInt8) (interfaces : List UsbInterface) :
    device.findInterfaces controlInterfaceNumber dataInterfaceNumber interfaces =
      { device with
        controlInterface :=
          (lastMatch (fun i : UsbInterface => i.interfaceNumber = controlInterfaceNumber)
            interfaces).or device.controlInterface
        dataInterface :=
          (lastMatch (fun i : UsbInterface => i.interfaceNumber ≠ controlInterfaceNumber ∧
            i.interfaceNumber = dataInterfaceNumber) interfaces).or device.dataInterface } := by
  induction interfaces generalizing device with
  | nil => rfl
  | cons usbInterface interfaces ih =>
    unfold findInterfaces
    rw [ih, lastMatch_cons, lastMatch_cons, Option.or_assoc, Option.or_assoc]
    by_cases hcontrol : usbInterface.interfaceNumber = controlInterfaceNumber
    · simp [hcontrol]
    · by_cases hdata : usbInterface.interfaceNumber = dataInterfaceNumber
      · rw [if_neg hcontrol, if_neg hcontrol, if_pos hdata, if_pos ⟨hcontrol, hdata⟩]
        rfl
      · simp [hcontrol, hdata]

theorem findInterfaces_of_scanned {scan : DescriptorScan}
    (h : Scanned outcomes.descriptors (descriptorOffsets outcomes.descriptors) .start scan) :
    device.findInterfaces scan.controlInterfaceNumber scan.dataInterfaceNumber
      outcomes.interfaces = device.found outcomes := by
  rw [findInterfaces_eq, h.controlInterfaceNumber, h.dataInterfaceNumber]
  rfl

theorem selectInterfaces_cases {scan : DescriptorScan}
    (h : Scanned outcomes.descriptors (descriptorOffsets outcomes.descriptors) .start scan) :
    (device.Usable outcomes ∧ device.selectInterfaces outcomes scan =
        (device.found outcomes).queryFunction outcomes scan.pEcmFunctionalDescr) ∨
      (¬ device.Usable outcomes ∧ ∃ status device',
        device.selectInterfaces outcomes scan = .ok (status, device') ∧ ¬ status.ntSuccess) := by
  unfold selectInterfaces
  rw [findInterfaces_of_scanned h]
  dsimp only
  split
  · next usbInterface dataInterface hcontrol hdata =>
    by_cases hsettings : dataInterface.numSettings = 2
    · rw [if_neg (not_not.mpr hsettings)]
      by_cases hselected : outcomes.selectConfig.ntSuccess
      · rw [if_neg (not_not.mpr hselected)]
        refine Or.inl ⟨⟨?_, ⟨dataInterface, hdata, hsettings⟩, hselected⟩, rfl⟩
        rw [hcontrol]
        rfl
      · rw [if_pos hselected]
        exact Or.inr ⟨fun husable => hselected husable.selected, _, _, rfl, hselected⟩
    · rw [if_pos hsettings]
      refine Or.inr ⟨fun husable => ?_, _, _, rfl, by decide⟩
      obtain ⟨dataInterface', hdata', hsettings'⟩ := husable.data
      obtain rfl := Option.some.inj (hdata.symm.trans hdata')
      exact hsettings hsettings'
  · next hmissing =>
    refine Or.inr ⟨fun husable => ?_, _, _, rfl, by decide⟩
    obtain ⟨usbInterface, hcontrol⟩ := Option.isSome_iff_exists.mp husable.control
    obtain ⟨dataInterface, hdata, -⟩ := husable.data
    exact hmissing usbInterface dataInterface hcontrol hdata

/-- A call gets to the last ECM descriptor, if there is one, or returns an error before. -/
theorem selectConfiguration_cases (device : SelectedConfiguration)
    (hset : WellFormedSet outcomes.descriptors) {fuel : Nat}
    (hfuel : totalLength outcomes.descriptors < fuel) :
    (device.UsesEcm outcomes ∧ device.selectConfiguration fuel outcomes =
        (device.found outcomes).queryFunction outcomes (lastEcm outcomes.descriptors)) ∨
      (¬ device.UsesEcm outcomes ∧ ∃ status device',
        device.selectConfiguration fuel outcomes = .ok (status, device') ∧
          ¬ status.ntSuccess) := by
  unfold selectConfiguration
  by_cases hsize : outcomes.firstRetrieve = .bufferTooSmall
  · rw [if_neg (not_not.mpr hsize)]
    by_cases hbuffer : outcomes.memoryCreate.ntSuccess
    · rw [if_neg (not_not.mpr hbuffer)]
      by_cases hretrieved : outcomes.secondRetrieve.ntSuccess
      · rw [if_neg (not_not.mpr hretrieved)]
        rcases scan_start hset hfuel with ⟨⟨o, ho, hbad⟩, scan, hscan⟩ |
          ⟨hgood, scan, hscan, hscanned⟩
        · rw [hscan, ok_bind]
          exact Or.inr ⟨fun huses => huses.not_bad o ho hbad, _, _, rfl, by decide⟩
        · rw [hscan, ok_bind]
          change (_ ∧ device.selectInterfaces outcomes scan = _) ∨
            (_ ∧ ∃ status device', device.selectInterfaces outcomes scan = _ ∧ _)
          have hecm : scan.pEcmFunctionalDescr = lastEcm outcomes.descriptors :=
            hscanned.pEcmFunctionalDescr.trans Option.or_none
          rw [← hecm]
          rcases selectInterfaces_cases hscanned with ⟨husable, hrun⟩ | ⟨husable, hrun⟩
          · exact Or.inl ⟨⟨hsize, hbuffer, hretrieved, hgood, husable⟩, hrun⟩
          · exact Or.inr ⟨fun huses => husable huses.usable, hrun⟩
      · rw [if_pos hretrieved]
        exact Or.inr ⟨fun huses => hretrieved huses.retrieved, _, _, rfl, hretrieved⟩
    · rw [if_pos hbuffer]
      exact Or.inr ⟨fun huses => hbuffer huses.buffer, _, _, rfl, hbuffer⟩
  · rw [if_pos hsize]
    refine Or.inr ⟨fun huses => hsize huses.size, _, _, rfl, fun hsuccess => ?_⟩
    exact outcomes.firstRetrieve_ne (NtStatus.eq_success hsuccess)

/-! ## Behind the ECM descriptor -/

theorem queryParameters_kept (device : SelectedConfiguration) (outcomes : ConfigurationOutcomes) :
    (device.queryParameters outcomes).2.controlInterface = device.controlInterface ∧
      (device.queryParameters outcomes).2.dataInterface = device.dataInterface ∧
      (device.queryParameters outcomes).2.configuration.maxDatagramSize =
        device.configuration.maxDatagramSize := by
  unfold queryParameters selectNtbParameters
  dsimp only
  split_ifs <;> exact ⟨rfl, rfl, rfl⟩

theorem queryParameters_ntSuccess_iff (device : SelectedConfiguration)
    (outcomes : ConfigurationOutcomes) :
    (device.queryParameters outcomes).1.ntSuccess ↔ device.Finishes outcomes := by
  unfold queryParameters
  dsimp only
  split
  · next hstring => exact iff_of_false hstring fun h => hstring h.string
  · next hstring =>
    split
    · next hmac => exact iff_of_false hmac fun h => hmac h.macAddress
    · next hmac =>
      split
      · next hparameters => exact iff_of_false hparameters fun h => hparameters h.parameters
      · next hparameters =>
        have hformat := selectNtbParameters_ntSuccess_iff
          { device.configuration with
            macAddress := (hexStringToBytes outcomes.strMacAddress.toList
              device.configuration.macAddress).2 } outcomes.ntbParamters
        constructor
        · exact fun hsuccess =>
            ⟨not_not.mp hstring, not_not.mp hmac, not_not.mp hparameters, hformat.mp hsuccess⟩
        · exact fun h => hformat.mpr h.supported

/-- What a call is left with that used the ECM descriptor at `o`. -/
def queried (device : SelectedConfiguration) (outcomes : ConfigurationOutcomes) (o : Nat) :
    NtStatus × SelectedConfiguration :=
  { device.found outcomes with
    configuration := selectMtu device.configuration
      (UInt16.ofNat (wMaxSegmentSizeAt outcomes.descriptors o)) }.queryParameters outcomes

theorem queried_ntSuccess_iff (device : SelectedConfiguration) (outcomes : ConfigurationOutcomes)
    (o : Nat) : (device.queried outcomes o).1.ntSuccess ↔ device.Finishes outcomes := by
  unfold queried
  rw [queryParameters_ntSuccess_iff]
  constructor
  · exact fun h => ⟨h.string, h.macAddress, h.parameters, h.supported⟩
  · exact fun h => ⟨h.string, h.macAddress, h.parameters, h.supported⟩

theorem queryFunction_some (hset : WellFormedSet outcomes.descriptors) {o : Nat}
    (hlast : lastEcm outcomes.descriptors = some o)
    (hgood : ¬ BadDescriptor outcomes.descriptors o) :
    (device.found outcomes).queryFunction outcomes (some o) = .ok (device.queried outcomes o) := by
  obtain ⟨hmem, hecm⟩ := lastMatch_some hlast
  have hlength : byteAt outcomes.descriptors o = sizeofUsbEcmCsNetFunctionalDescriptor := by
    by_contra hne
    exact hgood (Or.inr ⟨hecm.1, Or.inr (Or.inr ⟨hecm, hne⟩)⟩)
  have hend := (hset.inside o hmem).length_le
  rw [hlength] at hend
  have htotal := hset.total_le
  have hinside : o + 13 ≤ outcomes.descriptors.length := Nat.le_trans hend htotal
  unfold queryFunction
  dsimp only
  rw [readLe_two_ofBytes (by omega), ok_bind, readByte_ofBytes (by omega), ok_bind]
  rfl

/-! ## What is accepted -/

/-- The number of the interface is that of a descriptor of the kind that is looked for. -/
def Described (bytes : List UInt8) (p : Nat → Prop) (usbInterface : UsbInterface) : Prop :=
  ∃ o ∈ descriptorOffsets bytes, p o ∧ byteAt bytes (o + 2) = usbInterface.interfaceNumber

/-- The device has been set up for an NCM function. -/
structure ProperNcm (bytes : List UInt8) (device : SelectedConfiguration) : Prop where
  control : ∃ usbInterface, device.controlInterface = some usbInterface ∧
    Described bytes (IsControl bytes) usbInterface
  data : ∃ usbInterface, device.dataInterface = some usbInterface ∧
    Described bytes (IsData bytes) usbInterface
  differ : device.controlInterface ≠ device.dataInterface
  ecm : ∃ o ∈ descriptorOffsets bytes, IsEcm bytes o ∧
    sizeofEthernetHeader ≤ wMaxSegmentSizeAt bytes o
  mtu : (linkLayerMtuSize (adapterParameters device.configuration)).toNat + sizeofEthernetHeader =
    device.configuration.maxDatagramSize.toNat

structure AcceptsOnlyNcm (fuel : Nat) (device : SelectedConfiguration)
    (outcomes : ConfigurationOutcomes) : Prop where
  accepted : ∀ status device', device.selectConfiguration fuel outcomes = .ok (status, device') →
    status.ntSuccess → ProperNcm outcomes.descriptors device'
  refused : (∀ o ∈ descriptorOffsets outcomes.descriptors, ¬ IsEcm outcomes.descriptors o) →
    ∃ status device', device.selectConfiguration fuel outcomes = .ok (status, device') ∧
      ¬ status.ntSuccess

/-- An interface that was found by its number needs a descriptor that the number came from. One that
was kept from before needs a descriptor with its own. -/
def Known (bytes : List UInt8) (p : Nat → Prop) : Option UsbInterface → Option UsbInterface → Prop
  | some _, _ => ∃ o ∈ descriptorOffsets bytes, p o
  | none, kept => ∃ usbInterface, kept = some usbInterface ∧ Described bytes p usbInterface

theorem known_iff {bytes : List UInt8} {p : Nat → Prop} [DecidablePred p]
    {listed kept : Option UsbInterface}
    (hlisted : ∀ usbInterface, listed = some usbInterface →
      usbInterface.interfaceNumber = lastNumber bytes p) :
    (∃ usbInterface, listed.or kept = some usbInterface ∧ Described bytes p usbInterface) ↔
      Known bytes p listed kept := by
  cases listed with
  | none => exact Iff.rfl
  | some usbInterface =>
    constructor
    · rintro ⟨-, -, o, ho, hp, -⟩
      exact ⟨o, ho, hp⟩
    · intro hknown
      obtain ⟨o, hlast⟩ := exists_lastMatch_iff.mpr hknown
      obtain ⟨ho, hp⟩ := lastMatch_some hlast
      refine ⟨usbInterface, rfl, o, ho, hp, ?_⟩
      rw [hlisted usbInterface rfl, lastNumber, hlast]
      rfl

theorem Known.of_listed {bytes : List UInt8} {p : Nat → Prop} {listed kept : Option UsbInterface}
    (hlisted : listed.isSome) (h : ∃ o ∈ descriptorOffsets bytes, p o) :
    Known bytes p listed kept := by
  obtain ⟨usbInterface, rfl⟩ := Option.isSome_iff_exists.mp hlisted
  exact h

theorem listedControl_number {usbInterface : UsbInterface}
    (h : listedControl outcomes = some usbInterface) : usbInterface.interfaceNumber =
      lastNumber outcomes.descriptors (IsControl outcomes.descriptors) :=
  (lastMatch_some h).2

theorem listedData_number {usbInterface : UsbInterface}
    (h : listedData outcomes = some usbInterface) : usbInterface.interfaceNumber =
      lastNumber outcomes.descriptors (IsData outcomes.descriptors) :=
  (lastMatch_some h).2.2

/-- What a call has to find that uses the ECM descriptor at `o` and finishes. -/
structure Suited (device : SelectedConfiguration) (outcomes : ConfigurationOutcomes) (o : Nat) :
    Prop where
  control : Known outcomes.descriptors (IsControl outcomes.descriptors) (listedControl outcomes)
    device.controlInterface
  data : Known outcomes.descriptors (IsData outcomes.descriptors) (listedData outcomes)
    device.dataInterface
  differ : (listedControl outcomes).or device.controlInterface ≠
    (listedData outcomes).or device.dataInterface
  header_le : sizeofEthernetHeader ≤ wMaxSegmentSizeAt outcomes.descriptors o

theorem properNcm_queried_iff {o : Nat} (hlast : lastEcm outcomes.descriptors = some o) :
    ProperNcm outcomes.descriptors (device.queried outcomes o).2 ↔ device.Suited outcomes o := by
  obtain ⟨hcontrol, hdata, hsize⟩ : (device.queried outcomes o).2.controlInterface = _ ∧
      (device.queried outcomes o).2.dataInterface = _ ∧
      (device.queried outcomes o).2.configuration.maxDatagramSize = _ :=
    queryParameters_kept _ outcomes
  have hmtu := linkLayerMtuSize_exact_iff
    (adapterParameters (device.queried outcomes o).2.configuration)
  have hfits := headerFits_iff device.configuration (wMaxSegmentSizeAt_lt outcomes.descriptors o)
  change _ ↔ _ ≤ UInt16.toNat (HostConfiguration.maxDatagramSize _) at hmtu
  rw [hsize, hfits] at hmtu
  obtain ⟨hmem, hecm⟩ := lastMatch_some hlast
  constructor
  · intro h
    have hcontrol' := h.control
    have hdata' := h.data
    have hdiffer := h.differ
    rw [hcontrol] at hcontrol' hdiffer
    rw [hdata] at hdata' hdiffer
    exact ⟨(known_iff fun _ => listedControl_number).mp hcontrol',
      (known_iff fun _ => listedData_number).mp hdata', hdiffer, hmtu.mp h.mtu⟩
  · intro h
    refine ⟨?_, ?_, ?_, ⟨o, hmem, hecm, h.header_le⟩, hmtu.mpr h.header_le⟩
    · rw [hcontrol]
      exact (known_iff fun _ => listedControl_number).mpr h.control
    · rw [hdata]
      exact (known_iff fun _ => listedData_number).mpr h.data
    · rw [hcontrol, hdata]
      exact h.differ

/-- If only NCM functions are accepted, a call that gets to an ECM descriptor and finishes has found
what it needs. -/
theorem AcceptsOnlyNcm.suited {fuel : Nat} (h : AcceptsOnlyNcm fuel device outcomes)
    (hset : WellFormedSet outcomes.descriptors) (hfuel : totalLength outcomes.descriptors < fuel)
    (huses : device.UsesEcm outcomes) {o : Nat} (hlast : lastEcm outcomes.descriptors = some o)
    (hfinish : device.Finishes outcomes) : device.Suited outcomes o := by
  rcases selectConfiguration_cases device hset hfuel with ⟨-, hrun⟩ | ⟨hnot, -⟩
  · have hgood := huses.not_bad o (lastMatch_some hlast).1
    rw [hlast, queryFunction_some hset hlast hgood] at hrun
    have hsuccess := (queried_ntSuccess_iff device outcomes o).mpr hfinish
    exact (properNcm_queried_iff hlast).mp (h.accepted _ _ hrun hsuccess)
  · exact absurd huses hnot

/-- Over a well-formed set, only NCM functions are accepted exactly when a call that gets to the ECM
descriptor has one, and a call that finishes has numbers that come from descriptors, two interfaces,
and room for a header. -/
theorem acceptsOnlyNcm_iff (device : SelectedConfiguration) (outcomes : ConfigurationOutcomes)
    (hset : WellFormedSet outcomes.descriptors) {fuel : Nat}
    (hfuel : totalLength outcomes.descriptors < fuel) :
    AcceptsOnlyNcm fuel device outcomes ↔
      (device.UsesEcm outcomes → ∃ o, lastEcm outcomes.descriptors = some o ∧
        (device.Finishes outcomes → device.Suited outcomes o)) := by
  rcases selectConfiguration_cases device hset hfuel with
    ⟨huses, hrun⟩ | ⟨huses, status, device', hrun, hfailed⟩
  · cases hlast : lastEcm outcomes.descriptors with
    | none =>
      rw [hlast] at hrun
      refine iff_of_false (fun h => ?_) fun h => ?_
      · obtain ⟨status, device', hreturns, -⟩ := h.refused (lastMatch_eq_none_iff.mp hlast)
        cases hrun.symm.trans hreturns
      · obtain ⟨o, hnone, -⟩ := h huses
        cases hnone
    | some o =>
      have hmem := (lastMatch_some hlast).1
      rw [hlast, queryFunction_some hset hlast (huses.not_bad o hmem)] at hrun
      constructor
      · exact fun h _ => ⟨o, rfl, h.suited hset hfuel huses hlast⟩
      · intro h
        obtain ⟨o', ho', hsuited⟩ := h huses
        obtain rfl := Option.some.inj ho'
        refine ⟨fun status device' hreturns hsuccess => ?_, fun hmissing => ?_⟩
        · have hresult := Except.ok.inj (hrun.symm.trans hreturns)
          have hfinish : device.Finishes outcomes := by
            rw [← queried_ntSuccess_iff device outcomes o, hresult]
            exact hsuccess
          have hproper := (properNcm_queried_iff hlast).mpr (hsuited hfinish)
          rw [hresult] at hproper
          exact hproper
        · exact absurd (lastMatch_some hlast).2 (hmissing o hmem)
  · refine iff_of_true ⟨fun status' device'' hreturns hsuccess => ?_, fun _ => ?_⟩
      fun h => absurd h huses
    · cases hrun.symm.trans hreturns
      exact absurd hsuccess hfailed
    · exact ⟨status, device', hrun, hfailed⟩

/-! ## Some functions -/

/-- A device before its first call. -/
def fresh : SelectedConfiguration where
  controlInterface := none
  dataInterface := none
  configuration :=
    { use32BitNtb := false, ntbParamters := ⟨0, 0, 0, 0, 0, 0, 0, 0, 0, 0, 0, 0⟩
      hostSelectedNtbInMaxSize := 0, maxDatagramSize := 0, macAddress := [0, 0, 0, 0, 0, 0] }

/-- A function with these descriptors, and interfaces 0 and 1, that answers every request. -/
def answering (retrieved : List UInt8) (h : retrieved.length < 65536) : ConfigurationOutcomes where
  firstRetrieve := .bufferTooSmall
  sizeDescriptors := UInt16.ofNat retrieved.length
  memoryCreate := .success
  secondRetrieve := .success
  retrieved := retrieved
  interfaces := [⟨1, 0, 1⟩, ⟨2, 1, 2⟩]
  selectConfig := .success
  queryString := .success
  strMacAddress :=
    #v[0x30, 0x32, 0x31, 0x35, 0x35, 0x44, 0x30, 0x30, 0x30, 0x30, 0x30, 0x31]
  getNtbParameters := .success
  ntbParamters := ⟨28, 3, 65536, 4, 0, 4, 0, 65536, 4, 0, 4, 16⟩
  firstRetrieve_ne := by decide
  retrieved_le := Nat.le_of_eq (UInt16.toNat_ofNat_of_lt' h).symm

/-- A configuration descriptor, and the descriptors behind it. -/
def descriptorSet (rest : List UInt8) : List UInt8 :=
  [9, 2] ++ leBytes 2 (9 + rest.length) ++ [2, 1, 0, 0xC0, 50] ++ rest

def controlDescriptor : List UInt8 := [9, 4, 0, 0, 1, 2, 0x0D, 0, 0]

/-- The two settings of the data interface. -/
def dataDescriptors : List UInt8 :=
  [9, 4, 1, 0, 0, 0x0A, 0, 1, 0] ++ [9, 4, 1, 1, 2, 0x0A, 0, 1, 0]

def ecmDescriptor (wMaxSegmentSize : Nat) : List UInt8 :=
  [13, 0x24, 0x0F, 5, 0, 0, 0, 0] ++ leBytes 2 wMaxSegmentSize ++ [0, 0, 0]

instance (bytes : List UInt8) (o : Nat) : Decidable (DescriptorInside bytes o) :=
  decidable_of_iff
    (byteAt bytes o ≠ 0 ∧ o + 2 ≤ totalLength bytes ∧
      o + (byteAt bytes o).toNat ≤ totalLength bytes)
    ⟨fun h => ⟨h.1, h.2.1, h.2.2⟩, fun h => ⟨h.length_ne, h.header_le, h.length_le⟩⟩

def ethernetFunction : ConfigurationOutcomes :=
  answering (descriptorSet (controlDescriptor ++ ecmDescriptor 1514 ++ dataDescriptors)) (by decide)

def withoutControl : ConfigurationOutcomes :=
  answering (descriptorSet (ecmDescriptor 1514 ++ dataDescriptors)) (by decide)

def withoutEcm : ConfigurationOutcomes :=
  answering (descriptorSet (controlDescriptor ++ dataDescriptors)) (by decide)

def shortSegments : ConfigurationOutcomes :=
  answering (descriptorSet (controlDescriptor ++ ecmDescriptor 13 ++ dataDescriptors)) (by decide)

theorem acceptsOnlyNcm_ethernet : AcceptsOnlyNcm 50 fresh ethernetFunction :=
  (acceptsOnlyNcm_iff fresh ethernetFunction ⟨by decide, by decide, by decide⟩
    (show _ < 50 by decide)).mpr fun _ =>
      ⟨18, by decide, fun _ => ⟨.of_listed (by decide) ⟨9, by decide, by decide⟩,
        .of_listed (by decide) ⟨40, by decide, by decide⟩, by decide, by decide⟩⟩

/-- A function without a control interface is accepted, interface 0 in its place. Without an ECM
descriptor a null pointer is read. A function with segments of 13 bytes is accepted with an MTU that
wraps. -/
theorem not_acceptsOnlyNcm :
    (WellFormedSet withoutControl.descriptors ∧ ¬ AcceptsOnlyNcm 50 fresh withoutControl) ∧
      (WellFormedSet withoutEcm.descriptors ∧ ¬ AcceptsOnlyNcm 50 fresh withoutEcm) ∧
      (WellFormedSet shortSegments.descriptors ∧ ¬ AcceptsOnlyNcm 50 fresh shortSegments) := by
  have hcontrol : WellFormedSet withoutControl.descriptors := ⟨by decide, by decide, by decide⟩
  have hecm : WellFormedSet withoutEcm.descriptors := ⟨by decide, by decide, by decide⟩
  have hshort : WellFormedSet shortSegments.descriptors := ⟨by decide, by decide, by decide⟩
  refine ⟨⟨hcontrol, fun h => ?_⟩, ⟨hecm, fun h => ?_⟩, ⟨hshort, fun h => ?_⟩⟩
  · have hsuited := h.suited hcontrol (by decide)
      ⟨rfl, rfl, rfl, by decide, ⟨rfl, ⟨⟨2, 1, 2⟩, rfl, rfl⟩, rfl⟩⟩
      (show lastEcm withoutControl.descriptors = some 9 by decide) ⟨rfl, by decide, rfl, by decide⟩
    have hnone : ∀ o ∈ descriptorOffsets withoutControl.descriptors,
        ¬ IsControl withoutControl.descriptors o := by decide
    obtain ⟨o, ho, hdescriptor⟩ := hsuited.control
    exact hnone o ho hdescriptor
  · obtain ⟨status, device', hreturns, -⟩ := h.refused (by decide)
    cases hreturns
  · have hsuited := h.suited hshort (by decide)
      ⟨rfl, rfl, rfl, by decide, ⟨rfl, ⟨⟨2, 1, 2⟩, rfl, rfl⟩, rfl⟩⟩
      (show lastEcm shortSegments.descriptors = some 18 by decide) ⟨rfl, by decide, rfl, by decide⟩
    exact absurd hsuited.header_le (by decide)

end SelectedConfiguration

end UsbNcm.Host
