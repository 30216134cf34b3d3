import UsbNcm.Lib.ByteMemory
import UsbNcm.Ntb.Format

/-!
# The scan of the configuration descriptor (`host/device.cpp`)

The device lays out the chain of descriptors, says how long each is and how long they all are. The
scan follows it through a buffer whose size was fixed before.
-/

open Exec ByteMemory UsbNcm.Ntb

namespace UsbNcm.Host

def usbInterfaceDescriptorType : UInt8 := 0x04

def usbCsInterfaceType : UInt8 := 0x24

def usbCdcInterfaceClassComm : UInt8 := 0x02

def usbCdcInterfaceClassData : UInt8 := 0x0A

def usbCdcInterfaceSubclassNcm : UInt8 := 0x0D

def usbDataInterfaceProtocolNcm : UInt8 := 0x01

def usbCsNcmFunctionalDescrType : UInt8 := 0x1A

def usbCsEcmFunctionalDescrType : UInt8 := 0x0F

def sizeofUsbInterfaceDescriptor : UInt8 := 9

def sizeofUsbCdcCsFunctionalDescriptor : UInt8 := 3

def sizeofUsbNcmCsFunctionalDescriptor : UInt8 := 6

def sizeofUsbEcmCsNetFunctionalDescriptor : UInt8 := 13

/-! ## The scan -/

structure DescriptorScan where
  -- pCurrDescriptor points there
  currDescrptorOffset : Nat
  controlInterfaceNumber : UInt8
  dataInterfaceNumber : UInt8
  -- where in the buffer, if not null
  pNcmFunctionalDescr : Option Nat
  pEcmFunctionalDescr : Option Nat
  deriving DecidableEq, Repr

namespace DescriptorScan

def start : DescriptorScan where
  currDescrptorOffset := 0
  controlInterfaceNumber := 0
  dataInterfaceNumber := 0
  pNcmFunctionalDescr := none
  pEcmFunctionalDescr := none

/-- The case of an interface descriptor. None is "Bad UsbInterfaceDescriptor". -/
def scanInterface (m : Memory) (scan : DescriptorScan) : Except Stop (Option DescriptorScan) := do
  let pIfDescriptor := scan.currDescrptorOffset
  let bLength ← readByte m pIfDescriptor
  if bLength ≠ sizeofUsbInterfaceDescriptor then return none
  else
    let bInterfaceClass ← readByte m (pIfDescriptor + 5)
    if bInterfaceClass = usbCdcInterfaceClassComm then
      let bInterfaceSubClass ← readByte m (pIfDescriptor + 6)
      if bInterfaceSubClass = usbCdcInterfaceSubclassNcm then
        let bNumEndpoints ← readByte m (pIfDescriptor + 4)
        if bNumEndpoints ≠ 1 then return none
        else
          let bInterfaceNumber ← readByte m (pIfDescriptor + 2)
          return some { scan with controlInterfaceNumber := bInterfaceNumber }
      else return some scan
    else if bInterfaceClass = usbCdcInterfaceClassData then
      let bInterfaceProtocol ← readByte m (pIfDescriptor + 7)
      if bInterfaceProtocol = usbDataInterfaceProtocolNcm then
        let bAlternateSetting ← readByte m (pIfDescriptor + 3)
        if bAlternateSetting = 1 then
          let bNumEndpoints ← readByte m (pIfDescriptor + 4)
          if bNumEndpoints ≠ 2 then return none
          else
            let bInterfaceNumber ← readByte m (pIfDescriptor + 2)
            return some { scan with dataInterfaceNumber := bInterfaceNumber }
        else return some scan
      else return some scan
    else return some scan

/-- The case of a class-specific interface descriptor. -/
def scanFunctional (m : Memory) (scan : DescriptorScan) : Except Stop (Option DescriptorScan) := do
  let pCsFuncDescriptor := scan.currDescrptorOffset
  let bFunctionLength ← readByte m pCsFuncDescriptor
  if bFunctionLength < sizeofUsbCdcCsFunctionalDescriptor then return none
  else
    let bDescriptorSubtype ← readByte m (pCsFuncDescriptor + 2)
    if bDescriptorSubtype = usbCsNcmFunctionalDescrType then
      if bFunctionLength ≠ sizeofUsbNcmCsFunctionalDescriptor then return none
      else return some { scan with pNcmFunctionalDescr := some pCsFuncDescriptor }
    else if bDescriptorSubtype = usbCsEcmFunctionalDescrType then
      if bFunctionLength ≠ sizeofUsbEcmCsNetFunctionalDescriptor then return none
      else return some { scan with pEcmFunctionalDescr := some pCsFuncDescriptor }
    else return some scan

def scanDescriptor (m : Memory) (scan : DescriptorScan) : Except Stop (Option DescriptorScan) := do
  let bDescriptorType ← readByte m (scan.currDescrptorOffset + 1)
  if bDescriptorType = usbInterfaceDescriptorType then scan.scanInterface m
  else if bDescriptorType = usbCsInterfaceType then scan.scanFunctional m
  else return some scan

/-- One pass of the scan, over the buffer with the configuration descriptor. -/
def scanBody (m : Memory) (scan : DescriptorScan) :
    Except Stop (Pass DescriptorScan (NtStatus × DescriptorScan)) := do
  let wTotalLength ← readLe m 2 2
  if scan.currDescrptorOffset < wTotalLength then
    match ← scan.scanDescriptor m with
    | none => return .leave (.deviceHardwareError, scan)
    | some scan =>
      let bLength ← readByte m scan.currDescrptorOffset
      return .again
        { scan with currDescrptorOffset := scan.currDescrptorOffset + bLength.toNat }
  else return .leave (.success, scan)

end DescriptorScan

/-! ## The descriptors in plain terms -/

section Descriptor

variable (bytes : List UInt8) (o : Nat)

def totalLength : Nat := (byteAt bytes 2).toNat + 256 * (byteAt bytes 3).toNat

def IsInterface : Prop := byteAt bytes (o + 1) = usbInterfaceDescriptorType

def IsFunctional : Prop := byteAt bytes (o + 1) = usbCsInterfaceType

def IsControl : Prop :=
  IsInterface bytes o ∧ byteAt bytes (o + 5) = usbCdcInterfaceClassComm ∧
    byteAt bytes (o + 6) = usbCdcInterfaceSubclassNcm

def IsData : Prop :=
  IsInterface bytes o ∧ byteAt bytes (o + 5) = usbCdcInterfaceClassData ∧
    byteAt bytes (o + 7) = usbDataInterfaceProtocolNcm ∧ byteAt bytes (o + 3) = 1

def IsNcm : Prop := IsFunctional bytes o ∧ byteAt bytes (o + 2) = usbCsNcmFunctionalDescrType

def IsEcm : Prop := IsFunctional bytes o ∧ byteAt bytes (o + 2) = usbCsEcmFunctionalDescrType

/-- The checks that end the scan with an error. -/
def BadDescriptor : Prop :=
  (IsInterface bytes o ∧ (byteAt bytes o ≠ sizeofUsbInterfaceDescriptor ∨
      IsControl bytes o ∧ byteAt bytes (o + 4) ≠ 1 ∨ IsData bytes o ∧ byteAt bytes (o + 4) ≠ 2)) ∨
    (IsFunctional bytes o ∧ (byteAt bytes o < sizeofUsbCdcCsFunctionalDescriptor ∨
      IsNcm bytes o ∧ byteAt bytes o ≠ sizeofUsbNcmCsFunctionalDescriptor ∨
      IsEcm bytes o ∧ byteAt bytes o ≠ sizeofUsbEcmCsNetFunctionalDescriptor))

instance : Decidable (IsInterface bytes o) := inferInstanceAs (Decidable (_ = _))

instance : Decidable (IsFunctional bytes o) := inferInstanceAs (Decidable (_ = _))

instance : Decidable (IsControl bytes o) := inferInstanceAs (Decidable (_ ∧ _))

instance : Decidable (IsData bytes o) := inferInstanceAs (Decidable (_ ∧ _))

instance : Decidable (IsNcm bytes o) := inferInstanceAs (Decidable (_ ∧ _))

instance : Decidable (IsEcm bytes o) := inferInstanceAs (Decidable (_ ∧ _))

instance : Decidable (BadDescriptor bytes o) := inferInstanceAs (Decidable (_ ∨ _))

/-- How many bytes of the descriptor the scan looks at. -/
def looksAt : Nat :=
  if IsInterface bytes o then
    if byteAt bytes o ≠ sizeofUsbInterfaceDescriptor then 2
    else if byteAt bytes (o + 5) = usbCdcInterfaceClassComm then 7
    else if byteAt bytes (o + 5) = usbCdcInterfaceClassData then 8
    else 6
  else if IsFunctional bytes o then
    if byteAt bytes o < sizeofUsbCdcCsFunctionalDescriptor then 2 else 3
  else 2

end Descriptor

namespace DescriptorScan

variable {bytes : List UInt8} {scan : DescriptorScan} {o : Nat}

/-- What the scan keeps of a descriptor that it does not refuse. -/
def noted (bytes : List UInt8) (scan : DescriptorScan) : DescriptorScan :=
  let o := scan.currDescrptorOffset
  if IsControl bytes o then { scan with controlInterfaceNumber := byteAt bytes (o + 2) }
  else if IsData bytes o then { scan with dataInterfaceNumber := byteAt bytes (o + 2) }
  else if IsNcm bytes o then { scan with pNcmFunctionalDescr := some o }
  else if IsEcm bytes o then { scan with pEcmFunctionalDescr := some o }
  else scan

theorem readLe_totalLength (h : 4 ≤ bytes.length) :
    readLe (ofBytes bytes) 2 2 = .ok (totalLength bytes) := readLe_two_ofBytes h

/-! ## What a pass does -/

theorem looksAt_ge (bytes : List UInt8) (o : Nat) : 2 ≤ looksAt bytes o := by
  unfold looksAt
  split_ifs <;> omega

section Pass

variable (h : scan.currDescrptorOffset + looksAt bytes scan.currDescrptorOffset ≤ bytes.length)

include h

theorem readByte_of_looksAt : ∀ k < looksAt bytes scan.currDescrptorOffset,
    readByte (ofBytes bytes) (scan.currDescrptorOffset + k) =
      .ok (byteAt bytes (scan.currDescrptorOffset + k)) :=
  fun k hk => readByte_ofBytes (by omega)

theorem scanInterface_eq (hinterface : IsInterface bytes scan.currDescrptorOffset) :
    scan.scanInterface (ofBytes bytes) =
      .ok (if BadDescriptor bytes scan.currDescrptorOffset then none else some (scan.noted bytes)) := by
  have hread := readByte_of_looksAt h
  have hfirst := hread 0 (by have := looksAt_ge bytes scan.currDescrptorOffset; omega)
  rw [Nat.add_zero] at hfirst
  unfold looksAt at hread
  rw [if_pos hinterface] at hread
  unfold scanInterface
  simp only [hfirst, ok_bind]
  simp only [BadDescriptor, noted, IsControl, IsData, IsNcm, IsEcm, IsInterface, IsFunctional,
    usbInterfaceDescriptorType, usbCsInterfaceType] at hinterface ⊢
  by_cases hlength : byteAt bytes scan.currDescrptorOffset = sizeofUsbInterfaceDescriptor
  · rw [if_neg (not_not.mpr hlength)] at hread
    by_cases hcomm : byteAt bytes (scan.currDescrptorOffset + 5) = usbCdcInterfaceClassComm
    · rw [if_pos hcomm] at hread
      by_cases hsubclass : byteAt bytes (scan.currDescrptorOffset + 6) = usbCdcInterfaceSubclassNcm
      · by_cases hendpoints : byteAt bytes (scan.currDescrptorOffset + 4) = 1
        · simp [hread, hinterface, hlength, hcomm, hsubclass, hendpoints, usbCdcInterfaceClassComm,
            usbCdcInterfaceClassData]
        · simp [hread, hinterface, hlength, hcomm, hsubclass, hendpoints, usbCdcInterfaceClassComm,
            usbCdcInterfaceClassData]
          rfl
      · simp [hread, hinterface, hlength, hcomm, hsubclass, usbCdcInterfaceClassComm,
          usbCdcInterfaceClassData]
        rfl
    · rw [if_neg hcomm] at hread
      by_cases hdata : byteAt bytes (scan.currDescrptorOffset + 5) = usbCdcInterfaceClassData
      · rw [if_pos hdata] at hread
        by_cases hprotocol : byteAt bytes (scan.currDescrptorOffset + 7) = usbDataInterfaceProtocolNcm
        · by_cases hsetting : byteAt bytes (scan.currDescrptorOffset + 3) = 1
          · by_cases hendpoints : byteAt bytes (scan.currDescrptorOffset + 4) = 2
            all_goals
              simp [hread, hinterface, hlength, hdata, hprotocol, hsetting, hendpoints]
              rfl
          · simp [hread, hinterface, hlength, hdata, hprotocol, hsetting]
            rfl
        · simp [hread, hinterface, hlength, hdata, hprotocol]
          rfl
      · rw [if_neg hdata] at hread
        simp [hread, hinterface, hlength, hcomm, hdata]
        rfl
  · simp [hinterface, hlength]
    rfl

theorem scanFunctional_eq (hfunctional : IsFunctional bytes scan.currDescrptorOffset) :
    scan.scanFunctional (ofBytes bytes) =
      .ok (if BadDescriptor bytes scan.currDescrptorOffset then none else some (scan.noted bytes)) := by
  have hread := readByte_of_looksAt h
  have hfirst := hread 0 (by have := looksAt_ge bytes scan.currDescrptorOffset; omega)
  rw [Nat.add_zero] at hfirst
  have hnot : ¬ IsInterface bytes scan.currDescrptorOffset := by
    unfold IsInterface
    rw [hfunctional]
    decide
  unfold looksAt at hread
  rw [if_neg hnot, if_pos hfunctional] at hread
  unfold scanFunctional
  simp only [hfirst, ok_bind]
  simp only [BadDescriptor, noted, IsControl, IsData, IsNcm, IsEcm, IsFunctional] at hfunctional ⊢
  by_cases hlength : byteAt bytes scan.currDescrptorOffset < sizeofUsbCdcCsFunctionalDescriptor
  · simp [hfunctional, hnot, hlength]
    rfl
  · rw [if_neg hlength] at hread
    by_cases hncm : byteAt bytes (scan.currDescrptorOffset + 2) = usbCsNcmFunctionalDescrType
    · by_cases hsize : byteAt bytes scan.currDescrptorOffset = sizeofUsbNcmCsFunctionalDescriptor
      all_goals
        simp [hread, hfunctional, hnot, hlength, hncm, hsize, usbCsNcmFunctionalDescrType,
          usbCsEcmFunctionalDescrType]
        rfl
    · by_cases hecm : byteAt bytes (scan.currDescrptorOffset + 2) = usbCsEcmFunctionalDescrType
      · by_cases hsize : byteAt bytes scan.currDescrptorOffset = sizeofUsbEcmCsNetFunctionalDescriptor
        all_goals
          simp [hread, hfunctional, hnot, hlength, hecm, hsize, usbCsNcmFunctionalDescrType,
            usbCsEcmFunctionalDescrType]
          rfl
      · simp [hread, hfunctional, hnot, hlength, hncm, hecm]
        rfl

theorem scanDescriptor_eq :
    scan.scanDescriptor (ofBytes bytes) =
      .ok (if BadDescriptor bytes scan.currDescrptorOffset then none else some (scan.noted bytes)) := by
  have htype := readByte_of_looksAt h 1 (looksAt_ge bytes _)
  unfold scanDescriptor
  rw [htype, ok_bind]
  split
  · next hinterface => exact scanInterface_eq h hinterface
  · next hinterface =>
    split
    · next hfunctional => exact scanFunctional_eq h hfunctional
    · next hfunctional =>
      simp [BadDescriptor, noted, IsControl, IsData, IsNcm, IsEcm, IsInterface, IsFunctional,
        hinterface, hfunctional]
      rfl

end Pass

section Outside

variable (h : ¬ scan.currDescrptorOffset + looksAt bytes scan.currDescrptorOffset ≤ bytes.length)

include h

section Header

variable (htype : scan.currDescrptorOffset + 1 < bytes.length)

include htype

theorem scanInterface_outside (hinterface : IsInterface bytes scan.currDescrptorOffset) :
    scan.scanInterface (ofBytes bytes) = .error .access := by
  unfold looksAt at h
  rw [if_pos hinterface] at h
  unfold scanInterface
  simp only [readByte_ofBytes (show scan.currDescrptorOffset < bytes.length by omega), ok_bind]
  split at h
  · omega
  · next hlength =>
    rw [if_neg hlength]
    by_cases hclass : scan.currDescrptorOffset + 5 < bytes.length
    · rw [readByte_ofBytes hclass, ok_bind]
      split at h
      · next hcomm =>
        rw [if_pos hcomm, readByte_outside (by omega)]
        rfl
      · next hcomm =>
        rw [if_neg hcomm]
        split at h
        · next hdata =>
          rw [if_pos hdata, readByte_outside (by omega)]
          rfl
        · omega
    · rw [readByte_outside hclass]
      rfl

theorem scanFunctional_outside (hinterface : ¬ IsInterface bytes scan.currDescrptorOffset)
    (hfunctional : IsFunctional bytes scan.currDescrptorOffset) :
    scan.scanFunctional (ofBytes bytes) = .error .access := by
  unfold looksAt at h
  rw [if_neg hinterface, if_pos hfunctional] at h
  unfold scanFunctional
  simp only [readByte_ofBytes (show scan.currDescrptorOffset < bytes.length by omega), ok_bind]
  split at h
  · omega
  · next hlength =>
    rw [if_neg hlength, readByte_outside (by omega)]
    rfl

end Header

theorem scanDescriptor_outside : scan.scanDescriptor (ofBytes bytes) = .error .access := by
  unfold scanDescriptor
  by_cases htype : scan.currDescrptorOffset + 1 < bytes.length
  · rw [readByte_ofBytes htype, ok_bind]
    split
    · next hinterface => exact scanInterface_outside h htype hinterface
    · next hinterface =>
      split
      · next hfunctional => exact scanFunctional_outside h htype hinterface hfunctional
      · next hfunctional =>
        unfold looksAt at h
        rw [if_neg (show ¬ IsInterface bytes _ from hinterface),
          if_neg (show ¬ IsFunctional bytes _ from hfunctional)] at h
        omega
  · rw [readByte_outside htype]
    rfl

end Outside

/-- The scan at the descriptor that comes next. -/
def next (bytes : List UInt8) (scan : DescriptorScan) : DescriptorScan :=
  { scan.noted bytes with
    currDescrptorOffset :=
      scan.currDescrptorOffset + (byteAt bytes scan.currDescrptorOffset).toNat }

theorem noted_offset (bytes : List UInt8) (scan : DescriptorScan) :
    (scan.noted bytes).currDescrptorOffset = scan.currDescrptorOffset := by
  unfold noted
  dsimp only
  split_ifs <;> rfl

theorem scanBody_short (h : ¬ 4 ≤ bytes.length) : ∃ e, scan.scanBody (ofBytes bytes) = .error e := by
  unfold scanBody
  cases hread : readLe (ofBytes bytes) 2 2 with
  | error e => exact ⟨e, rfl⟩
  | ok v =>
    have hlast := isSome_of_readLe hread 3 (by omega) (by omega)
    exact absurd (lt_of_ofBytes_isSome hlast) (by omega)

section Body

variable (h4 : 4 ≤ bytes.length)

include h4

theorem scanBody_done (h : ¬ scan.currDescrptorOffset < totalLength bytes) :
    scan.scanBody (ofBytes bytes) = .ok (.leave (.success, scan)) := by
  unfold scanBody
  rw [readLe_totalLength h4, ok_bind, if_neg h]
  rfl

variable (hlt : scan.currDescrptorOffset < totalLength bytes)

include hlt

theorem scanBody_outside
    (h : ¬ scan.currDescrptorOffset + looksAt bytes scan.currDescrptorOffset ≤ bytes.length) :
    scan.scanBody (ofBytes bytes) = .error .access := by
  unfold scanBody
  rw [readLe_totalLength h4, ok_bind, if_pos hlt, scanDescriptor_outside h]
  rfl

variable (h : scan.currDescrptorOffset + looksAt bytes scan.currDescrptorOffset ≤ bytes.length)

include h

theorem scanBody_bad (hbad : BadDescriptor bytes scan.currDescrptorOffset) :
    scan.scanBody (ofBytes bytes) = .ok (.leave (.deviceHardwareError, scan)) := by
  unfold scanBody
  rw [readLe_totalLength h4, ok_bind, if_pos hlt, scanDescriptor_eq h, if_pos hbad]
  rfl

theorem scanBody_next (hgood : ¬ BadDescriptor bytes scan.currDescrptorOffset) :
    scan.scanBody (ofBytes bytes) = .ok (.again (scan.next bytes)) := by
  have hlength := readByte_of_looksAt h 0 (by have := looksAt_ge bytes scan.currDescrptorOffset; omega)
  rw [Nat.add_zero] at hlength
  unfold scanBody next
  rw [readLe_totalLength h4, ok_bind, if_pos hlt, scanDescriptor_eq h, if_neg hgood]
  simp only [ok_bind, noted_offset, hlength]
  rfl

end Body

/-- A pass finds the end, refuses the descriptor, or goes on to the next one. -/
theorem scanBody_cases {pass : Pass DescriptorScan (NtStatus × DescriptorScan)}
    (h4 : 4 ≤ bytes.length) (hbody : scan.scanBody (ofBytes bytes) = .ok pass) :
    (¬ scan.currDescrptorOffset < totalLength bytes ∧ pass = .leave (.success, scan)) ∨
      (scan.currDescrptorOffset < totalLength bytes ∧
        scan.currDescrptorOffset + looksAt bytes scan.currDescrptorOffset ≤ bytes.length ∧
        ((BadDescriptor bytes scan.currDescrptorOffset ∧
            pass = .leave (.deviceHardwareError, scan)) ∨
          (¬ BadDescriptor bytes scan.currDescrptorOffset ∧ pass = .again (scan.next bytes)))) := by
  by_cases hlt : scan.currDescrptorOffset < totalLength bytes
  · refine Or.inr ⟨hlt, ?_⟩
    by_cases h : scan.currDescrptorOffset + looksAt bytes scan.currDescrptorOffset ≤ bytes.length
    · refine ⟨h, ?_⟩
      by_cases hbad : BadDescriptor bytes scan.currDescrptorOffset
      · rw [scanBody_bad h4 hlt h hbad] at hbody
        exact Or.inl ⟨hbad, (Except.ok.inj hbody).symm⟩
      · rw [scanBody_next h4 hlt h hbad] at hbody
        exact Or.inr ⟨hbad, (Except.ok.inj hbody).symm⟩
    · rw [scanBody_outside h4 hlt h] at hbody
      cases hbody
  · rw [scanBody_done h4 hlt] at hbody
    exact Or.inl ⟨hlt, (Except.ok.inj hbody).symm⟩

end DescriptorScan

/-! ## The chain of descriptors -/

/-- The offsets that the lengths of the descriptors lead to from `o`, up to one that is refused. -/
inductive Chained (bytes : List UInt8) (o : Nat) : Nat → Prop
  | start : Chained bytes o o
  | next {o' : Nat} : Chained bytes o o' → o' < totalLength bytes → ¬ BadDescriptor bytes o' →
    Chained bytes o (o' + (byteAt bytes o').toNat)

/-- The bytes that the scan looks at are there, and the length leads on. -/
def Walkable (bytes : List UInt8) (o : Nat) : Prop :=
  o + looksAt bytes o ≤ bytes.length ∧ (byteAt bytes o ≠ 0 ∨ BadDescriptor bytes o)

/-- The scan can go through the buffer. -/
structure WalkableSet (bytes : List UInt8) : Prop where
  header : 4 ≤ bytes.length
  walkable : ∀ o, Chained bytes 0 o → o < totalLength bytes → Walkable bytes o

section Chain

variable {bytes : List UInt8} {o o' : Nat}

theorem Chained.of_next (h : Chained bytes (o + (byteAt bytes o).toNat) o')
    (hlt : o < totalLength bytes) (hgood : ¬ BadDescriptor bytes o) : Chained bytes o o' := by
  induction h with
  | start => exact .next .start hlt hgood
  | next _ hlt' hgood' ih => exact .next ih hlt' hgood'

theorem Chained.first (h : Chained bytes o o') :
    o' = o ∨ (o < totalLength bytes ∧ ¬ BadDescriptor bytes o ∧
      Chained bytes (o + (byteAt bytes o).toNat) o') := by
  induction h with
  | start => exact Or.inl rfl
  | next hchain hlt hgood ih =>
    rcases ih with rfl | ⟨hlt', hgood', hrest⟩
    · exact Or.inr ⟨hlt, hgood, .start⟩
    · exact Or.inr ⟨hlt', hgood', .next hrest hlt hgood⟩

end Chain

namespace DescriptorScan

variable {bytes : List UInt8} {scan : DescriptorScan} {r : NtStatus × DescriptorScan}

/-- A scan that returns has gone through all of the chain. A length of 0 would have led it back to
where it is. -/
theorem walkable_of_returns (h4 : 4 ≤ bytes.length) (h : Returns (scanBody (ofBytes bytes)) scan r) :
    ∀ o, Chained bytes scan.currDescrptorOffset o → o < totalLength bytes → Walkable bytes o := by
  induction h with
  | @leave scan r hbody =>
    intro o hchain hlt
    rcases scanBody_cases h4 hbody with ⟨hdone, -⟩ | ⟨hlt0, hinside, ⟨hbad, -⟩ | ⟨-, hagain⟩⟩
    · obtain rfl | ⟨hlt0, -, -⟩ := hchain.first
      · exact absurd hlt hdone
      · exact absurd hlt0 hdone
    · obtain rfl | ⟨-, hgood, -⟩ := hchain.first
      · exact ⟨hinside, Or.inr hbad⟩
      · exact absurd hbad hgood
    · cases hagain
  | @again scan scan' r hbody _ ih =>
    intro o hchain hlt
    rcases scanBody_cases h4 hbody with ⟨-, hleave⟩ | ⟨hlt0, hinside, ⟨-, hleave⟩ | ⟨hgood, hagain⟩⟩
    · cases hleave
    · cases hleave
    · cases hagain
      obtain rfl | ⟨-, -, hrest⟩ := hchain.first
      · refine ⟨hinside, Or.inl fun hzero => ?_⟩
        have hsame : (scan.next bytes).currDescrptorOffset = scan.currDescrptorOffset := by
          unfold next
          rw [hzero]
          rfl
        rw [hsame] at ih
        rcases (ih _ .start hlt).2 with hnonzero | hbad
        · exact hnonzero hzero
        · exact hgood hbad
      · exact ih o hrest hlt

theorem returns_of_walkable (h4 : 4 ≤ bytes.length) (h : ∀ o,
      Chained bytes scan.currDescrptorOffset o → o < totalLength bytes → Walkable bytes o) :
    ∃ r, loop (scanBody (ofBytes bytes)) (totalLength bytes + 1) scan = .ok r := by
  obtain ⟨r, hloop, -⟩ : ∃ r, loop (scanBody (ofBytes bytes)) (totalLength bytes + 1) scan = .ok r ∧
      True := by
    apply loop_total
      (fun scan : DescriptorScan => ∀ o, Chained bytes scan.currDescrptorOffset o →
        o < totalLength bytes → Walkable bytes o)
      (fun scan => totalLength bytes - scan.currDescrptorOffset) (fun _ => True) _ h
      (Nat.lt_succ_of_le (Nat.sub_le _ _))
    intro scan hscan
    by_cases hlt : scan.currDescrptorOffset < totalLength bytes
    · obtain ⟨hinside, hleads⟩ := hscan _ .start hlt
      by_cases hbad : BadDescriptor bytes scan.currDescrptorOffset
      · exact Or.inl ⟨_, scanBody_bad h4 hlt hinside hbad, trivial⟩
      · refine Or.inr ⟨_, scanBody_next h4 hlt hinside hbad, ?_, ?_⟩
        · exact fun o hchain => hscan o (hchain.of_next hlt hbad)
        · have hnonzero := hleads.resolve_right hbad
          have hpos : 0 < (byteAt bytes scan.currDescrptorOffset).toNat :=
            Nat.pos_of_ne_zero fun hzero => hnonzero (UInt8.toNat_inj.mp hzero)
          change totalLength bytes - (scan.currDescrptorOffset + _) < _
          omega
    · exact Or.inl ⟨_, scanBody_done h4 hlt, trivial⟩
  exact ⟨r, hloop⟩

/-- The scan of a buffer ends, and reads nothing outside, exactly when the buffer has the total
length and every descriptor that the lengths lead to has the bytes that the scan looks at, and a
length that is not zero or a reason to refuse it. -/
theorem scan_returns_iff (bytes : List UInt8) :
    (∃ r, Returns (scanBody (ofBytes bytes)) start r) ↔ WalkableSet bytes := by
  constructor
  · rintro ⟨r, hreturns⟩
    have h4 : 4 ≤ bytes.length := by
      by_contra hshort
      obtain ⟨e, he⟩ := @scanBody_short bytes start hshort
      cases hreturns with
      | leave hbody | again hbody _ =>
        rw [he] at hbody
        cases hbody
    exact ⟨h4, walkable_of_returns h4 hreturns⟩
  · intro hset
    obtain ⟨r, hloop⟩ := @returns_of_walkable bytes start hset.header hset.walkable
    exact ⟨r, returns_of_loop hloop⟩

/-- A configuration descriptor, and behind it a descriptor of length 0. -/
def zeroLength : List UInt8 := [9, 2, 11, 0, 1, 1, 0, 0xC0, 50, 0, 0]

/-- A configuration descriptor, and the first three bytes of an interface descriptor. -/
def truncated : List UInt8 := [9, 2, 12, 0, 1, 1, 0, 0xC0, 50, 9, 4, 0]

/-- The scan stays at the descriptor of length 0 for ever, and looks for the class of the interface
behind the end of the buffer. -/
theorem scan_not_safe :
    (∀ fuel r, loop (scanBody (ofBytes zeroLength)) fuel start ≠ .ok r) ∧
      loop (scanBody (ofBytes truncated)) 2 start = .error .access := by
  refine ⟨fun fuel r hloop => ?_, by decide⟩
  have hwalkable := walkable_of_returns (by decide) (returns_of_loop hloop)
  have hchain : Chained zeroLength 0 9 := .next .start (by decide) (by decide)
  exact absurd (hwalkable 9 hchain (by decide)).2 (by decide)

end DescriptorScan

end UsbNcm.Host
