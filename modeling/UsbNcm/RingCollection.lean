import UsbNcm.Lib.Exec
import UsbNcm.Ring

/-!
# The two rings of a queue (`ncmringiterator.h`)

`NcmPacketIterator::Set` finds the place in the fragment ring from the last packet that was passed.
The rings stay in step as long as that packet is at its place, also when it has no fragments.
-/

open RingIndex Exec

namespace UsbNcm.Ring

variable {p f : Nat} {osQueue : NcmOsQueue p f} {pi : NcmPacketIterator p f}
  {packets : List (NetPacket f)} {i : BitVec f}

def NetPacket.fragmentIndices (packet : NetPacket f) : List (BitVec f) :=
  indicesFrom packet.fragmentIndex packet.fragmentCount.toNat

def fragmentTotal (packets : List (NetPacket f)) : Nat :=
  packets.foldr (fun packet total => packet.fragmentCount.toNat + total) 0

namespace NcmOsQueue

/-- The packets that the driver owns. -/
def ownedPackets (osQueue : NcmOsQueue p f) : List (NetPacket f) :=
  (range osQueue.packetRing.beginIndex osQueue.packetRing.endIndex).map osQueue.packetRing.elements

/-- The fragments of the packets are the first ones that the driver owns, one after the other. -/
def Consistent (osQueue : NcmOsQueue p f) : Prop :=
  osQueue.ownedPackets.flatMap NetPacket.fragmentIndices <+:
    range osQueue.fragmentRing.beginIndex osQueue.fragmentRing.endIndex

instance (osQueue : NcmOsQueue p f) : Decidable osQueue.Consistent :=
  inferInstanceAs (Decidable (_ <+: _))

/-- A packet without fragments starts where the fragments before it end. -/
def EmptyInPlace (osQueue : NcmOsQueue p f) : Prop :=
  ∀ before packet after, osQueue.ownedPackets = before ++ packet :: after → packet.fragmentCount = 0 →
    packet.fragmentIndex = slot osQueue.fragmentRing.beginIndex (fragmentTotal before)

end NcmOsQueue

/-- The iterators over a queue: `Advance` while there is a packet, `Set`, and a new iterator for
what is left. -/
inductive Walk (osQueue : NcmOsQueue p f) : NcmPacketIterator p f → Prop
  | start : Walk osQueue (ncmGetAllPackets osQueue)
  | advance {pi : NcmPacketIterator p f} : Walk osQueue pi → pi.hasAny = true → Walk osQueue pi.advance
  | set {pi : NcmPacketIterator p f} : Walk osQueue pi → Walk osQueue pi.set
  | restart {pi : NcmPacketIterator p f} : Walk osQueue pi → Walk osQueue (ncmGetAllPackets pi.osQueue)

/-- Marks the first packet, and gives it back. -/
def NcmOsQueue.returnFirst (osQueue : NcmOsQueue p f) : NcmOsQueue p f :=
  let packetRing := osQueue.packetRing
  let packet := packetRing.elements packetRing.beginIndex
  let marked := packetRing.set packetRing.beginIndex { packet with ignore := true }
  { osQueue with packetRing :=
    { marked with beginIndex := NetRing.incrementIndex packetRing.beginIndex } }

def NcmOsQueue.returnFragments (osQueue : NcmOsQueue p f) : NcmOsQueue p f :=
  { osQueue with fragmentRing :=
    { osQueue.fragmentRing with beginIndex := osQueue.fragmentRing.endIndex } }

/-- One pass of `NcmReturnAllPacketsAndFragments`. -/
def returnPass (osQueue : NcmOsQueue p f) :
    Except Stop (Pass (NcmOsQueue p f) (NcmOsQueue p f)) :=
  if osQueue.packetRing.beginIndex ≠ osQueue.packetRing.endIndex then
    .ok (.again osQueue.returnFirst)
  else .ok (.leave osQueue.returnFragments)

def ncmReturnAllPacketsAndFragments (fuel : Nat) (osQueue : NcmOsQueue p f) :
    Except Stop (NcmOsQueue p f) :=
  loop returnPass fuel osQueue

/-! ## Packets one after the other -/

/-- The first packet's fragments start at `i`, and those of each next one where the last ones end. -/
def Follow (i : BitVec f) : List (NetPacket f) → Prop
  | [] => True
  | packet :: packets =>
    packet.fragmentIndex = i ∧ Follow (slot i packet.fragmentCount.toNat) packets

@[simp]
theorem fragmentTotal_nil : fragmentTotal ([] : List (NetPacket f)) = 0 := rfl

@[simp]
theorem fragmentTotal_cons (packet : NetPacket f) (packets : List (NetPacket f)) :
    fragmentTotal (packet :: packets) = packet.fragmentCount.toNat + fragmentTotal packets := rfl

@[simp]
theorem fragmentTotal_append (before after : List (NetPacket f)) :
    fragmentTotal (before ++ after) = fragmentTotal before + fragmentTotal after := by
  induction before with
  | nil => simp
  | cons packet before ih => simp [ih, Nat.add_assoc]

theorem flatMap_fragmentIndices_length (packets : List (NetPacket f)) :
    (packets.flatMap NetPacket.fragmentIndices).length = fragmentTotal packets := by
  induction packets with
  | nil => rfl
  | cons packet packets ih => simp [NetPacket.fragmentIndices, ih]

theorem Follow.flatMap_eq (h : Follow i packets) :
    packets.flatMap NetPacket.fragmentIndices = indicesFrom i (fragmentTotal packets) := by
  induction packets generalizing i with
  | nil => rfl
  | cons packet packets ih =>
    obtain ⟨hindex, hrest⟩ := h
    rw [List.flatMap_cons, ih hrest, fragmentTotal_cons, indicesFrom_add, NetPacket.fragmentIndices,
      hindex]

theorem follow_append (before after : List (NetPacket f)) :
    Follow i (before ++ after) ↔ Follow i before ∧ Follow (slot i (fragmentTotal before)) after := by
  induction before generalizing i with
  | nil => simp [Follow, slot_zero]
  | cons packet before ih =>
    rw [List.cons_append, Follow, ih, slot_slot, fragmentTotal_cons, Follow, and_assoc]

/-- A packet with fragments is at its place because they are. -/
theorem follow_of_flatMap (hflat : packets.flatMap NetPacket.fragmentIndices =
      indicesFrom i (fragmentTotal packets))
    (hempty : ∀ before packet after, packets = before ++ packet :: after →
      packet.fragmentCount = 0 → packet.fragmentIndex = slot i (fragmentTotal before)) :
    Follow i packets := by
  induction packets generalizing i with
  | nil => trivial
  | cons packet packets ih =>
    rw [List.flatMap_cons, fragmentTotal_cons, indicesFrom_add] at hflat
    obtain ⟨hfirst, hrest⟩ := List.append_inj hflat (by simp [NetPacket.fragmentIndices])
    constructor
    · by_cases hzero : packet.fragmentCount = 0
      · rw [hempty [] packet packets rfl hzero, fragmentTotal_nil, slot_zero]
      · obtain ⟨n, hn⟩ : ∃ n, packet.fragmentCount.toNat = n + 1 := by
          have hne : packet.fragmentCount.toNat ≠ 0 := fun h => hzero (UInt16.toNat_inj.mp h)
          exact ⟨_, (Nat.succ_pred hne).symm⟩
        rw [NetPacket.fragmentIndices, hn] at hfirst
        exact (List.cons.inj hfirst).1
    · apply ih hrest
      intro before packet' after heq hzero
      rw [hempty (packet :: before) packet' after (by rw [heq]; rfl) hzero, slot_slot,
        fragmentTotal_cons]

/-! ## A queue in step -/

structure InStep (osQueue : NcmOsQueue p f) : Prop where
  follow : Follow osQueue.fragmentRing.beginIndex osQueue.ownedPackets
  total_le : fragmentTotal osQueue.ownedPackets ≤
    count osQueue.fragmentRing.beginIndex osQueue.fragmentRing.endIndex

theorem inStep_iff : InStep osQueue ↔ osQueue.Consistent ∧ osQueue.EmptyInPlace := by
  unfold NcmOsQueue.Consistent
  constructor
  · intro h
    constructor
    · rw [h.follow.flatMap_eq, range_eq_append h.total_le]
      exact List.prefix_append _ _
    · intro before packet after heq _
      have hfollow := h.follow
      rw [heq, follow_append] at hfollow
      exact hfollow.2.1
  · rintro ⟨⟨rest, hrest⟩, hempty⟩
    have hlength := congrArg List.length hrest
    rw [List.length_append, flatMap_fragmentIndices_length, range_length] at hlength
    have hle : fragmentTotal osQueue.ownedPackets ≤
        count osQueue.fragmentRing.beginIndex osQueue.fragmentRing.endIndex := by omega
    rw [range_eq_append hle] at hrest
    have hflat := (List.append_inj hrest (by
      rw [flatMap_fragmentIndices_length, indicesFrom_length])).1
    exact ⟨follow_of_flatMap hflat hempty, hle⟩

/-- The packets that the iterator has passed since the last `Set`. -/
def NcmPacketIterator.passed (pi : NcmPacketIterator p f) : List (NetPacket f) :=
  (range pi.osQueue.packetRing.beginIndex pi.index).map pi.osQueue.packetRing.elements

/-- The iterator is at the driver's `n`th packet, or behind the last one. -/
structure At (pi : NcmPacketIterator p f) (n : Nat) : Prop where
  index : pi.index = slot pi.osQueue.packetRing.beginIndex n
  le : n ≤ count pi.osQueue.packetRing.beginIndex pi.osQueue.packetRing.endIndex
  last : pi.last = pi.osQueue.packetRing.endIndex

section Iterator

variable {n : Nat} (hat : At pi n)

include hat

theorem At.passed_eq : pi.passed =
    (indicesFrom pi.osQueue.packetRing.beginIndex n).map pi.osQueue.packetRing.elements := by
  have hlt := count_lt pi.osQueue.packetRing.beginIndex pi.osQueue.packetRing.endIndex
  have hle := hat.le
  rw [NcmPacketIterator.passed, hat.index, range, count_slot _ (by omega)]

/-- The packets are those that were passed and those that are ahead. -/
theorem At.ownedPackets_eq : pi.osQueue.ownedPackets = pi.passed ++ pi.set.osQueue.ownedPackets := by
  have hset : pi.set.osQueue.ownedPackets =
      (range pi.index pi.osQueue.packetRing.endIndex).map pi.osQueue.packetRing.elements := rfl
  rw [hset, hat.passed_eq, NcmOsQueue.ownedPackets, range_eq_append hat.le, List.map_append, hat.index]

theorem At.advance (hany : pi.hasAny = true) : At pi.advance (n + 1) := by
  have hne := NcmOsRingIterator.hasAny_iff.mp hany
  have hn : n ≠ count pi.osQueue.packetRing.beginIndex pi.osQueue.packetRing.endIndex := by
    rintro rfl
    rw [hat.index, slot_count, hat.last] at hne
    exact hne rfl
  constructor
  · change pi.index + 1#p = _
    rw [hat.index]
    exact slot_slot _ n 1
  · exact Nat.lt_of_le_of_ne hat.le hn
  · exact hat.last

theorem At.set : At pi.set 0 := ⟨(slot_zero _).symm, Nat.zero_le _, hat.last⟩

/-- `Set` moves the fragment ring past the fragments of the packets that were passed. -/
theorem At.set_beginIndex (h : InStep pi.osQueue) : pi.set.osQueue.fragmentRing.beginIndex =
    slot pi.osQueue.fragmentRing.beginIndex (fragmentTotal pi.passed) := by
  have hlt := count_lt pi.osQueue.packetRing.beginIndex pi.osQueue.packetRing.endIndex
  have hle := hat.le
  have hcount : NetRing.rangeCount pi.osQueue.packetRing.beginIndex pi.index = n := by
    rw [NetRing.rangeCount, hat.index, count_slot _ (by omega)]
  have hfollow := h.follow
  rw [hat.ownedPackets_eq, follow_append] at hfollow
  rw [hat.passed_eq] at hfollow ⊢
  unfold NcmPacketIterator.set
  dsimp only
  rw [hcount]
  cases n with
  | zero =>
    rw [if_neg (Nat.lt_irrefl 0)]
    exact (slot_zero _).symm
  | succ m =>
    -- the last packet that was passed is at its place
    rw [indicesFrom_add, List.map_append, follow_append] at hfollow
    obtain ⟨⟨-, hindex, -⟩, -⟩ := hfollow
    rw [if_pos (Nat.succ_pos m), indicesFrom_add, List.map_append, fragmentTotal_append,
      ← slot_slot, ← hindex]
    rfl

theorem At.set_inStep (h : InStep pi.osQueue) : InStep pi.set.osQueue := by
  have hfollow := h.follow
  have hle := h.total_le
  rw [hat.ownedPackets_eq, follow_append] at hfollow
  rw [hat.ownedPackets_eq, fragmentTotal_append] at hle
  constructor
  · rw [hat.set_beginIndex h]
    exact hfollow.2
  · have hend : pi.set.osQueue.fragmentRing.endIndex = pi.osQueue.fragmentRing.endIndex := by
      unfold NcmPacketIterator.set
      dsimp only
      split <;> rfl
    rw [hat.set_beginIndex h, hend, count_slot_of_le (by omega)]
    omega

end Iterator

/-- Wherever the iterators go, the queue is in step and the iterator inside it. -/
theorem Walk.inStep (h : InStep osQueue) (hwalk : Walk osQueue pi) :
    InStep pi.osQueue ∧ ∃ n, At pi n := by
  induction hwalk with
  | start => exact ⟨h, 0, (slot_zero _).symm, Nat.zero_le _, rfl⟩
  | advance _ hany ih =>
    obtain ⟨hstep, n, hat⟩ := ih
    exact ⟨hstep, n + 1, hat.advance hany⟩
  | set _ ih =>
    obtain ⟨hstep, n, hat⟩ := ih
    exact ⟨hat.set_inStep hstep, 0, hat.set⟩
  | restart _ ih => exact ⟨ih.1, 0, (slot_zero _).symm, Nat.zero_le _, rfl⟩

/-! ## Everything is returned -/

/-- Both rings are empty, and of the packets those that the driver owned are marked. -/
structure Returned (osQueue osQueue' : NcmOsQueue p f) : Prop where
  packetsEmpty : osQueue'.packetRing.beginIndex = osQueue'.packetRing.endIndex
  packetEnd : osQueue'.packetRing.endIndex = osQueue.packetRing.endIndex
  fragmentRing : osQueue'.fragmentRing =
    { osQueue.fragmentRing with beginIndex := osQueue.fragmentRing.endIndex }
  marked : ∀ i ∈ range osQueue.packetRing.beginIndex osQueue.packetRing.endIndex,
    osQueue'.packetRing.elements i = { osQueue.packetRing.elements i with ignore := true }
  others : ∀ i ∉ range osQueue.packetRing.beginIndex osQueue.packetRing.endIndex,
    osQueue'.packetRing.elements i = osQueue.packetRing.elements i

theorem returnFirst_elements_self : osQueue.returnFirst.packetRing.elements
    osQueue.packetRing.beginIndex =
      { osQueue.packetRing.elements osQueue.packetRing.beginIndex with ignore := true } :=
  if_pos rfl

theorem returnFirst_elements {i : BitVec p} (h : i ≠ osQueue.packetRing.beginIndex) :
    osQueue.returnFirst.packetRing.elements i = osQueue.packetRing.elements i :=
  if_neg h

theorem Returned.of_returnFirst {osQueue' : NcmOsQueue p f}
    (hne : osQueue.packetRing.beginIndex ≠ osQueue.packetRing.endIndex)
    (h : Returned osQueue.returnFirst osQueue') : Returned osQueue osQueue' := by
  have hrange : range osQueue.packetRing.beginIndex osQueue.packetRing.endIndex =
      osQueue.packetRing.beginIndex :: range osQueue.returnFirst.packetRing.beginIndex
        osQueue.returnFirst.packetRing.endIndex := range_of_ne hne
  refine ⟨h.packetsEmpty, h.packetEnd, h.fragmentRing, ?_, ?_⟩
  · intro i hi
    rw [hrange] at hi
    by_cases hrest : i ∈ range osQueue.returnFirst.packetRing.beginIndex
        osQueue.returnFirst.packetRing.endIndex
    · rw [h.marked i hrest]
      by_cases hfirst : i = osQueue.packetRing.beginIndex
      · rw [hfirst, returnFirst_elements_self]
      · rw [returnFirst_elements hfirst]
    · rw [h.others i hrest]
      obtain rfl := (List.mem_cons.mp hi).resolve_right hrest
      exact returnFirst_elements_self
  · intro i hi
    rw [hrange, List.mem_cons, not_or] at hi
    rw [h.others i hi.2, returnFirst_elements hi.1]

theorem returnPass_loop {fuel : Nat}
    (hfuel : count osQueue.packetRing.beginIndex osQueue.packetRing.endIndex < fuel) :
    ∃ osQueue', ncmReturnAllPacketsAndFragments fuel osQueue = .ok osQueue' ∧
      Returned osQueue osQueue' := by
  unfold ncmReturnAllPacketsAndFragments
  induction fuel generalizing osQueue with
  | zero => omega
  | succ fuel ih =>
    by_cases hne : osQueue.packetRing.beginIndex = osQueue.packetRing.endIndex
    · have hpass : returnPass osQueue = .ok (.leave osQueue.returnFragments) :=
        if_neg (not_not.mpr hne)
      refine ⟨_, loop_leave hpass fuel, hne, rfl, rfl, ?_, fun _ _ => rfl⟩
      intro i hi
      rw [hne, range, count_self] at hi
      cases hi
    · have hpass : returnPass osQueue = .ok (.again osQueue.returnFirst) := if_pos hne
      rw [loop_again hpass]
      rw [count_succ hne] at hfuel
      obtain ⟨osQueue', hloop, hreturned⟩ :=
        ih (show count osQueue.returnFirst.packetRing.beginIndex
          osQueue.returnFirst.packetRing.endIndex < fuel from Nat.lt_of_succ_lt_succ hfuel)
      exact ⟨osQueue', hloop, hreturned.of_returnFirst hne⟩

/-! ## The result -/

/-- `Set` leaves the rings in step, with the fragment ring at the first packet not yet passed. -/
structure SetsInStep (pi : NcmPacketIterator p f) : Prop where
  consistent : pi.set.osQueue.Consistent
  emptyInPlace : pi.set.osQueue.EmptyInPlace
  behindPassed : pi.set.osQueue.fragmentRing.beginIndex =
    slot pi.osQueue.fragmentRing.beginIndex (fragmentTotal pi.passed)
  atNext : pi.hasAny = true →
    pi.set.osQueue.fragmentRing.beginIndex = pi.getPacket.fragmentIndex
  nothingPassed : pi.index = pi.osQueue.packetRing.beginIndex → pi.set = pi

theorem set_of_nothing_passed (h : pi.index = pi.osQueue.packetRing.beginIndex) : pi.set = pi := by
  have hcount : NetRing.rangeCount pi.osQueue.packetRing.beginIndex pi.index = 0 := by
    rw [h]
    exact count_self _
  unfold NcmPacketIterator.set
  dsimp only
  rw [hcount, if_neg (Nat.lt_irrefl 0), h]

theorem At.setsInStep {n : Nat} (hat : At pi n) (h : InStep pi.osQueue) : SetsInStep pi := by
  obtain ⟨hconsistent, hempty⟩ := inStep_iff.mp (hat.set_inStep h)
  refine ⟨hconsistent, hempty, hat.set_beginIndex h, ?_, ?_⟩
  · intro hany
    have hne : pi.index ≠ pi.osQueue.packetRing.endIndex := by
      rw [← hat.last]
      exact NcmOsRingIterator.hasAny_iff.mp hany
    have hfollow := (hat.set_inStep h).follow
    have howned : pi.set.osQueue.ownedPackets = pi.getPacket ::
        (range (pi.index + 1#p) pi.osQueue.packetRing.endIndex).map
          pi.osQueue.packetRing.elements := by
      have hrange := range_of_ne hne
      exact congrArg (List.map pi.osQueue.packetRing.elements) hrange
    rw [howned] at hfollow
    exact hfollow.1.symm
  · exact set_of_nothing_passed

/-- From a consistent queue whose empty packets are at their places, every `Set` leaves such a queue,
and everything can be returned at any time. -/
theorem walk_inStep (osQueue : NcmOsQueue p f) (hconsistent : osQueue.Consistent)
    (hempty : osQueue.EmptyInPlace) {pi : NcmPacketIterator p f} (hwalk : Walk osQueue pi)
    {fuel : Nat} (hfuel : 2 ^ p ≤ fuel) :
    SetsInStep pi ∧ ∃ osQueue', ncmReturnAllPacketsAndFragments fuel pi.osQueue = .ok osQueue' ∧
      Returned pi.osQueue osQueue' := by
  obtain ⟨hstep, n, hat⟩ := hwalk.inStep (inStep_iff.mpr ⟨hconsistent, hempty⟩)
  have hlt := count_lt pi.osQueue.packetRing.beginIndex pi.osQueue.packetRing.endIndex
  exact ⟨hat.setsInStep hstep, returnPass_loop (by omega)⟩

/-- Three packets that go round the end of their ring, as their fragments do. The second packet has
no fragments. -/
def threePackets (emptyIndex : BitVec 2) : NcmOsQueue 2 2 where
  packetRing :=
    { beginIndex := 3
      endIndex := 2
      elements := fun i =>
        if i = 3 then { fragmentIndex := 2, fragmentCount := 2, ignore := false }
        else if i = 0 then { fragmentIndex := emptyIndex, fragmentCount := 0, ignore := false }
        else { fragmentIndex := 0, fragmentCount := 1, ignore := false } }
  fragmentRing :=
    { beginIndex := 2
      endIndex := 1
      elements := fun _ =>
        { capacity := 64, validLength := 60, offset := 0, virtualAddress := fun _ => 0 } }

theorem walk_inStep_threePackets :
    SetsInStep (ncmGetAllPackets (threePackets 0)).advance.advance := by
  have hstep : InStep (threePackets 0) := ⟨⟨rfl, rfl, rfl, trivial⟩, by decide⟩
  obtain ⟨hconsistent, hempty⟩ := inStep_iff.mp hstep
  exact (walk_inStep (threePackets 0) hconsistent hempty (.advance (.advance .start rfl) rfl)
    (Nat.le_refl (2 ^ 2))).1

/-- A queue without packets. -/
def noPackets : NcmOsQueue 1 2 where
  packetRing :=
    { beginIndex := 0
      endIndex := 0
      elements := fun _ => { fragmentIndex := 0, fragmentCount := 1, ignore := false } }
  fragmentRing := { (threePackets 0).fragmentRing with beginIndex := 0, endIndex := 0 }

/-- When the empty packet is not at the place where the fragments before it end, the fragment ring
begins at 3, a fragment already passed, and not at 0, the fragment of the third packet. And past the
last packet, `Advance` goes on into packets that are not the driver's. -/
theorem not_inStep :
    ((threePackets 3).Consistent ∧
      Walk (threePackets 3) (ncmGetAllPackets (threePackets 3)).advance.advance ∧
      ¬ (ncmGetAllPackets (threePackets 3)).advance.advance.set.osQueue.Consistent) ∧
    noPackets.Consistent ∧ ¬ (ncmGetAllPackets noPackets).advance.set.osQueue.Consistent :=
  ⟨⟨by decide, .advance (.advance .start rfl) rfl, by decide⟩, by decide, by decide⟩

end UsbNcm.Ring
