import Mathlib.Tactic.Common
import Mathlib.Data.List.Basic

/-!
# Transfers over a pipe

A transfer goes over a pipe in packets of at most `m` items, and a packet with fewer ends it. A
reader takes `size` items at most for each read, and does not see where a transfer ends otherwise.
-/

namespace Packets

variable {α : Type}

/-! ## The sender -/

def fullPackets (m : Nat) (xs : List α) (n : Nat) : List (List α) :=
  (List.range n).map fun i => (xs.drop (m * i)).take m

/-- The packets of a transfer. A packet without items is sent only when the sender asks for it. -/
def packets (m : Nat) (zeroLength : Bool) (xs : List α) : List (List α) :=
  fullPackets m xs (xs.length / m) ++
    if xs.length % m = 0 ∧ zeroLength = false then []
    else [xs.drop (m * (xs.length / m))]

/-! ## The reader -/

structure Reader (α : Type) where
  current : List α
  completed : List (List α)

/-- A packet that does not fit into the read stops the reader. -/
def Reader.receive (m size : Nat) (r : Reader α) (packet : List α) : Option (Reader α) :=
  if size < r.current.length + packet.length then none
  else if packet.length < m ∨ r.current.length + packet.length = size then
    some ⟨[], r.completed ++ [r.current ++ packet]⟩
  else some ⟨r.current ++ packet, r.completed⟩

def receiveAll (m size : Nat) (r : Reader α) (ps : List (List α)) : Option (Reader α) :=
  ps.foldlM (Reader.receive m size) r

/-- What a transfer of at most `size` items is read as: a packet without items behind a full read is
a read of its own. -/
def readsOf (size : Nat) (zeroLength : Bool) (xs : List α) : List (List α) :=
  if xs.length = size ∧ zeroLength then [xs, []] else [xs]

/-- The reader knows where the transfer ends. -/
def Delimited (m size : Nat) (zeroLength : Bool) (xs : List α) : Prop :=
  xs.length ≤ size ∧ (xs.length % m = 0 → xs.length = size ∨ zeroLength)

variable {m size : Nat} {zeroLength : Bool} {xs : List α} {done : List (List α)}

theorem receiveAll_append {r r' : Reader α} {ps ps' : List (List α)}
    (h : receiveAll m size r ps = some r') :
    receiveAll m size r (ps ++ ps') = receiveAll m size r' ps' := by
  unfold receiveAll at h ⊢
  rw [List.foldlM_append, h]
  rfl

theorem receive_behind (done : List (List α)) (current packet : List α) :
    Reader.receive m size ⟨current, done⟩ packet =
      (Reader.receive m size ⟨current, []⟩ packet).map fun r => ⟨r.current, done ++ r.completed⟩ := by
  unfold Reader.receive
  split
  · rfl
  · split
    · rfl
    · simp

theorem receiveAll_behind (done : List (List α)) (current : List α) (ps : List (List α)) :
    receiveAll m size ⟨current, done⟩ ps =
      (receiveAll m size ⟨current, []⟩ ps).map fun r => ⟨r.current, done ++ r.completed⟩ := by
  unfold receiveAll
  induction ps generalizing current done with
  | nil => simp
  | cons packet ps ih =>
    rw [List.foldlM_cons, List.foldlM_cons, receive_behind]
    cases Reader.receive m size ⟨current, []⟩ packet with
    | none => rfl
    | some r =>
      obtain ⟨current', done'⟩ := r
      simp only [Option.map_some, Option.bind_eq_bind, Option.bind_some]
      rw [ih (done ++ done'), ih done', Option.map_map]
      congr 1
      funext r
      simp

theorem receiveAll_cons {current packet : List α} {ps reads : List (List α)}
    (h : receiveAll m size ⟨current, []⟩ (packet :: ps) = some ⟨[], reads⟩) :
    ∃ r reads', Reader.receive m size ⟨current, []⟩ packet = some r ∧
      receiveAll m size ⟨r.current, []⟩ ps = some ⟨[], reads'⟩ ∧ r.completed ++ reads' = reads := by
  rw [receiveAll, List.foldlM_cons] at h
  obtain ⟨r, hr, hrest⟩ := Option.bind_eq_some_iff.mp h
  change receiveAll m size ⟨r.current, r.completed⟩ ps = _ at hrest
  rw [receiveAll_behind] at hrest
  obtain ⟨⟨last, reads'⟩, hlast, heq⟩ := Option.map_eq_some_iff.mp hrest
  obtain ⟨rfl, hreads⟩ := Reader.mk.inj heq
  exact ⟨r, reads', hr, hlast, hreads⟩

theorem receive_cases {r : Reader α} {current packet : List α}
    (h : Reader.receive m size ⟨current, []⟩ packet = some r) :
    r.completed = [] ∨ ∃ read, r.completed = [read] ∧ read.length ≤ size := by
  unfold Reader.receive at h
  split at h
  · cases h
  · next hfits =>
    split at h
    · cases h
      refine Or.inr ⟨current ++ packet, rfl, ?_⟩
      rw [List.length_append]
      exact Nat.not_lt.mp hfits
    · cases h
      exact Or.inl rfl

theorem fullPackets_succ (m : Nat) (xs : List α) (n : Nat) :
    fullPackets m xs (n + 1) = fullPackets m xs n ++ [(xs.drop (m * n)).take m] := by
  simp [fullPackets, List.range_succ]

theorem take_append_next (m : Nat) (xs : List α) (n : Nat) :
    xs.take (m * n) ++ (xs.drop (m * n)).take m = xs.take (m * (n + 1)) := by
  rw [Nat.mul_succ, List.take_add]

theorem receiveAll_last {packet : List α} {r : Reader α}
    (hfits : r.current.length + packet.length ≤ size)
    (hends : packet.length < m ∨ r.current.length + packet.length = size) :
    receiveAll m size r [packet] = some ⟨[], r.completed ++ [r.current ++ packet]⟩ := by
  rw [receiveAll, List.foldlM_cons, Reader.receive, if_neg (by omega), if_pos hends]
  rfl

theorem length_taken {n : Nat} (h : m * n ≤ xs.length) : (xs.take (m * n)).length = m * n := by
  rw [List.length_take]
  omega

theorem length_next {n : Nat} (h : m * (n + 1) ≤ xs.length) :
    ((xs.drop (m * n)).take m).length = m := by
  rw [Nat.mul_succ] at h
  rw [List.length_take, List.length_drop]
  omega

/-- As long as the full packets do not fill the read, they are put together. -/
theorem receiveAll_fullPackets {n : Nat} (hlen : m * n ≤ xs.length) (hsize : m * n < size) :
    receiveAll m size ⟨[], done⟩ (fullPackets m xs n) = some ⟨xs.take (m * n), done⟩ := by
  induction n with
  | zero => simp [receiveAll, fullPackets]
  | succ n ih =>
    have hstep : m * (n + 1) = m * n + m := Nat.mul_succ m n
    rw [fullPackets_succ, receiveAll_append (ih (by omega) (by omega)), ← take_append_next]
    have htaken : (xs.take (m * n)).length = m * n := length_taken (by omega)
    have hnext := length_next hlen
    simp only [receiveAll, List.foldlM_cons, List.foldlM_nil, Reader.receive, htaken, hnext]
    rw [if_neg (by omega), if_neg (by omega)]
    rfl

theorem receiveAll_full (hm : 0 < m) (hsize : 0 < size) (hdvd : m ∣ size) (hlen : xs.length = size) :
    receiveAll m size ⟨[], done⟩ (fullPackets m xs (xs.length / m)) = some ⟨[], done ++ [xs]⟩ := by
  obtain ⟨k, rfl⟩ := hdvd
  rw [hlen, Nat.mul_div_cancel_left k hm]
  cases k with
  | zero => omega
  | succ n =>
    have hstep : m * (n + 1) = m * n + m := Nat.mul_succ m n
    have htaken : (xs.take (m * n)).length = m * n := length_taken (by omega)
    have hnext : ((xs.drop (m * n)).take m).length = m := length_next (by omega)
    have hfront : receiveAll m (m * (n + 1)) ⟨[], done⟩ (fullPackets m xs n) =
        some ⟨xs.take (m * n), done⟩ := receiveAll_fullPackets (by omega) (by omega)
    have hall : xs.take (m * (n + 1)) = xs := List.take_of_length_le (Nat.le_of_eq hlen)
    have hlast : (xs.take (m * n)).length + ((xs.drop (m * n)).take m).length = m * (n + 1) := by
      omega
    rw [fullPackets_succ, receiveAll_append hfront,
      receiveAll_last (Nat.le_of_eq hlast) (Or.inr hlast), take_append_next, hall]

/-- The reader gets a delimited transfer whole, and nothing of it is left for the next read. -/
theorem receiveAll_packets (hm : 0 < m) (hsize : 0 < size) (hdvd : m ∣ size)
    (hdelimited : Delimited m size zeroLength xs) :
    receiveAll m size ⟨[], done⟩ (packets m zeroLength xs) =
      some ⟨[], done ++ readsOf size zeroLength xs⟩ := by
  obtain ⟨hle, hends⟩ := hdelimited
  have hdivmod := Nat.div_add_mod xs.length m
  have hmod := Nat.mod_lt xs.length hm
  unfold packets readsOf
  by_cases hfull : xs.length = size
  · have hzero : xs.length % m = 0 := by
      rw [hfull]
      exact Nat.mod_eq_zero_of_dvd hdvd
    rw [receiveAll_append (receiveAll_full hm hsize hdvd hfull)]
    cases zeroLength with
    | false => simp [receiveAll, hzero]
    | true =>
      have hrest : xs.drop (m * (xs.length / m)) = [] := List.drop_eq_nil_of_le (by omega)
      rw [if_neg (by simp), hrest, receiveAll_last (Nat.zero_le _) (Or.inl hm), if_pos ⟨hfull, rfl⟩]
      simp
  · -- the full packets do not fill the read, so the one behind them ends it
    have htaken : (xs.take (m * (xs.length / m))).length = m * (xs.length / m) :=
      length_taken (Nat.mul_div_le xs.length m)
    rw [if_neg (by rw [not_and]; intro hzero; simpa [hfull] using hends hzero), if_neg (by simp [hfull]),
      receiveAll_append (receiveAll_fullPackets (Nat.mul_div_le _ _) (by omega)),
      receiveAll_last (by simp only [htaken, List.length_drop]; omega)
        (Or.inl (by rw [List.length_drop]; omega)), List.take_append_drop]

theorem receiveAll_flatMap (hm : 0 < m) (hsize : 0 < size) (hdvd : m ∣ size) {xss : List (List α)}
    (hdelimited : ∀ xs ∈ xss, Delimited m size zeroLength xs) :
    receiveAll m size ⟨[], done⟩ (xss.flatMap (packets m zeroLength)) =
      some ⟨[], done ++ xss.flatMap (readsOf size zeroLength)⟩ := by
  induction xss generalizing done with
  | nil => simp [receiveAll]
  | cons xs xss ih =>
    obtain ⟨hfirst, hrest⟩ := List.forall_mem_cons.mp hdelimited
    rw [List.flatMap_cons, List.flatMap_cons,
      receiveAll_append (receiveAll_packets hm hsize hdvd hfirst), ih hrest, List.append_assoc]

/-! ## Reads of one packet -/

theorem length_le_of_mem_packets (hm : 0 < m) {packet : List α} (h : packet ∈ packets m zeroLength xs) :
    packet.length ≤ m := by
  have hdivmod := Nat.div_add_mod xs.length m
  have hmod := Nat.mod_lt xs.length hm
  unfold packets at h
  rcases List.mem_append.mp h with hfull | hlast
  · unfold fullPackets at hfull
    obtain ⟨i, -, rfl⟩ := List.mem_map.mp hfull
    rw [List.length_take]
    omega
  · split at hlast
    · cases hlast
    · rw [List.mem_singleton.mp hlast, List.length_drop]
      omega

theorem take_mem_packets (hm : 0 < m) (h : m ≤ xs.length) : xs.take m ∈ packets m zeroLength xs := by
  unfold packets fullPackets
  refine List.mem_append_left _ (List.mem_map.mpr ⟨0, ?_, rfl⟩)
  exact List.mem_range.mpr (Nat.div_pos h hm)

/-- Where a read takes no more than a packet, each packet is a read. -/
theorem receiveAll_single {ps : List (List α)} (hps : ∀ packet ∈ ps, packet.length ≤ m) :
    receiveAll m m ⟨[], done⟩ ps = some ⟨[], done ++ ps⟩ := by
  induction ps generalizing done with
  | nil => simp [receiveAll]
  | cons packet ps ih =>
    obtain ⟨hfirst, hrest⟩ := List.forall_mem_cons.mp hps
    have hone : receiveAll m m ⟨[], done⟩ [packet] = some ⟨[], done ++ [packet]⟩ :=
      receiveAll_last (by rw [List.length_nil]; omega) (by rw [List.length_nil]; omega)
    rw [← List.singleton_append, receiveAll_append hone, ih hrest, List.append_assoc]

/-! ## One read for each transfer -/

theorem length_flatMap_readsOf (size : Nat) (xss : List (List α)) :
    (xss.flatMap (readsOf size true)).length = xss.length + xss.countP (·.length = size) := by
  induction xss with
  | nil => rfl
  | cons xs xss ih =>
    rw [List.flatMap_cons, List.length_append, ih, List.countP_cons, List.length_cons]
    unfold readsOf
    by_cases h : xs.length = size <;> simp [h] <;> omega

theorem filter_flatMap_readsOf {xss : List (List α)} (hne : ∀ xs ∈ xss, xs ≠ []) :
    (xss.flatMap (readsOf size zeroLength)).filter (fun xs => !xs.isEmpty) = xss := by
  induction xss with
  | nil => rfl
  | cons xs xss ih =>
    obtain ⟨hfirst, hrest⟩ := List.forall_mem_cons.mp hne
    have hkept : (!xs.isEmpty) = true := by simpa using hfirst
    rw [List.flatMap_cons, List.filter_append, ih hrest]
    unfold readsOf
    split <;> simp [hkept]

/-- Each transfer is one read, exactly when no packet without items follows a full read. -/
theorem flatMap_readsOf_iff {xss : List (List α)} :
    xss.flatMap (readsOf size zeroLength) = xss ↔
      zeroLength = false ∨ ∀ xs ∈ xss, xs.length ≠ size := by
  cases zeroLength with
  | false =>
    have hone : readsOf (α := α) size false = fun xs => [xs] := by
      funext xs
      simp [readsOf]
    simp [hone]
  | true =>
    simp only [Bool.true_eq_false, false_or]
    constructor
    · intro hsame xs hmem hlen
      have hcount := length_flatMap_readsOf size xss
      have hpos : 0 < xss.countP (·.length = size) :=
        List.countP_pos_iff.mpr ⟨xs, hmem, decide_eq_true hlen⟩
      rw [hsame] at hcount
      omega
    · intro hnone
      induction xss with
      | nil => rfl
      | cons xs xss ih =>
        obtain ⟨hfirst, hrest⟩ := List.forall_mem_cons.mp hnone
        rw [List.flatMap_cons, ih hrest]
        simp [readsOf, hfirst]

end Packets
