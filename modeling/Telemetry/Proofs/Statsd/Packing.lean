import Mathlib.Algebra.GroupWithZero.Nat
import Mathlib.Order.Nat
import Telemetry.Statsd.Backend

/-!
# Packets are full and as few as possible

Lines are packed greedily. This file shows that nothing is lost on the way, that a packet exceeds
the limit only for a single line that does, and that greed pays: no other way of cutting the lines
into packets needs fewer of them.

## Main definitions

- `Fits` — a group of lines that may travel as one packet

## Main statements

- `length_packInto_le` — no cutting of the lines into groups that fit has fewer groups
- `encode_pack` — all of this about the payloads of the StatsD backend
-/

namespace Telemetry.Statsd

/-- Lines that may travel together: at most one, or few enough bytes. -/
def Fits (limit : Nat) (group : List String) : Prop :=
  group.length ≤ 1 ∨ packetLength group ≤ limit

/-! ## Lengths of packets -/

theorem packetLength_cons_cons (line next : String) (more : List String) :
    packetLength (line :: next :: more) =
      line.utf8ByteSize + 1 + packetLength (next :: more) :=
  rfl

/-- Every line counts with a newline behind it, of which the last one is not written. -/
theorem packetLength_eq_sum (lines : List String) :
    packetLength lines = (lines.map fun line => line.utf8ByteSize + 1).sum - 1 := by
  induction lines with
  | nil => rfl
  | cons line rest ih =>
    cases rest with
    | nil => simp [packetLength]
    | cons next more =>
      rw [packetLength_cons_cons, ih]
      simp only [List.map_cons, List.sum_cons]
      omega

theorem packetLength_concat {packet : List String} (h : packet ≠ []) (line : String) :
    packetLength (packet ++ [line]) = packetLength packet + (line.utf8ByteSize + 1) := by
  obtain ⟨first, rest, rfl⟩ := List.exists_cons_of_ne_nil h
  simp only [packetLength_eq_sum, List.cons_append, List.map_cons, List.map_append, List.map_nil,
    List.sum_cons, List.sum_append, List.sum_nil]
  omega

theorem packetLength_le_append_left (front back : List String) :
    packetLength front ≤ packetLength (front ++ back) := by
  simp only [packetLength_eq_sum, List.map_append, List.sum_append]
  omega

theorem packetLength_le_append_right (front back : List String) :
    packetLength back ≤ packetLength (front ++ back) := by
  simp only [packetLength_eq_sum, List.map_append, List.sum_append]
  omega

theorem utf8ByteSize_packetBody (lines : List String) :
    (packetBody lines).utf8ByteSize = packetLength lines := by
  unfold packetBody
  induction lines with
  | nil => rfl
  | cons line rest ih =>
    cases rest with
    | nil => simp [packetLength, String.intercalate_singleton]
    | cons next more =>
      have hnewline : "\n".utf8ByteSize = 1 := by decide
      rw [String.intercalate_cons_cons, String.utf8ByteSize_append, String.utf8ByteSize_append, ih,
        hnewline, packetLength_cons_cons]

theorem Fits.of_append {limit : Nat} {front back : List String} (h : Fits limit (front ++ back)) :
    Fits limit back := by
  rcases h with h | h
  · rw [List.length_append] at h
    exact .inl (by omega)
  · exact .inr (le_trans (packetLength_le_append_right front back) h)

/-- Once a line has no room behind others, nothing that starts with these and the line fits. -/
theorem not_fits_of_overflow {limit : Nat} {packet : List String} {line : String}
    (hne : packet ≠ []) (hover : limit < packetLength packet + (line.utf8ByteSize + 1))
    (more : List String) : ¬ Fits limit (packet ++ line :: more) := by
  have hpos : 0 < packet.length := List.length_pos_iff.2 hne
  have hlong := packetLength_le_append_left (packet ++ [line]) more
  rw [packetLength_concat hne, List.append_assoc, List.singleton_append] at hlong
  rintro (h | h)
  · rw [List.length_append, List.length_cons] at h
    omega
  · omega

/-! ## What the packets hold -/

/-- No line is lost, doubled or moved. -/
theorem flatten_packInto (limit : Nat) (packet lines : List String) :
    (packInto limit packet lines).flatten = packet ++ lines := by
  fun_induction packInto limit packet lines with
  | case1 packet hempty => simp [List.isEmpty_iff.1 hempty]
  | case2 packet hempty => simp
  | case3 packet line rest hempty ih => simpa [List.isEmpty_iff.1 hempty] using ih
  | case4 packet line rest hempty hover ih => rw [List.flatten_cons, ih, List.singleton_append]
  | case5 packet line rest hempty hroom ih => rw [ih, List.append_assoc, List.singleton_append]

theorem ne_nil_of_mem_packInto {limit : Nat} {packet lines group : List String}
    (h : group ∈ packInto limit packet lines) : group ≠ [] := by
  fun_induction packInto limit packet lines with
  | case1 => simp at h
  | case2 packet hempty =>
    rw [List.mem_singleton] at h
    simpa [h] using hempty
  | case3 packet line rest hempty ih => exact ih h
  | case4 packet line rest hempty hover ih =>
    rcases List.mem_cons.1 h with rfl | h
    · simpa using hempty
    · exact ih h
  | case5 packet line rest hempty hroom ih => exact ih h

/-- Every packet fits if the open one does. -/
theorem fits_of_mem_packInto {limit : Nat} {packet lines group : List String}
    (hpacket : Fits limit packet) (h : group ∈ packInto limit packet lines) : Fits limit group := by
  fun_induction packInto limit packet lines with
  | case1 => simp at h
  | case2 packet hempty =>
    rw [List.mem_singleton] at h
    exact h ▸ hpacket
  | case3 packet line rest hempty ih => exact ih (.inl le_rfl) h
  | case4 packet line rest hempty hover ih =>
    rcases List.mem_cons.1 h with rfl | h
    · exact hpacket
    · exact ih (.inl le_rfl) h
  | case5 packet line rest hempty hroom ih =>
    refine ih (.inr ?_) h
    rw [packetLength_concat (by simpa using hempty)]
    omega

/-! ## No cutting does better -/

/-- Dropping lines at the front of a cutting leaves a cutting of the others that is no longer. -/
theorem exists_cut_of_append {limit : Nat} {front back : List String} {cut : List (List String)}
    (hflat : cut.flatten = front ++ back) (hfit : ∀ g ∈ cut, Fits limit g) :
    ∃ cut' : List (List String), cut'.flatten = back ∧ (∀ g ∈ cut', Fits limit g) ∧
      cut'.length ≤ cut.length := by
  induction cut generalizing front with
  | nil =>
    obtain ⟨rfl, rfl⟩ := List.append_eq_nil_iff.1 hflat.symm
    exact ⟨[], rfl, by simp, le_rfl⟩
  | cons group cut ih =>
    have hrest : ∀ g ∈ cut, Fits limit g := fun g hg => hfit g (List.mem_cons_of_mem _ hg)
    rcases List.append_eq_append_iff.1 hflat with ⟨front', rfl, hcut⟩ | ⟨group', rfl, rfl⟩
    · obtain ⟨cut', hflat', hfit', hlen⟩ := ih hcut hrest
      exact ⟨cut', hflat', hfit', le_trans hlen (Nat.le_succ _)⟩
    · refine ⟨group' :: cut, rfl, fun g hg => ?_, le_rfl⟩
      rcases List.mem_cons.1 hg with rfl | hg
      · exact (hfit _ List.mem_cons_self).of_append
      · exact hrest g hg

/-- If a line has no room behind the lines before it, a cutting spends a group on those alone. -/
theorem exists_shorter_cut {limit : Nat} {packet rest : List String} {line : String}
    {cut : List (List String)} (hne : packet ≠ [])
    (hover : limit < packetLength packet + (line.utf8ByteSize + 1))
    (hflat : cut.flatten = packet ++ line :: rest) (hfit : ∀ g ∈ cut, Fits limit g) :
    ∃ cut' : List (List String), cut'.flatten = line :: rest ∧ (∀ g ∈ cut', Fits limit g) ∧
      cut'.length + 1 ≤ cut.length := by
  cases cut with
  | nil => simp at hflat
  | cons group cut =>
    have hrest : ∀ g ∈ cut, Fits limit g := fun g hg => hfit g (List.mem_cons_of_mem _ hg)
    rcases List.append_eq_append_iff.1 hflat with ⟨front, rfl, hcut⟩ | ⟨group', rfl, hcut⟩
    · obtain ⟨cut', hflat', hfit', hlen⟩ := exists_cut_of_append hcut hrest
      exact ⟨cut', hflat', hfit', Nat.succ_le_succ hlen⟩
    · cases group' with
      | nil => exact ⟨cut, hcut.symm, hrest, le_rfl⟩
      | cons l more =>
        -- The first group would reach beyond the packet, and then it would not fit.
        obtain ⟨rfl, -⟩ := List.cons.inj hcut
        exact absurd (hfit _ List.mem_cons_self) (not_fits_of_overflow hne hover more)

/-- Greedy packing takes no more packets than any cutting whose groups fit. -/
theorem length_packInto_le {limit : Nat} {packet lines : List String} {cut : List (List String)}
    (hflat : cut.flatten = packet ++ lines) (hfit : ∀ g ∈ cut, Fits limit g) :
    (packInto limit packet lines).length ≤ cut.length := by
  fun_induction packInto limit packet lines generalizing cut with
  | case1 => exact Nat.zero_le _
  | case2 packet hempty =>
    cases cut with
    | nil => simp_all
    | cons group cut => simp
  | case3 packet line rest hempty ih =>
    rw [List.isEmpty_iff.1 hempty, List.nil_append] at hflat
    exact ih hflat hfit
  | case4 packet line rest hempty hover ih =>
    obtain ⟨cut', hflat', hfit', hlen⟩ :=
      exists_shorter_cut (by simpa using hempty) hover hflat hfit
    exact le_trans (Nat.succ_le_succ (ih hflat' hfit')) hlen
  | case5 packet line rest hempty hroom ih =>
    exact ih (by rw [hflat, List.append_assoc, List.singleton_append]) hfit

/-! ## The payloads of the backend -/

/-- The payloads of a list of lines are packets of all of them, in order and none empty; only a
line that is too long by itself makes a body too long, and no other packets would be fewer. -/
theorem encode_pack (config : Config) (lines : List String) :
    let packets := pack config.maxPacketLength lines
    ((backend config).encode lines).result = .ok (packets.map (payload config)) ∧
      packets.flatten = lines ∧
      (∀ packet ∈ packets, packet ≠ [] ∧
        (payload config packet).body = "\n".intercalate packet ∧
        (payload config packet).records = packet.length ∧
        (config.maxPacketLength < (payload config packet).body.utf8ByteSize →
          ∃ line, packet = [line] ∧ config.maxPacketLength < line.utf8ByteSize)) ∧
      ∀ cut : List (List String), cut.flatten = lines →
        (∀ group ∈ cut, (∃ line, group = [line]) ∨
          ("\n".intercalate group).utf8ByteSize ≤ config.maxPacketLength) →
        packets.length ≤ cut.length := by
  intro packets
  refine ⟨rfl, flatten_packInto _ [] lines, fun packet hpacket => ?_, fun cut hflat hcut => ?_⟩
  · have hne : packet ≠ [] := ne_nil_of_mem_packInto hpacket
    refine ⟨hne, rfl, rfl, fun hlong => ?_⟩
    change config.maxPacketLength < (packetBody packet).utf8ByteSize at hlong
    have hempty : Fits config.maxPacketLength [] := .inl (Nat.zero_le 1)
    rcases fits_of_mem_packInto hempty hpacket with hone | hshort
    · obtain ⟨line, rfl⟩ : ∃ line, packet = [line] :=
        List.length_eq_one_iff.1 (le_antisymm hone (List.length_pos_iff.2 hne))
      rw [utf8ByteSize_packetBody] at hlong
      exact ⟨line, rfl, hlong⟩
    · rw [utf8ByteSize_packetBody] at hlong
      omega
  · refine length_packInto_le (by rw [hflat, List.nil_append]) fun group hgroup => ?_
    rcases hcut group hgroup with ⟨line, rfl⟩ | hshort
    · exact .inl le_rfl
    · exact .inr (by rwa [← utf8ByteSize_packetBody])

end Telemetry.Statsd
