import Mathlib.Data.List.Dedup
import Mathlib.Data.List.Perm.Subperm
import Telemetry.Proofs.Registry.Removal

/-!
# The cap on the number of meters

A cap remembers the identities that it has let through and has not seen removed. It learns neither
of the replies of the filters behind it nor of meters that were registered without it. So there are
two sides to it: what is registered is remembered, and the number of meters stays below the cap, if
nothing gets past the cap; and what is remembered is registered, and no slot is lost, if nothing is
denied behind it.

## Main definitions

- `Registry.Turn` — what a change does to the registered and to the remembered identities
- `Registry.stranded` — the identities that were let through and then denied
- `Registry.NotPreempted` — no filter before the cap settles a registration

## Main statements

- `Registry.exists_turn` — every change is such a turn
- `Registry.cap_course` — a cap holds
- `Registry.cap_deny_course` — when a cap denies, its slots are meters or stranded identities
-/

namespace Telemetry

variable {World : Type}

/-! ## Asking a chain of filters -/

/-- The filters behind a reply that is not neutral are not asked. -/
theorem verdict_append (front back : List Filter) (id : Id) :
    verdict (front ++ back) id =
      if (verdict front id).1 = .neutral then
        ((verdict back id).1, (verdict front id).2 ++ (verdict back id).2)
      else ((verdict front id).1, (verdict front id).2 ++ back) := by
  induction front with
  | nil => simp [verdict]
  | cons f rest ih =>
    rw [List.cons_append, verdict, verdict]
    rcases f.accept id with ⟨reply, f'⟩
    cases reply with
    | neutral =>
      simp only [ih]
      split <;> rfl
    | accept => simp
    | deny => simp

theorem length_verdict (filters : List Filter) (id : Id) :
    (verdict filters id).2.length = filters.length := by
  induction filters with
  | nil => rfl
  | cons f rest ih =>
    rw [verdict]
    rcases f.accept id with ⟨reply, f'⟩
    cases reply <;> simp [ih]

namespace Filter

/-- The remembered identities with one more. -/
def remembering (seen : List Identity) (identity : Identity) : List Identity :=
  if identity ∈ seen then seen else seen ++ [identity]

theorem mem_remembering {seen : List Identity} {identity other : Identity} :
    other ∈ remembering seen identity ↔ other ∈ seen ∨ other = identity := by
  unfold remembering
  split
  · next h => exact ⟨.inl, fun ho => ho.elim (fun h => h) fun heq => heq ▸ h⟩
  · simp

theorem nodup_remembering {seen : List Identity} (h : seen.Nodup) (identity : Identity) :
    (remembering seen identity).Nodup := by
  unfold remembering
  split
  · exact h
  · next hnew =>
    rw [← List.concat_eq_append]
    exact h.concat hnew

theorem length_remembering_le {seen : List Identity} {identity : Identity} {n : Nat}
    (hroom : identity ∈ seen ∨ seen.length < n) (h : seen.length ≤ n) :
    (remembering seen identity).length ≤ n := by
  unfold remembering
  split
  · exact h
  · next hnew =>
    have hlt := hroom.resolve_left hnew
    rw [List.length_append, List.length_singleton]
    omega

/-- A cap lets an identity through if it remembers it or has a slot left, and remembers it then. -/
theorem accept_maxAllowedMeters (n : Nat) (seen : List Identity) (id : Id) :
    (maxAllowedMeters n seen).accept id =
      if id.toIdentity ∈ seen ∨ seen.length < n then
        (.neutral, maxAllowedMeters n (remembering seen id.toIdentity))
      else (.deny, maxAllowedMeters n seen) := by
  by_cases hseen : id.toIdentity ∈ seen
  · simp [accept, remembering, hseen]
  · by_cases hroom : seen.length < n
    · simp [accept, remembering, hseen, hroom, Nat.not_le.2 hroom]
    · simp [accept, hseen, hroom, Nat.not_lt.1 hroom]

/-- A cap is told of removals in its place. -/
theorem getElem?_foldl_notifyRemoved {filters : List Filter} {k n : Nat} {seen : List Identity}
    (h : filters[k]? = some (maxAllowedMeters n seen)) (gone : List Id) :
    (gone.foldl Registry.notifyRemoved filters)[k]? =
      some (maxAllowedMeters n (seen.filter fun i => i ∉ gone.map Id.toIdentity)) := by
  rw [foldl_notifyRemoved, List.getElem?_map, h, Option.map_some, told_maxAllowedMeters]

/-- A chain with a cap replies before the cap, at the cap or behind it. -/
theorem verdict_at {filters : List Filter} {k n : Nat} {seen : List Identity}
    (h : filters[k]? = some (maxAllowedMeters n seen)) (id : Id) :
    ((verdict (filters.take k) id).1 ≠ .neutral ∧
        (verdict filters id).1 = (verdict (filters.take k) id).1 ∧
        (verdict filters id).2[k]? = some (maxAllowedMeters n seen)) ∨
      ((verdict filters id).1 = .deny ∧
        (verdict filters id).2[k]? = some (maxAllowedMeters n seen)) ∨
      ((id.toIdentity ∈ seen ∨ seen.length < n) ∧
        (verdict (filters.take (k + 1)) id).1 = .neutral ∧
        (verdict filters id).2[k]? =
          some (maxAllowedMeters n (remembering seen id.toIdentity))) := by
  obtain ⟨hlt, hk⟩ := List.getElem?_eq_some_iff.1 h
  have htake : filters.take (k + 1) = filters.take k ++ [maxAllowedMeters n seen] := by
    rw [List.take_succ_eq_append_getElem hlt, hk]
  have hsplit : filters =
      filters.take k ++ maxAllowedMeters n seen :: filters.drop (k + 1) := by
    rw [← hk, ← List.drop_eq_getElem_cons hlt, List.take_append_drop]
  have hlength : (verdict (filters.take k) id).2.length = k := by
    rw [length_verdict, List.length_take]
    omega
  generalize filters.take k = front at htake hsplit hlength ⊢
  generalize filters.drop (k + 1) = back at hsplit
  rw [htake, hsplit, verdict_append, verdict_append]
  by_cases hfront : (verdict front id).1 = .neutral
  · rw [if_pos hfront, if_pos hfront]
    by_cases hroom : id.toIdentity ∈ seen ∨ seen.length < n
    · refine .inr (.inr ⟨hroom, ?_, ?_⟩)
      · simp [verdict, accept_maxAllowedMeters, hroom]
      · simp [verdict, accept_maxAllowedMeters, hroom, ← hlength]
    · refine .inr (.inl ⟨?_, ?_⟩)
      · simp [verdict, accept_maxAllowedMeters, hroom]
      · simp [verdict, accept_maxAllowedMeters, hroom, ← hlength]
  · rw [if_neg hfront]
    exact .inl ⟨hfront, rfl, by simp [← hlength]⟩

end Filter

namespace Registry

/-! ## Turns -/

/-- The identity that a change strands at a filter: this one and those before it let it through, and
one behind it denies it. -/
def stranding (r : Registry World) (k : Nat) (c : Change World) : List Identity :=
  match c.asks? with
  | none => []
  | some id =>
    let mapped := mapAll r.filters id
    if mapped.toIdentity ∉ r.identities ∧
        (verdict (r.filters.take (k + 1)) mapped).1 = .neutral ∧
        (verdict r.filters mapped).1 = .deny then [mapped.toIdentity]
    else []

/-- The identities that a course strands at a filter. -/
def stranded (k : Nat) : Registry World → List (Change World) → List Identity
  | _, [] => []
  | r, c :: rest => r.stranding k c ++ stranded k (r.change c) rest

/-- No filter before the one with a number settles a registration by accepting it. -/
def NotPreempted (k : Nat) (r : Registry World) (c : Change World) : Prop :=
  ∀ id, c.asks? = some id → (mapAll r.filters id).toIdentity ∉ r.identities →
    (verdict (r.filters.take k) (mapAll r.filters id)).1 ≠ .accept

/-- What a change does to the identities that are registered and to those that the cap with number
`k` remembers. -/
inductive Turn (r : Registry World) (k n : Nat) (seen : List Identity) (c : Change World) :
    List Identity → List Identity → Prop
  | kept : Turn r k n seen c r.identities seen
  | dropped (gone : List Identity) :
    Turn r k n seen c (r.identities.filter fun i => i ∉ gone) (seen.filter fun i => i ∉ gone)
  | bypassed (id : Id) (asks : c.asks? = some id)
    (new : (mapAll r.filters id).toIdentity ∉ r.identities)
    (front : (verdict (r.filters.take k) (mapAll r.filters id)).1 = .accept) :
    Turn r k n seen c (r.identities ++ [(mapAll r.filters id).toIdentity]) seen
  | admitted (id : Id) (new : (mapAll r.filters id).toIdentity ∉ r.identities)
    (room : (mapAll r.filters id).toIdentity ∈ seen ∨ seen.length < n) :
    Turn r k n seen c (r.identities ++ [(mapAll r.filters id).toIdentity])
      (Filter.remembering seen (mapAll r.filters id).toIdentity)
  | stranded (id : Id) (room : (mapAll r.filters id).toIdentity ∈ seen ∨ seen.length < n)
    (strands : r.stranding k c = [(mapAll r.filters id).toIdentity]) :
    Turn r k n seen c r.identities
      (Filter.remembering seen (mapAll r.filters id).toIdentity)

variable {r : Registry World} {k n : Nat} {seen : List Identity}

theorem exists_turn_asked (hcap : r.filters[k]? = some (.maxAllowedMeters n seen))
    {c : Change World} {id : Id} (hasks : c.asks? = some id) {r' : Registry World}
    (h : r.Asked id r') :
    ∃ seen', r'.filters[k]? = some (.maxAllowedMeters n seen') ∧
      r.Turn k n seen c r'.identities seen' := by
  have hidentities := h.identities
  rcases Filter.verdict_at hcap (mapAll r.filters id) with
    ⟨hfront, hreply, hcap'⟩ | ⟨hdeny, hcap'⟩ | ⟨hroom, hpass, hcap'⟩
  · refine ⟨seen, h.filters ▸ hcap', ?_⟩
    by_cases hdeny : (verdict r.filters (mapAll r.filters id)).1 = .deny
    · rw [hidentities, if_pos hdeny]
      exact .kept
    · rw [hidentities, if_neg hdeny]
      refine .bypassed id hasks h.new ?_
      -- the filters before the cap have replied, and not by denying
      rw [hreply] at hdeny
      cases hv : (verdict (r.filters.take k) (mapAll r.filters id)).1 with
      | accept => rfl
      | deny => exact absurd hv hdeny
      | neutral => exact absurd hv hfront
  · refine ⟨seen, h.filters ▸ hcap', ?_⟩
    rw [hidentities, if_pos hdeny]
    exact .kept
  · refine ⟨_, h.filters ▸ hcap', ?_⟩
    by_cases hdeny : (verdict r.filters (mapAll r.filters id)).1 = .deny
    · have hstrands : r.stranding k c = [(mapAll r.filters id).toIdentity] := by
        simp only [stranding, hasks]
        exact if_pos ⟨h.new, hpass, hdeny⟩
      rw [hidentities, if_pos hdeny]
      exact .stranded id hroom hstrands
    · rw [hidentities, if_neg hdeny]
      exact .admitted id h.new hroom

/-- The cap stays a cap of the same size, and every change is a turn. -/
theorem exists_turn (hcap : r.filters[k]? = some (.maxAllowedMeters n seen)) {c : Change World}
    (hstay : r.FiltersStay c) :
    ∃ seen', (r.change c).filters[k]? = some (.maxAllowedMeters n seen') ∧
      r.Turn k n seen c (r.change c).identities seen' := by
  rcases r.change_cases c with ⟨hidentities, hfilters⟩ | ⟨gone, hdropped⟩ | ⟨id, hasks, hasked⟩
  · refine ⟨seen, ?_, hidentities ▸ .kept⟩
    rcases hfilters with hsame | ⟨f, hmore⟩ | hrefilter
    · rw [hsame]
      exact hcap
    · have hlt : k < r.filters.length := (List.getElem?_eq_some_iff.1 hcap).1
      rw [hmore, List.getElem?_append_left hlt]
      exact hcap
    · rw [hrefilter] at hstay
      exact (hstay k _ hcap).resolve_left id
  · refine ⟨seen.filter fun i => i ∉ gone.map Id.toIdentity, ?_, ?_⟩
    · rw [hdropped.filters]
      exact Filter.getElem?_foldl_notifyRemoved hcap gone
    · rw [hdropped.identities]
      exact .dropped _
  · exact exists_turn_asked hcap hasks hasked

/-! ## What is remembered is registered -/

/-- The slots of a cap: each is taken by a registered identity or by a stranded one. -/
structure Slots (r : Registry World) (k n : Nat) (stranded seen : List Identity) : Prop where
  filter : r.filters[k]? = some (.maxAllowedMeters n seen)
  nodup : seen.Nodup
  taken : ∀ i ∈ seen, i ∈ r.identities ∨ i ∈ stranded

theorem Turn.nodup {c : Change World} {registered seen' : List Identity}
    (h : r.Turn k n seen c registered seen') (hseen : seen.Nodup) : seen'.Nodup := by
  cases h with
  | kept => exact hseen
  | dropped gone => exact hseen.filter _
  | bypassed id => exact hseen
  | admitted id => exact Filter.nodup_remembering hseen _
  | stranded id => exact Filter.nodup_remembering hseen _

theorem Turn.taken {c : Change World} {registered seen' stranded : List Identity}
    (h : r.Turn k n seen c registered seen')
    (htaken : ∀ i ∈ seen, i ∈ r.identities ∨ i ∈ stranded) :
    ∀ i ∈ seen', i ∈ registered ∨ i ∈ stranded ++ r.stranding k c := by
  intro i hi
  have hold (hseen : i ∈ seen) : i ∈ r.identities ∨ i ∈ stranded ++ r.stranding k c :=
    (htaken i hseen).imp_right (List.mem_append_left _)
  cases h with
  | kept => exact hold hi
  | dropped gone =>
    obtain ⟨hseen, hgone⟩ := List.mem_filter.1 hi
    exact (hold hseen).imp_left fun hreg => List.mem_filter.2 ⟨hreg, hgone⟩
  | bypassed id => exact (hold hi).imp_left (List.mem_append_left _)
  | admitted id =>
    rcases Filter.mem_remembering.1 hi with hseen | rfl
    · exact (hold hseen).imp_left (List.mem_append_left _)
    · exact .inl (List.mem_append_right _ List.mem_cons_self)
  | stranded id _ hstrands =>
    rcases Filter.mem_remembering.1 hi with hseen | rfl
    · exact hold hseen
    · rw [hstrands]
      exact .inr (List.mem_append_right _ List.mem_cons_self)

theorem Slots.change {stranded : List Identity} (h : r.Slots k n stranded seen) {c : Change World}
    (hstay : r.FiltersStay c) :
    ∃ seen', (r.change c).Slots k n (stranded ++ r.stranding k c) seen' := by
  obtain ⟨seen', hcap', hturn⟩ := exists_turn h.filter hstay
  exact ⟨seen', hcap', hturn.nodup h.nodup, hturn.taken h.taken⟩

theorem Slots.course {stranded : List Identity} (h : r.Slots k n stranded seen)
    {changes : List (Change World)} (hstay : r.Throughout FiltersStay changes) :
    ∃ seen', (r.course changes).Slots k n (stranded ++ Registry.stranded k r changes) seen' := by
  induction changes generalizing r stranded seen with
  | nil =>
    rw [Registry.stranded, List.append_nil]
    exact ⟨seen, h⟩
  | cons c rest ih =>
    obtain ⟨seen', h'⟩ := h.change hstay.1
    obtain ⟨seen'', h''⟩ := ih h' hstay.2
    refine ⟨seen'', ?_⟩
    rw [List.append_assoc] at h''
    exact h''

theorem Slots.length_le {stranded : List Identity} (h : r.Slots k n stranded seen) :
    seen.length ≤ r.size + stranded.dedup.length := by
  have hsubset : seen ⊆ r.identities ++ stranded.dedup := by
    intro i hi
    rcases h.taken i hi with hreg | hstranded
    · exact List.mem_append_left _ hreg
    · exact List.mem_append_right _ (List.mem_dedup.2 hstranded)
  have hle := (List.subperm_of_subset h.nodup hsubset).length_le
  rw [List.length_append, length_identities] at hle
  exact hle

/-! ## What is registered is remembered -/

/-- A cap that holds: it remembers all registered identities, and not more than it may. -/
structure Capped (r : Registry World) (k n : Nat) (seen : List Identity) : Prop where
  filter : r.filters[k]? = some (.maxAllowedMeters n seen)
  nodup : r.identities.Nodup
  covered : ∀ i ∈ r.identities, i ∈ seen
  length_le : seen.length ≤ n

theorem Turn.covered {c : Change World} {registered seen' : List Identity}
    (h : r.Turn k n seen c registered seen') (hopen : r.NotPreempted k c)
    (hcovered : ∀ i ∈ r.identities, i ∈ seen) : ∀ i ∈ registered, i ∈ seen' := by
  intro i hi
  cases h with
  | kept => exact hcovered i hi
  | dropped gone =>
    obtain ⟨hreg, hgone⟩ := List.mem_filter.1 hi
    exact List.mem_filter.2 ⟨hcovered i hreg, hgone⟩
  | bypassed id hasks hnew hfront => exact absurd hfront (hopen id hasks hnew)
  | admitted id =>
    rcases List.mem_append.1 hi with hreg | hi
    · exact Filter.mem_remembering.2 (.inl (hcovered i hreg))
    · exact Filter.mem_remembering.2 (.inr (List.mem_singleton.1 hi))
  | stranded id => exact Filter.mem_remembering.2 (.inl (hcovered i hi))

theorem Turn.length_le {c : Change World} {registered seen' : List Identity}
    (h : r.Turn k n seen c registered seen') (hle : seen.length ≤ n) : seen'.length ≤ n := by
  cases h with
  | kept => exact hle
  | dropped gone => exact Nat.le_trans (List.length_filter_le _ _) hle
  | bypassed id => exact hle
  | admitted id _ hroom => exact Filter.length_remembering_le hroom hle
  | stranded id hroom => exact Filter.length_remembering_le hroom hle

theorem Capped.change (h : r.Capped k n seen) {c : Change World} (hstay : r.FiltersStay c)
    (hopen : r.NotPreempted k c) : ∃ seen', (r.change c).Capped k n seen' := by
  obtain ⟨seen', hcap', hturn⟩ := exists_turn h.filter hstay
  exact ⟨seen', hcap', nodup_identities_change h.nodup c, hturn.covered hopen h.covered,
    hturn.length_le h.length_le⟩

theorem Capped.course (h : r.Capped k n seen) {changes : List (Change World)}
    (hstay : r.Throughout FiltersStay changes) (hopen : r.Throughout (NotPreempted k) changes) :
    ∃ seen', (r.course changes).Capped k n seen' := by
  induction changes generalizing r seen with
  | nil => exact ⟨seen, h⟩
  | cons c rest ih =>
    obtain ⟨seen', h'⟩ := h.change hstay.1 hopen.1
    exact ih h' hstay.2 hopen.2

theorem Capped.size_le (h : r.Capped k n seen) : r.size ≤ n := by
  have hle := (List.subperm_of_subset h.nodup h.covered).length_le
  rw [length_identities] at hle
  exact Nat.le_trans hle h.length_le

/-! ## Main statements -/

theorem getElem?_addFilter (r : Registry World) (f : Filter) :
    (r.addFilter f).filters[r.filters.length]? = some f := by
  simp [addFilter]

/-- A cap holds that was added to an empty registry and before which no filter settles a
registration. Whatever filters are added, whatever is registered, removed or cleared, it remembers
all registered identities, and there are never more of them than it allows. And whoever asks for a
registered identity is answered with its meter, also when all slots are taken; if meters are what
they are asked to be, it also serves whoever needs one of its kind. -/
theorem cap_course (r : Registry World) (hempty : r.entries = []) (n : Nat)
    {changes : List (Change World)}
    (hstay : (r.addFilter (.cap n)).Throughout FiltersStay changes)
    (hopen : (r.addFilter (.cap n)).Throughout (NotPreempted r.filters.length) changes) :
    let r' := (r.addFilter (.cap n)).course changes
    (∃ seen, r'.filters[r.filters.length]? = some (.maxAllowedMeters n seen) ∧
        ∀ i ∈ r'.identities, i ∈ seen) ∧
      r'.size ≤ n ∧
      ∀ id handle, r'.find? (mapAll r'.filters id).toIdentity = some handle →
        (∀ candidate, r'.getOrCreate id candidate = ⟨r', handle, .found⟩) ∧
          ((r.addFilter (.cap n)).Throughout Honest changes →
            ∀ instrument : Instrument World, instrument.form = id.kind →
              r'.register id instrument = ⟨r', handle, .found⟩) := by
  intro r'
  have hnone : (r.addFilter (.cap n)).identities = [] := congrArg (List.map _) hempty
  have hstart : (r.addFilter (.cap n)).Capped r.filters.length n [] :=
    ⟨r.getElem?_addFilter _, by simp [hnone], by simp [hnone], Nat.zero_le n⟩
  have hforms : (r.addFilter (.cap n)).Formed := by
    intro e he
    rw [show (r.addFilter (.cap n)).entries = [] from hempty] at he
    cases he
  obtain ⟨seen, hcapped⟩ := hstart.course hstay hopen
  refine ⟨⟨seen, hcapped.filter, hcapped.covered⟩, hcapped.size_le, fun id handle hfind => ?_⟩
  refine ⟨getOrCreate_of_find hfind, fun hhonest instrument hform => ?_⟩
  rw [(hforms.course hhonest).register_eq hform]
  exact getOrCreate_of_find hfind _

/-- With one slot and common tags before the cap, the second of two counters is denied, and the
first one is found again. -/
theorem cap_course_counters :
    let r : Registry Unit := empty.addFilter (.commonTags (TextMap.ofList [("app", "shop")]))
    let ask (name : String) : Change Unit :=
      .act (.register (.new name .counter) (MeterRequest.fits_new name .counter))
    let changes := [ask "a", ask "b"]
    let r' := (r.addFilter (.cap 1)).course changes
    r.entries = [] ∧ (r.addFilter (.cap 1)).Throughout FiltersStay changes ∧
      (r.addFilter (.cap 1)).Throughout Honest changes ∧
      (r.addFilter (.cap 1)).Throughout (NotPreempted r.filters.length) changes ∧
      r'.size ≤ 1 ∧ (r'.answer (.new "b" .counter)).outcome = .denied ∧
      r'.answer (.new "a" .counter) = ⟨r', 0, .found⟩ := by
  intro r ask changes r'
  have hstay : (r.addFilter (.cap 1)).Throughout FiltersStay changes :=
    ⟨trivial, trivial, trivial⟩
  have hhonest : (r.addFilter (.cap 1)).Throughout Honest changes :=
    ⟨trivial, trivial, trivial⟩
  have hopen : (r.addFilter (.cap 1)).Throughout (NotPreempted r.filters.length) changes := by
    refine ⟨fun id hasks _ => ?_, fun id hasks _ => ?_, trivial⟩
    · obtain rfl := Option.some.inj hasks
      decide
    · obtain rfl := Option.some.inj hasks
      decide
  obtain ⟨-, hsize, hfound⟩ := cap_course r rfl 1 hstay hopen
  refine ⟨rfl, hstay, hhonest, hopen, hsize, by decide, ?_⟩
  exact (hfound (.new "a" .counter) 0 (by decide)).2 hhonest _ rfl

/-- When a cap denies, each of its slots is taken: by a registered meter, or by an identity that it
let through and a filter behind it denied. So if nothing has been denied behind it, at least as many
meters are registered as it allows. -/
theorem cap_deny_course (r : Registry World) {front behind : List Filter} {n : Nat}
    (hfilters : r.filters = front ++ .cap n :: behind) {changes : List (Change World)}
    (hstay : r.Throughout FiltersStay changes) :
    let r' := r.course changes
    let stranded := stranded front.length r changes
    ∃ seen, r'.filters[front.length]? = some (.maxAllowedMeters n seen) ∧
      (∀ i ∈ seen, i ∈ r'.identities ∨ i ∈ stranded) ∧
      ∀ id, ((Filter.maxAllowedMeters n seen).accept id).1 = .deny →
        n ≤ r'.size + stranded.dedup.length := by
  intro r' stranded
  have hstart : r.Slots front.length n [] [] :=
    ⟨by rw [hfilters]; simp [Filter.cap], List.nodup_nil, by simp⟩
  obtain ⟨seen, hslots⟩ := hstart.course hstay
  rw [List.nil_append] at hslots
  refine ⟨seen, hslots.filter, hslots.taken, fun id hdeny => ?_⟩
  rw [Filter.accept_maxAllowedMeters] at hdeny
  have hfull : n ≤ seen.length := by
    by_contra hroom
    rw [if_pos (.inr (Nat.not_le.1 hroom))] at hdeny
    cases hdeny
  exact Nat.le_trans hfull hslots.length_le

/-- A cap of one slot denies a meter while none is registered: the slot is taken by an identity that
was denied behind the cap. -/
theorem cap_denies_without_meters :
    let r : Registry Unit := (empty.addFilter (.cap 1)).addFilter (.nameStartsWith "d" .deny)
    let r' := r.course
      [.act (.register (.new "d" .counter) (MeterRequest.fits_new "d" .counter))]
    (∃ seen, r'.filters[0]? = some (.maxAllowedMeters 1 seen) ∧
        ((Filter.maxAllowedMeters 1 seen).accept (.new "a" .counter)).1 = .deny) ∧
      r'.find? (Id.new "a" .counter).toIdentity = none ∧
      (r'.answer (.new "a" .counter)).outcome = .denied ∧ ¬ 1 ≤ r'.size := by
  refine ⟨⟨[(Id.new "d" .counter).toIdentity], rfl, by decide⟩, ?_⟩
  decide

/-- Of that slot the accounts are right: no meter is registered, and one identity is stranded. -/
theorem cap_deny_course_stranded :
    let r : Registry Unit := (empty.addFilter (.cap 1)).addFilter (.nameStartsWith "d" .deny)
    let changes : List (Change Unit) :=
      [.act (.register (.new "d" .counter) (MeterRequest.fits_new "d" .counter))]
    r.filters = [] ++ .cap 1 :: [.nameStartsWith "d" .deny] ∧ r.Throughout FiltersStay changes ∧
      stranded 0 r changes = [(Id.new "d" .counter).toIdentity] ∧
      1 ≤ (r.course changes).size + (stranded 0 r changes).dedup.length := by
  intro r changes
  have hstay : r.Throughout FiltersStay changes := ⟨trivial, trivial⟩
  have hfilters : r.filters = [] ++ .cap 1 :: [.nameStartsWith "d" .deny] := rfl
  obtain ⟨seen, hcap, -, hdeny⟩ := cap_deny_course r hfilters hstay
  have hfull : ((r.course changes).filters[0]?.map fun f =>
      (f.accept (.new "a" .counter)).1) = some .deny := by decide
  have hreply : ((Filter.maxAllowedMeters 1 seen).accept (.new "a" .counter)).1 = .deny := by
    rw [show (r.course changes).filters[0]? = _ from hcap] at hfull
    exact Option.some.inj hfull
  exact ⟨hfilters, hstay, by decide, hdeny _ hreply⟩

end Registry

end Telemetry
