import Vivarium.Proofs.Context.Acceptance

/-!
# The way a batch arrives does not matter

Singles do not add up to the same sum in every order, so a context would depend
on the order in which the events of its batch arrived if it took them as they
came. It takes them in the order of time. Two lists in that order are one list
as soon as each moment has the same events in the same order on both sides: the
first event of either is no later than the first of the other, so the two are of
one moment, and of that moment both are the first. Nothing but the order in
which events of one moment came is left to choose, and a rearrangement that
keeps it leaves the accepted events as they are, and with them every sum over
them.

The accepted events are in order already, they are finite, being between minus
one and one, and there is nothing left to clamp. So as a batch of their own they
are accepted as they stand.
-/

namespace Vivarium

open Number

theorem Timestamp.le_antisymm {a b : Timestamp} (hab : a.le b = true) (hba : b.le a = true) :
    a = b := by
  rw [le_iff] at hab hba
  obtain ⟨day, second, nano⟩ := a
  obtain ⟨day', second', nano'⟩ := b
  simp only [Timestamp.mk.injEq] at hab hba ⊢
  omega

/-! ## Rearrangements -/

/-- Whether some events are those of a batch in another order, in which the events of one moment
come as they did before. -/
structure Rearranged (batch other : List Observation) : Prop where
  perm : other.Perm batch
  stable : ∀ moment, other.filter (·.timestamp = moment) = batch.filter (·.timestamp = moment)

theorem mem_of_filter_eq {xs ys : List Observation} {event : Observation}
    (h : ∀ moment, xs.filter (·.timestamp = moment) = ys.filter (·.timestamp = moment))
    (hevent : event ∈ xs) : event ∈ ys := by
  have hmoment : event ∈ xs.filter (·.timestamp = event.timestamp) :=
    List.mem_filter.mpr ⟨hevent, decide_eq_true rfl⟩
  rw [h] at hmoment
  exact (List.mem_filter.mp hmoment).1

theorem eq_of_ordered {xs ys : List Observation}
    (hxs : xs.Pairwise fun a b => a.timestamp.le b.timestamp = true)
    (hys : ys.Pairwise fun a b => a.timestamp.le b.timestamp = true)
    (h : ∀ moment, xs.filter (·.timestamp = moment) = ys.filter (·.timestamp = moment)) :
    xs = ys := by
  induction xs generalizing ys with
  | nil =>
      symm
      rw [List.eq_nil_iff_forall_not_mem]
      intro event hevent
      exact List.not_mem_nil (mem_of_filter_eq (fun moment => (h moment).symm) hevent)
  | cons x xs ih =>
      cases ys with
      | nil => exact absurd (mem_of_filter_eq h List.mem_cons_self) List.not_mem_nil
      | cons y ys =>
          rw [List.pairwise_cons] at hxs hys
          have hxy : x.timestamp.le y.timestamp = true := by
            have hy := mem_of_filter_eq (fun moment => (h moment).symm) List.mem_cons_self
            rcases List.mem_cons.mp hy with rfl | hlater
            · exact Timestamp.le_refl _
            · exact hxs.1 y hlater
          have hyx : y.timestamp.le x.timestamp = true := by
            have hx := mem_of_filter_eq h List.mem_cons_self
            rcases List.mem_cons.mp hx with rfl | hlater
            · exact Timestamp.le_refl _
            · exact hys.1 x hlater
          have hmoment := Timestamp.le_antisymm hxy hyx
          -- of the moment that both begin with, `x` is the first event here and `y` there
          have hhead : x = y := by
            have hfirst := h x.timestamp
            rw [List.filter_cons, List.filter_cons, if_pos (decide_eq_true rfl),
              if_pos (decide_eq_true hmoment.symm)] at hfirst
            exact (List.cons.inj hfirst).1
          subst hhead
          rw [ih hxs.2 hys.2]
          intro moment
          have hall := h moment
          rw [List.filter_cons, List.filter_cons] at hall
          split at hall
          · exact (List.cons.inj hall).2
          · exact hall

theorem StablySorted.unique {batch other xs ys : List Observation} (hx : StablySorted batch xs)
    (hy : StablySorted other ys) (h : Rearranged batch other) : ys = xs := by
  refine eq_of_ordered hy.ordered hx.ordered fun moment => ?_
  rw [hy.stable, h.stable, hx.stable]

namespace Context

variable {batch other : List Observation} {event : Observation}

/-! ## What is accepted -/

theorem mem_accept : event ∈ accept batch ↔
    ∃ before ∈ batch, before.affect.isFinite = true ∧ settle before = event := by
  simp only [accept, List.mem_map, List.mem_filter, List.mem_mergeSort, and_assoc]

theorem length_accept (batch : List Observation) :
    (accept batch).length = batch.countP (·.affect.isFinite) := by
  have hperm := (StablySorted.mergeSort batch).perm
  rw [accept, List.length_map, ← List.countP_eq_length_filter, hperm.countP_eq]

theorem accept_eq_nil_iff :
    accept batch = [] ↔ ∀ event ∈ batch, event.affect.isFinite = false := by
  refine ⟨fun h => ?_, accept_eq_nil⟩
  have hcount := length_accept batch
  rw [h, List.length_nil, eq_comm, List.countP_eq_zero] at hcount
  intro event hevent
  exact Bool.eq_false_iff.mpr (hcount event hevent)

theorem accept_rearranged (h : Rearranged batch other) : accept other = accept batch := by
  have hsorted := (StablySorted.mergeSort batch).unique (StablySorted.mergeSort other) h
  unfold accept
  rw [hsorted]

/-- Whether some events are in the order of time, with affects between minus one and one. -/
structure Fit (events : List Observation) : Prop where
  ordered : events.Pairwise fun a b => a.timestamp.le b.timestamp = true
  ranged : ∀ event ∈ events, -1 ≤ event.affect ∧ event.affect ≤ 1

theorem fit_accept (batch : List Observation) : Fit (accept batch) where
  ordered := by
    unfold accept
    rw [List.pairwise_map]
    exact ((StablySorted.mergeSort batch).filter _).ordered
  ranged := by
    intro event hevent
    obtain ⟨before, -, hfinite, rfl⟩ := mem_accept.mp hevent
    exact (settled_settle hfinite).affect.between

/-! ## What is accepted is accepted again -/

theorem isFinite_of_ranged {x : Float32} (h : -1 ≤ x ∧ x ≤ 1) : x.isFinite = true :=
  isFinite_of_le_of_le (by rfl) (by rfl) h.1 h.2

theorem settle_of_ranged (h : -1 ≤ event.affect ∧ event.affect ≤ 1) : settle event = event := by
  have hclamped := (settled_settle (isFinite_of_ranged h)).affect
  have hkept : clamp (-1) 1 event.affect = event.affect := hclamped.kept h.1 h.2
  rw [settle, hkept]

theorem Fit.accept_eq {events : List Observation} (h : Fit events) : accept events = events := by
  have hfinite : events.filter (·.affect.isFinite) = events := by
    rw [List.filter_eq_self]
    intro event hevent
    exact isFinite_of_ranged (h.ranged event hevent)
  have hsettled : events.map settle = events.map id := by
    refine List.map_congr_left fun event hevent => ?_
    exact settle_of_ranged (h.ranged event hevent)
  have hsorted := List.mergeSort_of_pairwise h.ordered
  show ((events.mergeSort fun a b => a.timestamp.le b.timestamp).filter
    (·.affect.isFinite)).map settle = events
  rw [hsorted, hfinite, hsettled, List.map_id]

/-! ## What a context says of its batch -/

/-- Whether a context counts the events of a batch that have a finite affect, and has the moment of
the latest of them. -/
structure Sums (batch : List Observation) (context : Context) : Prop where
  count : context.eventCount = batch.countP (·.affect.isFinite)
  latest : ∃ last ∈ batch, last.affect.isFinite = true ∧ context.latest = some last.timestamp ∧
    ∀ event ∈ batch, event.affect.isFinite = true →
      event.timestamp.le last.timestamp = true

theorem sums_ofAccepted (h : accept batch ≠ []) : Sums batch (ofAccepted (accept batch)) where
  count := length_accept batch
  latest := by
    obtain ⟨events, final, hevents⟩ := List.eq_nil_or_concat' (accept batch) |>.resolve_left h
    have hordered := (fit_accept batch).ordered
    rw [hevents, List.pairwise_append] at hordered
    have hfinal : final ∈ accept batch := by
      rw [hevents]
      exact List.mem_append_right _ List.mem_cons_self
    -- The accepted events are in the order of time, so the last of them is the latest.
    obtain ⟨last, hlast, hfinite, rfl⟩ := mem_accept.mp hfinal
    refine ⟨last, hlast, hfinite, ?_, ?_⟩
    · show (accept batch).getLast?.map (·.timestamp) = some last.timestamp
      rw [hevents, List.getLast?_concat]
      rfl
    · intro event hevent hcounts
      have haccepted : settle event ∈ accept batch := mem_accept.mpr ⟨event, hevent, hcounts, rfl⟩
      rw [hevents] at haccepted
      rcases List.mem_append.mp haccepted with hearlier | hself
      · exact hordered.2.2 (settle event) hearlier (settle last) List.mem_cons_self
      · have hsame := congrArg Observation.timestamp (List.mem_singleton.mp hself)
        rw [show event.timestamp = last.timestamp from hsame]
        exact Timestamp.le_refl _

theorem ofBatch_eq_none_iff : (ofBatch batch).1 = none ↔ accept batch = [] := by
  unfold ofBatch
  cases accept batch with
  | nil => simp
  | cons event events => simp

theorem ofBatch_eq_some_iff {context : Context} : (ofBatch batch).1 = some context ↔
    accept batch ≠ [] ∧ context = ofAccepted (accept batch) := by
  unfold ofBatch
  cases accept batch with
  | nil => simp
  | cons event events => simp [eq_comm]

/-- A rearrangement of a batch in which the events of one moment come as they did before gives the
same context, bit for bit, and the same accepted events. There is a context unless no event has a
finite affect; it counts those that have one and is as late as the last of them. The accepted events
are in the order of time, and their affects are between minus one and one. -/
theorem ofBatch_rearranged (batch : List Observation) :
    (∀ other, Rearranged batch other → ofBatch other = ofBatch batch) ∧
      ((ofBatch batch).1 = none ↔ ∀ event ∈ batch, event.affect.isFinite = false) ∧
      (∀ context, (ofBatch batch).1 = some context → Sums batch context) ∧
      Counts batch (ofBatch batch).2 ∧ Fit (ofBatch batch).2 := by
  refine ⟨fun other h => ?_, ?_, fun context hcontext => ?_, ?_, ?_⟩
  · unfold ofBatch
    rw [accept_rearranged h]
  · rw [ofBatch_eq_none_iff, accept_eq_nil_iff]
  · obtain ⟨hevents, rfl⟩ := ofBatch_eq_some_iff.mp hcontext
    exact sums_ofAccepted hevents
  · exact counts_accept batch
  · exact fit_accept batch

/-- Four events of two moments: one whose affect is not a number and one that is out of range. -/
def tangled : List Observation :=
  [ { timestamp := { day := 1, second := 0, nano := 0 }, source := "door", affect := 3 },
    { timestamp := .epoch, source := "lamp", affect := 0 / 0 },
    { timestamp := { day := 1, second := 0, nano := 0 }, source := "lamp", affect := -0.5 },
    { timestamp := .epoch, source := "door", affect := 0.25 } ]

/-- The same events with the earlier ones first. -/
def untangled : List Observation :=
  [ { timestamp := .epoch, source := "lamp", affect := 0 / 0 },
    { timestamp := .epoch, source := "door", affect := 0.25 },
    { timestamp := { day := 1, second := 0, nano := 0 }, source := "door", affect := 3 },
    { timestamp := { day := 1, second := 0, nano := 0 }, source := "lamp", affect := -0.5 } ]

theorem rearranged_untangled : Rearranged tangled untangled where
  perm := by
    obtain ⟨a, b, c, d, htangled, huntangled⟩ :
        ∃ a b c d, tangled = [a, b, c, d] ∧ untangled = [b, d] ++ a :: [c] :=
      ⟨_, _, _, _, rfl, rfl⟩
    rw [htangled, huntangled]
    exact List.perm_middle.trans (((List.Perm.swap c d []).cons b).cons a)
  stable := by
    intro moment
    unfold tangled untangled
    by_cases hearly : moment = .epoch
    · subst hearly
      rfl
    · simp [List.filter_cons, Ne.symm hearly]

theorem exists_context_tangled : ∃ context, (ofBatch tangled).1 = some context := by
  refine ⟨_, ofBatch_eq_some_iff.mpr ⟨fun hnone => ?_, rfl⟩⟩
  have hcount := length_accept tangled
  rw [hnone] at hcount
  exact absurd hcount (by decide +kernel)

theorem ofBatch_rearranged_tangled : Rearranged tangled untangled ∧
    ofBatch untangled = ofBatch tangled ∧
      ∃ context, (ofBatch tangled).1 = some context ∧ Sums tangled context := by
  obtain ⟨hsame, -, hsums, -⟩ := ofBatch_rearranged tangled
  obtain ⟨context, hcontext⟩ := exists_context_tangled
  exact ⟨rearranged_untangled, hsame untangled rearranged_untangled, context, hcontext,
    hsums context hcontext⟩

end Context

end Vivarium
