import Vivarium.Proofs.Number.Comparison
import Vivarium.Context

/-!
# What of a batch counts

The events of a batch that count are those whose affect is a finite number, and
a context takes them in the order of their moments, events of one moment in the
order in which they came, with affects between minus one and one. Sorting before
dropping, as contexts do, and dropping before sorting come to the same: what
passes a test stays in order among what does not.

A sort keeps a sublist that is in order already, and the events of one moment
are such a sublist. They are as many before as after, so nothing can have been
put between them.
-/

namespace Vivarium

open Number

namespace Timestamp

theorem le_iff {a b : Timestamp} : a.le b = true ↔
    a.day < b.day ∨ a.day = b.day ∧ (a.second < b.second ∨
      a.second = b.second ∧ a.nano ≤ b.nano) := by
  unfold le
  split
  · split
    · rw [decide_eq_true_eq]
      omega
    · rw [decide_eq_true_eq]
      omega
  · rw [decide_eq_true_eq]
    omega

theorem le_refl (a : Timestamp) : a.le a = true := by
  rw [le_iff]
  omega

theorem le_trans (a b c : Timestamp) (hab : a.le b = true) (hbc : b.le c = true) :
    a.le c = true := by
  rw [le_iff] at hab hbc ⊢
  omega

theorem le_total (a b : Timestamp) : (a.le b || b.le a) = true := by
  rw [Bool.or_eq_true, le_iff, le_iff]
  omega

end Timestamp

/-! ## The order of time -/

/-- Whether some events are those of a batch in the order of their moments, events of one moment
staying as they came. -/
structure StablySorted (batch sorted : List Observation) : Prop where
  perm : sorted.Perm batch
  ordered : sorted.Pairwise fun a b => a.timestamp.le b.timestamp = true
  stable : ∀ moment, sorted.filter (·.timestamp = moment) = batch.filter (·.timestamp = moment)

namespace StablySorted

variable {batch sorted : List Observation}

theorem mergeSort (batch : List Observation) :
    StablySorted batch (batch.mergeSort fun a b => a.timestamp.le b.timestamp) where
  perm := List.mergeSort_perm _ _
  ordered := List.pairwise_mergeSort
    (fun a b c => Timestamp.le_trans a.timestamp b.timestamp c.timestamp)
    (fun a b => Timestamp.le_total a.timestamp b.timestamp) batch
  stable := by
    intro moment
    have hpairwise : (batch.filter (·.timestamp = moment)).Pairwise
        fun a b => a.timestamp.le b.timestamp = true := by
      refine List.pairwise_of_forall_mem_list fun a ha b hb => ?_
      have hsame : a.timestamp = b.timestamp :=
        (of_decide_eq_true (List.mem_filter.mp ha).2).trans
          (of_decide_eq_true (List.mem_filter.mp hb).2).symm
      rw [hsame]
      exact Timestamp.le_refl b.timestamp
    have hkept := (List.sublist_mergeSort
      (fun a b c => Timestamp.le_trans a.timestamp b.timestamp c.timestamp)
      (fun a b => Timestamp.le_total a.timestamp b.timestamp) hpairwise
      List.filter_sublist).filter (·.timestamp = moment)
    simp only [List.filter_filter, Bool.and_self] at hkept
    exact (hkept.eq_of_length ((List.mergeSort_perm _ _).filter _).length_eq.symm).symm

theorem filter (h : StablySorted batch sorted) (p : Observation → Bool) :
    StablySorted (batch.filter p) (sorted.filter p) where
  perm := h.perm.filter p
  ordered := h.ordered.filter p
  stable := by
    intro moment
    rw [List.filter_comm, h.stable, List.filter_comm]

end StablySorted

/-! ## The range of affects -/

/-- Whether a single is what another one comes to between two bounds. -/
structure Clamped (low high before after : Float32) : Prop where
  between : low ≤ after ∧ after ≤ high
  raised : before < low → after = low
  lowered : high < before → after = high
  kept : low ≤ before → before ≤ high → after = before

theorem clamped_clamp {low high x : Float32} (ordered : low ≤ high) (number : x.isNaN = false) :
    Clamped low high x (clamp low high x) := by
  obtain ⟨hlow, hhigh, -⟩ := single_le_iff.mp ordered
  unfold clamp
  by_cases hbelow : x < low
  · rw [if_pos hbelow, if_neg (single_not_lt_of_le ordered)]
    refine ⟨⟨single_le_refl hlow, ordered⟩, fun _ => rfl, fun habove => ?_, fun hle _ => ?_⟩
    · exact absurd (single_lt_trans habove hbelow) (single_not_lt_of_le ordered)
    · exact absurd hbelow (single_not_lt_of_le hle)
  · rw [if_neg hbelow]
    by_cases habove : high < x
    · rw [if_pos habove]
      refine ⟨⟨ordered, single_le_refl hhigh⟩, fun h => ?_, fun _ => rfl, fun _ hle => ?_⟩
      · exact absurd h hbelow
      · exact absurd habove (single_not_lt_of_le hle)
    · rw [if_neg habove]
      refine ⟨⟨?_, ?_⟩, fun h => ?_, fun h => ?_, fun _ _ => rfl⟩
      · exact single_le_of_not_lt number hlow hbelow
      · exact single_le_of_not_lt hhigh number habove
      · exact absurd h hbelow
      · exact absurd h habove

/-! ## What counts -/

/-- Whether an event is another one with its affect brought between minus one and one. -/
structure Settled (before after : Observation) : Prop where
  timestamp : after.timestamp = before.timestamp
  source : after.source = before.source
  payload : after.payload = before.payload
  affect : Clamped (-1) 1 before.affect after.affect

/-- Whether some events are those of a batch that count, as a context takes them. -/
def Counts (batch events : List Observation) : Prop :=
  ∃ sorted, StablySorted (batch.filter (·.affect.isFinite)) sorted ∧
    List.Forall₂ Settled sorted events

namespace Context

theorem settled_settle {event : Observation} (finite : event.affect.isFinite = true) :
    Settled event (settle event) where
  timestamp := rfl
  source := rfl
  payload := rfl
  affect := clamped_clamp (by decide +kernel) (isNaN_of_isFinite finite)

theorem counts_accept (batch : List Observation) : Counts batch (accept batch) := by
  refine ⟨_, (StablySorted.mergeSort batch).filter _, ?_⟩
  unfold accept
  rw [List.forall₂_map_right_iff, List.forall₂_same]
  intro event hevent
  exact settled_settle (List.mem_filter.mp hevent).2

theorem accept_eq_nil {batch : List Observation}
    (h : ∀ event ∈ batch, event.affect.isFinite = false) : accept batch = [] := by
  unfold accept
  rw [List.map_eq_nil_iff, List.filter_eq_nil_iff]
  intro event hevent
  rw [h event (List.mem_mergeSort.mp hevent)]
  exact Bool.false_ne_true

end Context

end Vivarium
