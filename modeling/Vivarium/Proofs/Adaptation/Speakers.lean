import Vivarium.Adaptation.Emitter
import Mathlib.Tactic

/-!
# Which rules speak

A rule speaks if its condition is met and no later rule for its parameter has
its condition met too. That can be found out in two ways. One goes through the
rules from the last to the first and keeps a rule if no rule kept so far is for
its parameter. The other goes from the first to the last and notes each rule
whose condition is met in a table under its parameter, over what stood there,
and at the end sorts the positions in the table. The second way has to go
through the table, and a table has no order of its own.

Both find the same rules in the same order. The first is an induction on the
rules from the front, the second one from the back, where the rule that comes
last takes its parameter from all others. Whatever way one goes through the
table, the positions are those of the rules that speak, each once, and sorting
leaves nothing of the way.
-/

namespace Vivarium

/-- When a condition is met, given the figures of a tick and the dissonance felt. -/
inductive Condition.Met (metrics : Metrics) (dissonance : Float32) : Condition → Prop where
  | meanFitnessBelow {limit : Float32} (below : metrics.meanFitness < limit) :
      Met metrics dissonance (.meanFitnessBelow limit)
  | meanFitnessAbove {limit : Float32} (above : limit < metrics.meanFitness) :
      Met metrics dissonance (.meanFitnessAbove limit)
  | diversityBelow {limit : Float32} (below : metrics.diversity < limit) :
      Met metrics dissonance (.diversityBelow limit)
  | diversityAbove {limit : Float32} (above : limit < metrics.diversity) :
      Met metrics dissonance (.diversityAbove limit)
  | populationBelow {limit : Nat} (below : metrics.population < limit) :
      Met metrics dissonance (.populationBelow limit)
  | populationAbove {limit : Nat} (above : limit < metrics.population) :
      Met metrics dissonance (.populationAbove limit)
  | extinct (extinct : metrics.extinct = true) : Met metrics dissonance .extinct
  | degraded (degraded : metrics.degraded = true) : Met metrics dissonance .degraded
  | dissonanceAbove {limit : Float32} (above : limit < dissonance) :
      Met metrics dissonance (.dissonanceAbove limit)
  | all {conditions : List Condition} (each : ∀ c ∈ conditions, Met metrics dissonance c) :
      Met metrics dissonance (.all conditions)
  | any {conditions : List Condition} {c : Condition} (mem : c ∈ conditions)
      (one : Met metrics dissonance c) : Met metrics dissonance (.any conditions)

section Meaning

variable {metrics : Metrics} {dissonance : Float32}

mutual

theorem holds_iff_met (c : Condition) :
    c.holds metrics dissonance = true ↔ c.Met metrics dissonance := by
  cases c with
  | meanFitnessBelow limit | meanFitnessAbove limit | diversityBelow limit | diversityAbove limit
  | populationBelow limit | populationAbove limit | dissonanceAbove limit =>
      rw [Condition.holds, decide_eq_true_eq]
      constructor
      · intro h
        constructor
        exact h
      · intro h
        cases h
        assumption
  | extinct | degraded =>
      rw [Condition.holds]
      constructor
      · intro h
        constructor
        exact h
      · intro h
        cases h
        assumption
  | all conditions =>
      rw [Condition.holds, holdsAll_iff_met conditions]
      exact ⟨.all, fun h => by cases h; assumption⟩
  | any conditions =>
      rw [Condition.holds, holdsAny_iff_met conditions]
      constructor
      · rintro ⟨c, hmem, hmet⟩
        exact .any hmem hmet
      · intro h
        cases h with
        | any hmem hmet => exact ⟨_, hmem, hmet⟩

theorem holdsAll_iff_met (conditions : List Condition) :
    Condition.holdsAll metrics dissonance conditions = true ↔
      ∀ c ∈ conditions, c.Met metrics dissonance := by
  cases conditions with
  | nil => simp [Condition.holdsAll]
  | cons c rest =>
      rw [Condition.holdsAll, Bool.and_eq_true, holds_iff_met c, holdsAll_iff_met rest,
        List.forall_mem_cons]

theorem holdsAny_iff_met (conditions : List Condition) :
    Condition.holdsAny metrics dissonance conditions = true ↔
      ∃ c ∈ conditions, c.Met metrics dissonance := by
  cases conditions with
  | nil => simp [Condition.holdsAny]
  | cons c rest =>
      rw [Condition.holdsAny, Bool.or_eq_true, holds_iff_met c, holdsAny_iff_met rest]
      simp

end

end Meaning

namespace Emitter

variable {metrics : Metrics} {dissonance : Float32} {rules : List Rule} {rule : Rule}
  {position : Nat}

/-! ## From the last rule to the first -/

/-- Whether a rule speaks from its position: it is met, and no later rule for its parameter is. -/
structure Speaks (metrics : Metrics) (dissonance : Float32) (rules : List Rule) (position : Nat)
    (rule : Rule) : Prop where
  found : rules[position]? = some rule
  met : rule.condition.Met metrics dissonance
  last : ∀ later other, position < later → rules[later]? = some other →
    other.condition.Met metrics dissonance → other.parameter ≠ rule.parameter

theorem speaks_succ_iff {first : Rule} :
    Speaks metrics dissonance (first :: rules) (position + 1) rule ↔
      Speaks metrics dissonance rules position rule := by
  constructor
  · intro h
    refine ⟨h.found, h.met, fun later other hlater hother => ?_⟩
    exact h.last (later + 1) other (by omega) hother
  · intro h
    refine ⟨h.found, h.met, fun later other hlater hother => ?_⟩
    obtain ⟨before, rfl⟩ : ∃ before, later = before + 1 := ⟨later - 1, by omega⟩
    exact h.last before other (by omega) hother

theorem speaks_zero_iff {first : Rule} :
    Speaks metrics dissonance (first :: rules) 0 rule ↔
      rule = first ∧ first.condition.Met metrics dissonance ∧
        ∀ other ∈ rules, other.condition.Met metrics dissonance →
          other.parameter ≠ first.parameter := by
  constructor
  · intro h
    have hfirst : first = rule := Option.some.inj h.found
    subst hfirst
    refine ⟨rfl, h.met, fun other hmem => ?_⟩
    obtain ⟨later, hlater⟩ := List.mem_iff_getElem?.mp hmem
    exact h.last (later + 1) other (Nat.succ_pos later) hlater
  · rintro ⟨rfl, hmet, hlast⟩
    refine ⟨rfl, hmet, fun later other hlater hother => ?_⟩
    obtain ⟨before, rfl⟩ : ∃ before, later = before + 1 := ⟨later - 1, by omega⟩
    exact hlast other (List.mem_of_getElem? hother)

theorem winners_cons (metrics : Metrics) (dissonance : Float32) (rule : Rule) (rest : List Rule) :
    winners metrics dissonance (rule :: rest) =
      if rule.condition.holds metrics dissonance &&
        (winners metrics dissonance rest).all (·.parameter != rule.parameter) then
        rule :: winners metrics dissonance rest
      else winners metrics dissonance rest :=
  rfl

theorem winners_sublist (metrics : Metrics) (dissonance : Float32) (rules : List Rule) :
    (winners metrics dissonance rules).Sublist rules := by
  induction rules with
  | nil => exact .slnil
  | cons rule rest ih =>
      rw [winners_cons]
      split
      · exact ih.cons_cons rule
      · exact ih.cons rule

theorem exists_winner_iff (metrics : Metrics) (dissonance : Float32) (rules : List Rule)
    (parameter : String) :
    (∃ rule ∈ winners metrics dissonance rules, rule.parameter = parameter) ↔
      ∃ rule ∈ rules, rule.condition.Met metrics dissonance ∧ rule.parameter = parameter := by
  induction rules with
  | nil => simp [winners]
  | cons rule rest ih =>
      rw [winners_cons]
      split
      · next hspeaks =>
          rw [Bool.and_eq_true, holds_iff_met] at hspeaks
          simp [ih, hspeaks.1]
      · next hsilent =>
          rw [ih]
          constructor
          · rintro ⟨other, hmem, hother⟩
            exact ⟨other, List.mem_cons_of_mem _ hmem, hother⟩
          · rintro ⟨other, hmem, hmet, hparameter⟩
            rcases List.mem_cons.mp hmem with rfl | hrest
            · -- the rule is met and kept silent, so another one has its parameter
              rw [Bool.and_eq_true, holds_iff_met, List.all_eq_true] at hsilent
              by_contra hnone
              refine hsilent ⟨hmet, fun winner hwinner => ?_⟩
              rw [bne_iff_ne]
              intro hsame
              exact hnone (ih.mp ⟨winner, hwinner, hsame.trans hparameter⟩)
            · exact ⟨other, hrest, hmet, hparameter⟩

theorem speaks_first_iff (first : Rule) (rest : List Rule) :
    (first.condition.holds metrics dissonance &&
      (winners metrics dissonance rest).all (·.parameter != first.parameter)) = true ↔
      Speaks metrics dissonance (first :: rest) 0 first := by
  have hwinner := exists_winner_iff metrics dissonance rest first.parameter
  rw [speaks_zero_iff, Bool.and_eq_true, holds_iff_met, List.all_eq_true]
  simp only [bne_iff_ne, true_and]
  refine and_congr_right fun _ => ?_
  constructor
  · intro h other hother hmet hsame
    obtain ⟨winner, hmem, hparameter⟩ := hwinner.mpr ⟨other, hother, hmet, hsame⟩
    exact h winner hmem hparameter
  · intro h winner hmem hsame
    obtain ⟨other, hother, hmet, hparameter⟩ := hwinner.mp ⟨winner, hmem, hsame⟩
    exact h other hother hmet hparameter

theorem winners_speak (metrics : Metrics) (dissonance : Float32) (rules : List Rule) :
    ∃ positions : List Nat, positions.Pairwise (· < ·) ∧
      (∀ position, position ∈ positions ↔ ∃ rule, Speaks metrics dissonance rules position rule) ∧
      List.Forall₂ (Speaks metrics dissonance rules) positions
        (winners metrics dissonance rules) := by
  induction rules with
  | nil =>
      refine ⟨[], .nil, fun position => ?_, .nil⟩
      simp only [List.not_mem_nil, false_iff]
      rintro ⟨rule, h⟩
      cases h.found
  | cons first rest ih =>
      obtain ⟨positions, hascending, hmem, hspeak⟩ := ih
      -- one rule more at the front: everyone else speaks as before, from one position later
      have hlater : (positions.map (· + 1)).Pairwise (· < ·) := by
        rw [List.pairwise_map]
        exact hascending.imp fun h => Nat.succ_lt_succ h
      have hmoved : ∀ position, position + 1 ∈ positions.map (· + 1) ↔
          ∃ rule, Speaks metrics dissonance (first :: rest) (position + 1) rule := by
        intro position
        simp only [speaks_succ_iff, ← hmem, List.mem_map, Nat.add_right_cancel_iff, exists_eq_right]
      have hspoken : List.Forall₂ (Speaks metrics dissonance (first :: rest))
          (positions.map (· + 1)) (winners metrics dissonance rest) := by
        rw [List.forall₂_map_left_iff]
        exact hspeak.imp fun position rule h => speaks_succ_iff.mpr h
      have hstart : 0 ∉ positions.map (· + 1) := by simp
      rw [winners_cons]
      split
      · next hspeaks =>
          rw [speaks_first_iff] at hspeaks
          refine ⟨0 :: positions.map (· + 1), ?_, fun position => ?_, .cons hspeaks hspoken⟩
          · refine List.pairwise_cons.mpr ⟨fun position hposition => ?_, hlater⟩
            exact Nat.pos_of_ne_zero fun hzero => hstart (hzero ▸ hposition)
          · cases position with
            | zero => exact ⟨fun _ => ⟨first, hspeaks⟩, fun _ => List.mem_cons_self⟩
            | succ position => simpa using hmoved position
      · next hsilent =>
          rw [speaks_first_iff] at hsilent
          refine ⟨positions.map (· + 1), hlater, fun position => ?_, hspoken⟩
          cases position with
          | zero =>
              refine ⟨fun h => absurd h hstart, ?_⟩
              rintro ⟨rule, h⟩
              obtain rfl := (speaks_zero_iff.mp h).1
              exact absurd h hsilent
          | succ position => exact hmoved position

theorem Speaks.rule_eq {other : Rule} (h : Speaks metrics dissonance rules position rule)
    (h' : Speaks metrics dissonance rules position other) : rule = other :=
  Option.some.inj (h.found.symm.trans h'.found)

theorem Speaks.position_eq {position' : Nat} {other : Rule}
    (h : Speaks metrics dissonance rules position rule)
    (h' : Speaks metrics dissonance rules position' other)
    (same : rule.parameter = other.parameter) : position = position' := by
  rcases Nat.lt_trichotomy position position' with hlt | heq | hgt
  · exact absurd same.symm (h.last position' other hlt h'.found h'.met)
  · exact heq
  · exact absurd same (h'.last position rule hgt h.found h.met)

theorem winners_parameters_nodup (metrics : Metrics) (dissonance : Float32) (rules : List Rule) :
    ((winners metrics dissonance rules).map (·.parameter)).Nodup := by
  induction rules with
  | nil => exact .nil
  | cons first rest ih =>
      rw [winners_cons]
      split
      · next hspeaks =>
          rw [Bool.and_eq_true, List.all_eq_true] at hspeaks
          refine List.nodup_cons.mpr ⟨fun hmem => ?_, ih⟩
          obtain ⟨winner, hwinner, hsame⟩ := List.mem_map.mp hmem
          have := hspeaks.2 winner hwinner
          simp [hsame] at this
      · exact ih

/-! ## Through a table -/

/-- The positions noted under each parameter when the rules are gone through from the first on. -/
def noted (metrics : Metrics) (dissonance : Float32) (rules : List Rule) : String → Option Nat :=
  rules.zipIdx.foldl (fun table entry =>
    if entry.1.condition.holds metrics dissonance then
      Function.update table entry.1.parameter (some entry.2)
    else table) fun _ => none

/-- Whether some entries are all entries of a table, each once, in whatever order. -/
structure Lists {κ ν : Type} (table : κ → Option ν) (entries : List (κ × ν)) : Prop where
  once : (entries.map (·.1)).Nodup
  mem_iff : ∀ key value, (key, value) ∈ entries ↔ table key = some value

theorem noted_concat (rules : List Rule) (rule : Rule) :
    noted metrics dissonance (rules ++ [rule]) =
      if rule.condition.holds metrics dissonance then
        Function.update (noted metrics dissonance rules) rule.parameter (some rules.length)
      else noted metrics dissonance rules := by
  rw [noted, List.zipIdx_append, List.foldl_append]
  simp only [Nat.zero_add, List.zipIdx_singleton, List.foldl_cons, List.foldl_nil]
  rfl

theorem getElem?_concat_eq_some_iff {last : Rule} :
    (rules ++ [last])[position]? = some rule ↔
      rules[position]? = some rule ∨ (position = rules.length ∧ rule = last) := by
  rcases Nat.lt_trichotomy position rules.length with hlt | rfl | hgt
  · rw [List.getElem?_append_left hlt]
    simp [Nat.ne_of_lt hlt]
  · simp [eq_comm]
  · have hnone : (rules ++ [last])[position]? = none := by
      rw [List.getElem?_eq_none_iff, List.length_append, List.length_singleton]
      omega
    simp [hnone, Nat.le_of_lt hgt, Nat.ne_of_gt hgt]

theorem speaks_concat_iff {last : Rule} :
    Speaks metrics dissonance (rules ++ [last]) position rule ↔
      (position = rules.length ∧ rule = last ∧ last.condition.Met metrics dissonance) ∨
        (Speaks metrics dissonance rules position rule ∧
          (last.condition.Met metrics dissonance → last.parameter ≠ rule.parameter)) := by
  constructor
  · intro h
    rcases getElem?_concat_eq_some_iff.mp h.found with hfound | ⟨rfl, rfl⟩
    · have hbound := (List.getElem?_eq_some_iff.mp hfound).1
      refine .inr ⟨⟨hfound, h.met, fun later other hlater hother => ?_⟩, ?_⟩
      · exact h.last later other hlater (getElem?_concat_eq_some_iff.mpr (.inl hother))
      · exact h.last rules.length last hbound (getElem?_concat_eq_some_iff.mpr (.inr ⟨rfl, rfl⟩))
    · exact .inl ⟨rfl, rfl, h.met⟩
  · rintro (⟨rfl, rfl, hmet⟩ | ⟨h, hlast⟩)
    · refine ⟨getElem?_concat_eq_some_iff.mpr (.inr ⟨rfl, rfl⟩), hmet, ?_⟩
      intro later other hlater hother
      have hbound := (List.getElem?_eq_some_iff.mp hother).1
      rw [List.length_append, List.length_singleton] at hbound
      omega
    · refine ⟨getElem?_concat_eq_some_iff.mpr (.inl h.found), h.met, ?_⟩
      intro later other hlater hother
      rcases getElem?_concat_eq_some_iff.mp hother with hearlier | ⟨-, rfl⟩
      · exact h.last later other hlater hearlier
      · exact hlast

theorem noted_eq_some_iff (rules : List Rule) (parameter : String) (position : Nat) :
    noted metrics dissonance rules parameter = some position ↔
      ∃ rule, Speaks metrics dissonance rules position rule ∧ rule.parameter = parameter := by
  induction rules using List.reverseRecOn with
  | nil =>
      constructor
      · intro h
        cases h
      · rintro ⟨rule, h, -⟩
        cases h.found
  | append_singleton rules last ih =>
      simp only [noted_concat, speaks_concat_iff]
      -- One rule more at the end takes over its own parameter, if it holds, and no other.
      by_cases hmet : last.condition.Met metrics dissonance
      · rw [if_pos ((holds_iff_met _).mpr hmet)]
        by_cases hsame : last.parameter = parameter
        · subst hsame
          rw [Function.update_self]
          constructor
          · intro h
            exact ⟨last, .inl ⟨(Option.some.inj h).symm, rfl, hmet⟩, rfl⟩
          · rintro ⟨rule, ⟨rfl, -, -⟩ | ⟨-, hother⟩, hparameter⟩
            · rfl
            · exact absurd hparameter.symm (hother hmet)
        · rw [Function.update_of_ne (Ne.symm hsame), ih]
          constructor
          · rintro ⟨rule, h, rfl⟩
            exact ⟨rule, .inr ⟨h, fun _ => hsame⟩, rfl⟩
          · rintro ⟨rule, ⟨-, rfl, -⟩ | ⟨h, -⟩, hparameter⟩
            · exact absurd hparameter hsame
            · exact ⟨rule, h, hparameter⟩
      · rw [if_neg (mt (holds_iff_met _).mp hmet), ih]
        constructor
        · rintro ⟨rule, h, hparameter⟩
          exact ⟨rule, .inr ⟨h, fun h => absurd h hmet⟩, hparameter⟩
        · rintro ⟨rule, ⟨-, -, h⟩ | ⟨h, -⟩, hparameter⟩
          · exact absurd h hmet
          · exact ⟨rule, h, hparameter⟩

theorem mergeSort_eq_of_perm {items sorted : List Nat} (perm : items.Perm sorted)
    (ascending : sorted.Pairwise (· ≤ ·)) : items.mergeSort = sorted := by
  have hpairwise := @List.pairwise_mergeSort Nat (fun a b => decide (a ≤ b))
    (by simp only [decide_eq_true_eq]; omega)
    (by simp only [Bool.or_eq_true, decide_eq_true_eq]; omega) items
  exact ((List.mergeSort_perm _ _).trans perm).eq_of_pairwise
    (fun _ _ _ _ => Nat.le_antisymm) (hpairwise.imp of_decide_eq_true) ascending

theorem sorted_positions {entries : List (String × Nat)} {positions : List Nat}
    (lists : Lists (noted metrics dissonance rules) entries)
    (ascending : positions.Pairwise (· < ·))
    (hmem : ∀ position, position ∈ positions ↔
      ∃ rule, Speaks metrics dissonance rules position rule) :
    (entries.map (·.2)).mergeSort = positions := by
  have hspeaks : ∀ entry ∈ entries,
      ∃ rule, Speaks metrics dissonance rules entry.2 rule ∧ rule.parameter = entry.1 :=
    fun entry hentry => (noted_eq_some_iff rules entry.1 entry.2).mp
      ((lists.mem_iff entry.1 entry.2).mp hentry)
  have honce : (entries.map (·.2)).Nodup := by
    refine List.Nodup.map_on ?_ (List.Nodup.of_map _ lists.once)
    intro one hone other hother hsame
    obtain ⟨rule, hrule, hparameter⟩ := hspeaks one hone
    obtain ⟨rule', hrule', hparameter'⟩ := hspeaks other hother
    rw [hsame] at hrule
    rw [hrule.rule_eq hrule'] at hparameter
    exact Prod.ext (hparameter.symm.trans hparameter') hsame
  have hperm : (entries.map (·.2)).Perm positions := by
    refine (List.perm_ext_iff_of_nodup honce (ascending.imp Nat.ne_of_lt)).mpr fun position => ?_
    rw [hmem, List.mem_map]
    constructor
    · rintro ⟨entry, hentry, rfl⟩
      obtain ⟨rule, hrule, -⟩ := hspeaks entry hentry
      exact ⟨rule, hrule⟩
    · rintro ⟨rule, hrule⟩
      refine ⟨(rule.parameter, position), ?_, rfl⟩
      rw [lists.mem_iff, noted_eq_some_iff]
      exact ⟨rule, hrule, rfl⟩
  exact mergeSort_eq_of_perm hperm (ascending.imp Nat.le_of_lt)

theorem exists_listing (metrics : Metrics) (dissonance : Float32) (rules : List Rule) :
    ∃ entries, Lists (noted metrics dissonance rules) entries := by
  obtain ⟨positions, hascending, hmem, -⟩ := winners_speak metrics dissonance rules
  refine ⟨positions.filterMap fun position =>
    rules[position]?.map fun rule => (rule.parameter, position), ?_, fun key position => ?_⟩
  · rw [List.map_filterMap]
    refine List.pairwise_filterMap.mpr (hascending.imp_of_mem fun {one other} hone hother hlt => ?_)
    obtain ⟨rule, hrule⟩ := (hmem one).mp hone
    obtain ⟨rule', hrule'⟩ := (hmem other).mp hother
    simp only [hrule.found, hrule'.found, Option.map_some, Option.some.injEq]
    rintro _ rfl _ rfl hsame
    have := hrule.position_eq hrule' hsame
    omega
  · rw [noted_eq_some_iff, List.mem_filterMap]
    constructor
    · rintro ⟨other, hother, hentry⟩
      obtain ⟨rule, hfound, hpair⟩ := Option.map_eq_some_iff.mp hentry
      obtain ⟨rfl, rfl⟩ := Prod.mk.inj hpair
      obtain ⟨rule', hrule'⟩ := (hmem other).mp hother
      obtain rfl := Option.some.inj (hfound.symm.trans hrule'.found)
      exact ⟨rule, hrule', rfl⟩
    · rintro ⟨rule, hrule, rfl⟩
      refine ⟨position, (hmem position).mpr ⟨rule, hrule⟩, ?_⟩
      rw [hrule.found]
      rfl

end Emitter

end Vivarium
