import Vivarium.Proofs.Adaptation.Signals

/-!
# The window of dissonance

An emitter keeps the ticks of its recent signals and forgets them from the
front. If the ticks that it is shown do not go back, what it keeps is in order,
so that what has left the window is at the front and nothing else is: after a
reading it keeps exactly the ticks of the signals sent so far that are still in
the window. A tick that has left the window at one reading is outside it at any
later one, and so counting what is kept gives what counting all signals ever
sent would give.

The test for forgetting and the test for counting differ at both ends: signals
of the present tick are kept and not counted. The first is about the age of a
signal alone, and an emitter that is asked about a later tick counts by both.
-/

namespace Vivarium

namespace Emitter

variable {emitter : Emitter} {readings : List Reading} {window now : Nat}

/-! ## Forgetting -/

theorem dropWhile_eq_filter {α : Type} {p : α → Bool} {items : List α}
    (h : items.Pairwise fun a b => p b = true → p a = true) :
    items.dropWhile p = items.filter (!p ·) := by
  induction items with
  | nil => rfl
  | cons first rest ih =>
      obtain ⟨hfirst, hrest⟩ := List.pairwise_cons.mp h
      cases hp : p first with
      | true =>
          rw [List.dropWhile_cons_of_pos hp, ih hrest, List.filter_cons_of_neg (by simp [hp])]
      | false =>
          have hall : ∀ item ∈ first :: rest, (!p item) = true := by
            intro item hitem
            rcases List.mem_cons.mp hitem with rfl | hmem
            · simp [hp]
            · by_contra hitem
              have := hfirst item hmem (by simpa using hitem)
              simp [hp] at this
          rw [List.dropWhile_cons_of_neg (by simp [hp]), List.filter_eq_self.mpr hall]

theorem forget_eq_filter {ticks : List Nat} (ascending : ticks.Pairwise (· ≤ ·)) :
    forget window now ticks = ticks.filter fun tick => now - tick < window := by
  have hprefix : ticks.Pairwise fun a b =>
      decide (window ≤ now - b) = true → decide (window ≤ now - a) = true := by
    refine ascending.imp fun {a b} hle => ?_
    simp only [decide_eq_true_eq]
    omega
  rw [forget, dropWhile_eq_filter hprefix]
  refine List.filter_congr fun tick _ => ?_
  simp only [← decide_not, Nat.not_le]

/-! ## What is kept -/

theorem exists_reading_of_sent (emitter : Emitter) (readings : List Reading) :
    ∀ signal ∈ emitter.sent readings, ∃ reading ∈ readings, reading.metrics.tick = signal.tick := by
  induction readings using List.reverseRecOn with
  | nil => simp [sent]
  | append_singleton readings reading ih =>
      intro signal hsignal
      rw [sent_concat, List.mem_append] at hsignal
      rcases hsignal with hearlier | hnow
      · obtain ⟨other, hother, htick⟩ := ih signal hearlier
        exact ⟨other, List.mem_append_left _ hother, htick⟩
      · exact ⟨reading, List.mem_append_right _ (List.mem_singleton_self _),
          (reply_tick _ reading signal hnow).symm⟩

theorem ordered_concat {R : Nat → Nat → Prop} {reading : Reading} (emitter : Emitter)
    (h : (readings ++ [reading]).Pairwise fun a b => R a.metrics.tick b.metrics.tick) :
    (readings.Pairwise fun a b => R a.metrics.tick b.metrics.tick) ∧
      ∀ signal ∈ emitter.sent readings, R signal.tick reading.metrics.tick := by
  obtain ⟨hearlier, -, hlast⟩ := List.pairwise_append.mp h
  refine ⟨hearlier, fun signal hsignal => ?_⟩
  obtain ⟨other, hother, htick⟩ := exists_reading_of_sent emitter readings signal hsignal
  rw [← htick]
  exact hlast other hother reading (List.mem_singleton_self _)

theorem sent_ascending (emitter : Emitter)
    (ordered : readings.Pairwise fun a b => a.metrics.tick ≤ b.metrics.tick) :
    (emitter.sent readings).Pairwise fun a b => a.tick ≤ b.tick := by
  induction readings using List.reverseRecOn with
  | nil => exact .nil
  | append_singleton readings reading ih =>
      obtain ⟨hearlier, hlast⟩ := ordered_concat emitter ordered
      rw [sent_concat]
      refine List.pairwise_append.mpr ⟨ih hearlier, ?_, fun a ha b hb => ?_⟩
      · refine List.pairwise_iff_forall_sublist.mpr fun {a b} hsub => ?_
        have ha := reply_tick _ reading a (hsub.subset (by simp))
        have hb := reply_tick _ reading b (hsub.subset (by simp))
        omega
      · rw [reply_tick _ reading b hb]
        exact hlast a ha

/-- The tick that was shown last, or zero. -/
def lastTick (readings : List Reading) : Nat :=
  (readings.getLast?.map (·.metrics.tick)).getD 0

/-- Whether an emitter, shown `last` at the latest, keeps all of some ticks that can still count. -/
structure Keeps (last : Nat) (ticks : List Nat) (emitter : Emitter) : Prop where
  sublist : emitter.recent.Sublist ticks
  window : ∀ now, last ≤ now →
    (emitter.recent.filter fun tick => now - tick < emitter.config.window) =
      ticks.filter fun tick => now - tick < emitter.config.window

theorem recent_shown {last : Nat} {ticks : List Nat} (keeps : emitter.Keeps last ticks)
    {reading : Reading} (hlast : last ≤ reading.metrics.tick)
    (ascending : (ticks ++ (emitter.reply reading).map (·.tick)).Pairwise (· ≤ ·)) :
    (emitter.shown reading).recent = (ticks ++ (emitter.reply reading).map (·.tick)).filter
      fun tick => reading.metrics.tick - tick < emitter.config.window := by
  have hsub := keeps.sublist.append (List.Sublist.refl ((emitter.reply reading).map (·.tick)))
  show forget _ _ (emitter.recent ++ (emitter.reply reading).map (·.tick)) = _
  rw [forget_eq_filter (ascending.sublist hsub), List.filter_append, List.filter_append,
    keeps.window _ hlast]

theorem Keeps.shown {last : Nat} {ticks : List Nat} (keeps : emitter.Keeps last ticks)
    {reading : Reading} (hlast : last ≤ reading.metrics.tick)
    (ascending : (ticks ++ (emitter.reply reading).map (·.tick)).Pairwise (· ≤ ·)) :
    (emitter.shown reading).Keeps reading.metrics.tick
      (ticks ++ (emitter.reply reading).map (·.tick)) := by
  have hrecent := recent_shown keeps hlast ascending
  have hconfig : (emitter.shown reading).config = emitter.config := rfl
  constructor
  · rw [hrecent]
    exact List.filter_sublist
  · intro now hnow
    rw [hrecent, hconfig, List.filter_filter]
    refine List.filter_congr fun tick _ => ?_
    -- what counts later counts already
    rw [Bool.and_eq_left_iff_imp, decide_eq_true_eq, decide_eq_true_eq]
    omega

theorem lastTick_concat (readings : List Reading) (reading : Reading) :
    lastTick (readings ++ [reading]) = reading.metrics.tick := by
  simp [lastTick]

theorem lastTick_le {reading : Reading}
    (ordered : (readings ++ [reading]).Pairwise fun a b => a.metrics.tick ≤ b.metrics.tick) :
    lastTick readings ≤ reading.metrics.tick := by
  cases hlast : readings.getLast? with
  | none => simp [lastTick, hlast]
  | some last =>
      have hle := (List.pairwise_append.mp ordered).2.2 last (List.mem_of_getLast? hlast) reading
        (List.mem_singleton_self _)
      simpa [lastTick, hlast] using hle

theorem ticks_ascending (emitter : Emitter)
    (ordered : readings.Pairwise fun a b => a.metrics.tick ≤ b.metrics.tick) :
    ((emitter.sent readings).map (·.tick)).Pairwise (· ≤ ·) :=
  List.pairwise_map.mpr (sent_ascending emitter ordered)

theorem keeps_after (config : AdaptationConfig)
    (ordered : readings.Pairwise fun a b => a.metrics.tick ≤ b.metrics.tick) :
    (({ config } : Emitter).after readings).Keeps (lastTick readings)
      ((({ config } : Emitter).sent readings).map (·.tick)) := by
  induction readings using List.reverseRecOn with
  | nil => exact ⟨.slnil, fun _ _ => rfl⟩
  | append_singleton readings reading ih =>
      have hascending := ticks_ascending { config } ordered
      rw [sent_concat, List.map_append] at hascending ⊢
      rw [after_concat, lastTick_concat]
      exact (ih (List.pairwise_append.mp ordered).1).shown (lastTick_le ordered) hascending

/-! ## How much is kept -/

theorem length_reply_le (emitter : Emitter) (reading : Reading) :
    (emitter.reply reading).length ≤ (emitter.config.rules.map (·.parameter)).toFinset.card := by
  have hsub : ((emitter.reply reading).map (·.parameter)).toFinset ⊆
      (emitter.config.rules.map (·.parameter)).toFinset := by
    rw [reply_parameters]
    intro parameter hmem
    rw [List.mem_toFinset] at hmem ⊢
    exact ((winners_sublist _ _ _).map _).subset hmem
  calc (emitter.reply reading).length
      = ((emitter.reply reading).map (·.parameter)).length := (List.length_map _).symm
    _ = ((emitter.reply reading).map (·.parameter)).toFinset.card :=
        (List.toFinset_card_of_nodup (emitter.reply_parameters_nodup reading)).symm
    _ ≤ (emitter.config.rules.map (·.parameter)).toFinset.card := Finset.card_le_card hsub

theorem count_ticks_eq_zero {signals : List Signal} (tick : Nat)
    (h : ∀ signal ∈ signals, signal.tick ≠ tick) : (signals.map (·.tick)).count tick = 0 := by
  refine List.count_eq_zero.mpr fun hmem => ?_
  obtain ⟨signal, hsignal, htick⟩ := List.mem_map.mp hmem
  exact h signal hsignal htick

theorem count_tick_le (config : AdaptationConfig)
    (strict : readings.Pairwise fun a b => a.metrics.tick < b.metrics.tick) (tick : Nat) :
    ((({ config } : Emitter).sent readings).map (·.tick)).count tick ≤
      (config.rules.map (·.parameter)).toFinset.card := by
  induction readings using List.reverseRecOn with
  | nil => exact Nat.zero_le _
  | append_singleton readings reading ih =>
      obtain ⟨hearlier, hlast⟩ := ordered_concat { config } strict
      have hnow := reply_tick (({ config } : Emitter).after readings) reading
      have hlength := length_reply_le (({ config } : Emitter).after readings) reading
      rw [after_config] at hlength
      rw [sent_concat, List.map_append, List.count_append]
      -- a tick is that of the last reading or of earlier ones, not of both
      by_cases htick : reading.metrics.tick = tick
      · have hbefore := count_ticks_eq_zero tick fun signal hsignal => by
          have := hlast signal hsignal
          omega
        have hcount := List.count_le_length (a := tick)
          (l := ((({ config } : Emitter).after readings).reply reading).map (·.tick))
        rw [List.length_map] at hcount
        rw [hbefore, Nat.zero_add]
        exact hcount.trans hlength
      · have hafter := count_ticks_eq_zero tick fun signal hsignal => by
          rw [hnow signal hsignal]
          exact htick
        rw [hafter, Nat.add_zero]
        exact ih hearlier

theorem length_le_of_window {ticks : List Nat} {most : Nat}
    (hcount : ∀ tick, ticks.count tick ≤ most)
    (hwindow : ∀ tick ∈ ticks, tick ≤ now ∧ now - tick < window) :
    ticks.length ≤ window * most := by
  have hcard : ticks.toFinset.card ≤ window := by
    rw [← Finset.card_range window]
    refine Finset.card_le_card_of_injOn (now - ·) (fun tick hmem => ?_) fun a ha b hb hsame => ?_
    · have := hwindow tick (List.mem_toFinset.mp hmem)
      simpa using this.2
    · have hle := hwindow a (List.mem_toFinset.mp ha)
      have hle' := hwindow b (List.mem_toFinset.mp hb)
      simp only at hsame
      omega
  calc ticks.length
      = ∑ tick ∈ ticks.toFinset, ticks.count tick :=
        (List.sum_toFinset_count_eq_length ticks).symm
    _ ≤ ticks.toFinset.card * most := Finset.sum_le_card_nsmul _ _ _ fun tick _ => hcount tick
    _ ≤ window * most := Nat.mul_le_mul_right most hcard

/-! ## What is counted -/

/-- How many of some signals count towards the dissonance of a tick. -/
def counting (window now : Nat) (signals : List Signal) : Nat :=
  signals.countP fun signal => signal.tick < now ∧ now - signal.tick < window

/-- An emitter that has forgotten none of some signals. -/
def unforgetting (config : AdaptationConfig) (signals : List Signal) : Emitter :=
  { config, recent := signals.map (·.tick) }

theorem counted_unforgetting (config : AdaptationConfig) (signals : List Signal) (now : Nat) :
    (unforgetting config signals).counted now = counting config.window now signals := by
  rw [unforgetting, Emitter.counted, List.countP_map, counting]
  refine List.countP_congr fun signal _ => ?_
  simp [counts]

theorem Keeps.counted {last : Nat} {signals : List Signal}
    (keeps : emitter.Keeps last (signals.map (·.tick))) (hlast : last ≤ now) :
    emitter.counted now = counting emitter.config.window now signals := by
  have hcounts : counts emitter.config.window now = fun tick =>
      decide (tick < now) && decide (now - tick < emitter.config.window) := rfl
  rw [← counted_unforgetting, Emitter.counted, Emitter.counted, unforgetting, hcounts,
    ← List.countP_filter, ← List.countP_filter, keeps.window now hlast]

theorem dissonance_congr {other : Emitter} {metrics : Metrics}
    (h : emitter.counted metrics.tick = other.counted metrics.tick) :
    emitter.dissonance metrics = other.dissonance metrics := by
  rw [dissonance, dissonance, h]

/-- What is promised of the memory of an emitter in the course of a run. -/
structure Remembered (config : AdaptationConfig) (readings : List Reading) : Prop where
  calls : ∀ earlier reading later, readings = earlier ++ reading :: later →
    (({ config } : Emitter).after earlier).counted reading.metrics.tick =
      counting config.window reading.metrics.tick (({ config } : Emitter).sent earlier)
  queries : ∀ metrics : Metrics, lastTick readings ≤ metrics.tick →
    (({ config } : Emitter).after readings).counted metrics.tick =
      counting config.window metrics.tick (({ config } : Emitter).sent readings)
  felt : ∀ earlier later, readings = earlier ++ later →
    ∀ metrics : Metrics, lastTick earlier ≤ metrics.tick →
      (({ config } : Emitter).after earlier).dissonance metrics =
        (unforgetting config (({ config } : Emitter).sent earlier)).dissonance metrics
  kept : ∀ earlier reading later, readings = earlier ++ reading :: later →
    (({ config } : Emitter).after (earlier ++ [reading])).recent =
      ((({ config } : Emitter).sent (earlier ++ [reading])).map (·.tick)).filter
        fun tick => reading.metrics.tick - tick < config.window
  ascending : ∀ earlier later, readings = earlier ++ later →
    (({ config } : Emitter).after earlier).recent.Pairwise (· ≤ ·)
  bounded : (readings.Pairwise fun a b => a.metrics.tick < b.metrics.tick) →
    ∀ earlier later, readings = earlier ++ later →
      (({ config } : Emitter).after earlier).recent.length ≤
        config.window * (config.rules.map (·.parameter)).toFinset.card

theorem recent_concat (config : AdaptationConfig) {reading : Reading}
    (ordered : (readings ++ [reading]).Pairwise fun a b => a.metrics.tick ≤ b.metrics.tick) :
    (({ config } : Emitter).after (readings ++ [reading])).recent =
      ((({ config } : Emitter).sent (readings ++ [reading])).map (·.tick)).filter
        fun tick => reading.metrics.tick - tick < config.window := by
  have keeps := keeps_after config (List.pairwise_append.mp ordered).1
  have hascending := ticks_ascending { config } ordered
  rw [sent_concat, List.map_append] at hascending ⊢
  rw [after_concat, recent_shown keeps (lastTick_le ordered) hascending, after_config]

theorem length_recent_le (config : AdaptationConfig)
    (strict : readings.Pairwise fun a b => a.metrics.tick < b.metrics.tick) :
    (({ config } : Emitter).after readings).recent.length ≤
      config.window * (config.rules.map (·.parameter)).toFinset.card := by
  induction readings using List.reverseRecOn with
  | nil => exact Nat.zero_le _
  | append_singleton readings reading _ =>
      have hrecent := recent_concat config (strict.imp Nat.le_of_lt)
      have hlast := (ordered_concat ({ config } : Emitter) strict).2
      rw [hrecent]
      have hwindow : ∀ tick ∈ ((({ config } : Emitter).sent (readings ++ [reading])).map
          (·.tick)).filter fun tick => reading.metrics.tick - tick < config.window,
          tick ≤ reading.metrics.tick ∧ reading.metrics.tick - tick < config.window := by
        intro tick hmem
        rw [List.mem_filter, decide_eq_true_eq] at hmem
        refine ⟨?_, hmem.2⟩
        obtain ⟨signal, hsignal, rfl⟩ := List.mem_map.mp hmem.1
        rw [sent_concat, List.mem_append] at hsignal
        rcases hsignal with hearlier | hnow
        · exact Nat.le_of_lt (hlast signal hearlier)
        · exact Nat.le_of_eq (reply_tick _ reading signal hnow)
      refine length_le_of_window (fun tick => ?_) hwindow
      exact (List.filter_sublist.count_le tick).trans (count_tick_le config strict tick)

theorem after_remembered (config : AdaptationConfig) (readings : List Reading)
    (ordered : readings.Pairwise fun a b => a.metrics.tick ≤ b.metrics.tick) :
    Remembered config readings := by
  have hcounted : ∀ earlier : List Reading,
      (earlier.Pairwise fun a b => a.metrics.tick ≤ b.metrics.tick) →
      ∀ now, lastTick earlier ≤ now → (({ config } : Emitter).after earlier).counted now =
        counting config.window now (({ config } : Emitter).sent earlier) := by
    intro earlier hearlier now hnow
    rw [(keeps_after config hearlier).counted hnow, after_config]
  constructor
  · intro earlier reading later hsplit
    rw [hsplit, List.append_cons] at ordered
    have hfirst := (List.pairwise_append.mp ordered).1
    exact hcounted earlier (List.pairwise_append.mp hfirst).1 _ (lastTick_le hfirst)
  · intro metrics hlast
    exact hcounted readings ordered _ hlast
  · intro earlier later hsplit metrics hlast
    rw [hsplit] at ordered
    refine dissonance_congr ?_
    rw [hcounted earlier (List.pairwise_append.mp ordered).1 _ hlast, counted_unforgetting]
  · intro earlier reading later hsplit
    rw [hsplit, List.append_cons] at ordered
    exact recent_concat config (List.pairwise_append.mp ordered).1
  · intro earlier later hsplit
    rw [hsplit] at ordered
    have hfirst := (List.pairwise_append.mp ordered).1
    exact (ticks_ascending { config } hfirst).sublist (keeps_after config hfirst).sublist
  · intro strict earlier later hsplit
    rw [hsplit] at strict
    exact length_recent_le config (List.pairwise_append.mp strict).1

/-- One rule that always speaks, one that speaks when the first has, and one that hardly ever does. -/
def restless : AdaptationConfig :=
  { rules := [⟨.all [], "a", 1, ""⟩, ⟨.dissonanceAbove 0.15, "b", 2, ""⟩, ⟨.extinct, "a", 3, ""⟩]
    window := 3 }

/-- Readings at three ticks in a row and at one some time after them. -/
def fourReadings : List Reading :=
  [1, 2, 3, 6].map fun tick => { metrics := { tick }, now := .epoch }

theorem after_remembered_restless :
    (fourReadings.Pairwise fun a b => a.metrics.tick ≤ b.metrics.tick) ∧
      Remembered restless fourReadings ∧
      (({ config := restless } : Emitter).after (fourReadings.take 3)).recent = [1, 2, 3, 3] := by
  have ordered : fourReadings.Pairwise fun a b => a.metrics.tick ≤ b.metrics.tick := by decide
  exact ⟨ordered, after_remembered restless fourReadings ordered, by decide +kernel⟩

end Emitter

end Vivarium
