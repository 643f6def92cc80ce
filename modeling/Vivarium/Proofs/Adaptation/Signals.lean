import Vivarium.Adaptation.Emitter
import Vivarium.Proofs.Adaptation.Speakers

/-!
# What an emitter sends in the course of a run

At each reading an emitter sends one signal for every rule that speaks, in the
order of the rules. A signal says what its rule says and which value was sent
for its parameter before. That value the emitter looks up in what it remembers,
and what it remembers after any number of readings is, for each parameter, the
value of the latest signal sent for it. A reading is answered from what was
remembered before it and is remembered afterwards, so that the one statement
about what is remembered gives the other about what is sent.
-/

namespace Vivarium

namespace Emitter

variable {emitter : Emitter}

/-- The value of the latest of some signals for a parameter. -/
def latestValue (signals : List Signal) (parameter : String) : Option Float :=
  (signals.filter (·.parameter == parameter)).getLast?.map (·.value)

theorem latestValue_append (earlier later : List Signal) (parameter : String) :
    latestValue (earlier ++ later) parameter =
      (latestValue later parameter).or (latestValue earlier parameter) := by
  rw [latestValue, List.filter_append, List.getLast?_append, Option.map_or]
  rfl

/-! ## What is remembered -/

theorem lookup_filter_ne (latest : List (String × Float)) {parameter other : String}
    (h : parameter ≠ other) :
    (latest.filter (·.1 != other)).lookup parameter = latest.lookup parameter := by
  induction latest with
  | nil => rfl
  | cons entry rest ih =>
      by_cases hkept : entry.1 = other
      · have hne : (parameter == entry.1) = false := by
          rw [hkept]
          exact beq_false_of_ne h
        rw [List.filter_cons_of_neg (by simp [hkept]), ih, List.lookup_cons, hne]
      · rw [List.filter_cons_of_pos (by simp [hkept]), List.lookup_cons, List.lookup_cons, ih]

theorem lookup_remember (latest : List (String × Float)) (signal : Signal) (parameter : String) :
    (remember latest signal).lookup parameter =
      (latestValue [signal] parameter).or (latest.lookup parameter) := by
  rw [remember, List.lookup_cons, latestValue]
  by_cases h : signal.parameter = parameter
  · simp [h]
  · have hne : (parameter == signal.parameter) = false := beq_false_of_ne (Ne.symm h)
    rw [hne, lookup_filter_ne latest (Ne.symm h)]
    simp [h]

theorem lookup_foldl_remember (latest : List (String × Float)) (signals : List Signal)
    (parameter : String) :
    (signals.foldl remember latest).lookup parameter =
      (latestValue signals parameter).or (latest.lookup parameter) := by
  induction signals using List.reverseRecOn with
  | nil => rfl
  | append_singleton signals signal ih =>
      rw [List.foldl_append, List.foldl_cons, List.foldl_nil, lookup_remember, ih,
        latestValue_append, Option.or_assoc]

/-! ## What is sent -/

theorem reply_parameters (emitter : Emitter) (reading : Reading) :
    (emitter.reply reading).map (·.parameter) =
      (winners reading.metrics (emitter.dissonance reading.metrics) emitter.config.rules).map
        (·.parameter) := by
  show List.map _ (List.map _ _) = _
  rw [List.map_map]
  rfl

theorem reply_parameters_nodup (emitter : Emitter) (reading : Reading) :
    ((emitter.reply reading).map (·.parameter)).Nodup := by
  rw [reply_parameters]
  exact winners_parameters_nodup _ _ _

theorem reply_tick (emitter : Emitter) (reading : Reading) :
    ∀ signal ∈ emitter.reply reading, signal.tick = reading.metrics.tick := by
  intro signal hsignal
  obtain ⟨rule, -, rfl⟩ := List.mem_map.mp hsignal
  rfl

/-! ## The run -/

theorem after_concat (emitter : Emitter) (readings : List Reading) (reading : Reading) :
    emitter.after (readings ++ [reading]) = (emitter.after readings).shown reading := by
  rw [after, List.foldl_append]
  rfl

theorem sent_concat (emitter : Emitter) (readings : List Reading) (reading : Reading) :
    emitter.sent (readings ++ [reading]) =
      emitter.sent readings ++ (emitter.after readings).reply reading := by
  induction readings generalizing emitter with
  | nil => simp [sent, after]
  | cons first rest ih =>
      rw [List.cons_append, sent, ih, sent, List.append_assoc]
      rfl

theorem after_config (emitter : Emitter) (readings : List Reading) :
    (emitter.after readings).config = emitter.config := by
  induction readings using List.reverseRecOn with
  | nil => rfl
  | append_singleton readings reading ih =>
      rw [after_concat]
      exact ih

theorem last?_shown (emitter : Emitter) (reading : Reading) (parameter : String) :
    (emitter.shown reading).last? parameter =
      (latestValue (emitter.reply reading) parameter).or (emitter.last? parameter) :=
  lookup_foldl_remember emitter.latest (emitter.reply reading) parameter

theorem last?_after (config : AdaptationConfig) (readings : List Reading) (parameter : String) :
    (({ config } : Emitter).after readings).last? parameter =
      latestValue (({ config } : Emitter).sent readings) parameter := by
  induction readings using List.reverseRecOn with
  | nil => rfl
  | append_singleton readings reading ih =>
      rw [after_concat, last?_shown, ih, sent_concat, latestValue_append]

/-- What is promised of the signals sent at a reading, given those sent earlier and the positions
of the rules that speak. -/
structure Spoken (rules : List Rule) (dissonance : Float32) (reading : Reading)
    (earlier sent : List Signal) (positions : List Nat) : Prop where
  ascending : positions.Pairwise (· < ·)
  speakers : ∀ position, position ∈ positions ↔
    ∃ rule, Speaks reading.metrics dissonance rules position rule
  signals : List.Forall₂ (fun position signal =>
    ∃ rule, Speaks reading.metrics dissonance rules position rule ∧
      signal = { tick := reading.metrics.tick
                 parameter := rule.parameter
                 value := rule.value
                 previous := latestValue earlier rule.parameter
                 reason := rule.reason
                 timestamp := reading.now }) positions sent
  distinct : (sent.map (·.parameter)).Nodup
  unordered : ∀ entries, Lists (noted reading.metrics dissonance rules) entries →
    (entries.map (·.2)).mergeSort = positions
  listed : ∃ entries, Lists (noted reading.metrics dissonance rules) entries

theorem reply_spoken (config : AdaptationConfig) (readings : List Reading) (reading : Reading) :
    (∃ positions, Spoken config.rules
      ((({ config } : Emitter).after readings).dissonance reading.metrics) reading
      (({ config } : Emitter).sent readings)
      ((({ config } : Emitter).after readings).reply reading) positions) ∧
    ∀ parameter, (({ config } : Emitter).after readings).last? parameter =
      latestValue (({ config } : Emitter).sent readings) parameter := by
  refine ⟨?_, last?_after config readings⟩
  have hlast := last?_after config readings
  have hconfig : (({ config } : Emitter).after readings).config = config :=
    after_config _ readings
  generalize ({ config } : Emitter).sent readings = earlier at hlast ⊢
  generalize ({ config } : Emitter).after readings = emitter at hlast hconfig ⊢
  subst hconfig
  obtain ⟨positions, hascending, hmem, hspeak⟩ := winners_speak reading.metrics
    (emitter.dissonance reading.metrics) emitter.config.rules
  refine ⟨positions, hascending, hmem, ?_, emitter.reply_parameters_nodup reading,
    fun entries lists => sorted_positions lists hascending hmem, exists_listing _ _ _⟩
  show List.Forall₂ _ positions (List.map _ _)
  rw [List.forall₂_map_right_iff]
  refine hspeak.imp fun position rule hspeaks => ⟨rule, hspeaks, ?_⟩
  rw [signalOf, hlast]

/-- Of two rules for one parameter the later one speaks, and signals keep the order of the rules. -/
example :
    let rules : List Rule := [⟨.all [], "a", 1, ""⟩, ⟨.all [], "b", 2, ""⟩, ⟨.all [], "a", 3, ""⟩,
      ⟨.any [.extinct, .all [.degraded]], "a", 4, ""⟩]
    (({ config := { rules } } : Emitter).reply ⟨{ tick := 1 }, .epoch⟩).map (·.parameter) =
      ["b", "a"] := by
  decide +kernel

end Emitter

end Vivarium
