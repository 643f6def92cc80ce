import Vivarium.Form.Omission
import Vivarium.Proofs.Form.Conditions
import Vivarium.Proofs.Form.Entries

/-!
# Configurations are read as they are written

Every setting of a configuration is written under its own name, so each is read
where it was written, and one that has been taken out of the text is not found
and takes its standard value. That standard value is named twice, by the reader
of the setting and by the section that it belongs to, and a section that is
missing as a whole takes all of them at once; the two agree for every setting.

What is left out leaves the rest alone: taking members out of an object keeps
the names of the others apart, and makes no value deeper. Apart from the floats,
whose texts have to read back, only the depth of the conditions in the rules can
keep a configuration from coming back.
-/

namespace Vivarium

open Json

/-! ## Members that are left out -/

namespace Json

theorem without_record (gone : String → Bool) (ms : List (String × Json)) :
    (record ms).without gone = record (ms.filter fun m => !gone m.1) := by
  rw [record, without, record, List.filter_map]
  rfl

theorem lookup_without (gone : String → Bool) (ms : List (String × Json)) (name : String) :
    (ms.filter fun m => !gone m.1).lookup name = if gone name then none else ms.lookup name := by
  induction ms with
  | nil => simp
  | cons m ms ih =>
      obtain ⟨key, value⟩ := m
      by_cases hkey : key = name
      · subst hkey
        by_cases hgone : gone key = true <;> simp [hgone, ih]
      · have hother : (name == key) = false := by simpa using fun h => hkey h.symm
        by_cases hgone : gone key = true <;> simp [hgone, ih, List.lookup_cons, hother]

/-- The fields of a record without those that are gone. -/
def Fields.without (gone : String → Bool) (fields : Fields) : Fields :=
  { fields with found := fields.found.filter fun m => !gone m.1 }

theorem of_without {names : List String} {ms : List (String × Json)}
    (hnames : ms.map (·.1) = names) (nodup : names.Nodup) (gone : String → Bool) :
    Fields.of names ((record ms).without gone) =
      some (Fields.without gone { ordered := false, found := ms }) := by
  rw [without_record]
  refine of_record_of_known (fun m hm => ?_) ?_
  · rw [← hnames]
    exact List.mem_map_of_mem (List.mem_of_mem_filter hm)
  · exact (hnames ▸ nodup).sublist (List.filter_sublist.map _)

/-- A field that is gone takes its fallback, and one that is not is read as before. -/
theorem withDefault_without {α : Type} (gone : String → Bool) (fields : Fields) (name : String)
    (fallback : α) (read : Json → Option α) :
    (fields.without gone).withDefault name fallback read =
      if gone name then some fallback else (fields.get? name).elim (some fallback) read := by
  rw [Fields.withDefault, Fields.get?, Fields.without, lookup_without]
  by_cases hgone : gone name = true
  · rw [if_pos hgone, if_pos hgone]
  · rw [if_neg hgone, if_neg hgone, Fields.get?]
    cases fields.found.lookup name <;> rfl

end Json

/-! ## Sections -/

theorem Span.ofJson_toJson (span : Span) : Span.ofJson span.toJson = some span := by
  simp [Span.ofJson, Span.toJson, asPair, asWord_count]

theorem Kind.ofJson_toJson (kind : Kind) : Kind.ofJson kind.toJson = some kind := by
  cases kind <;> rfl

theorem asOption_option_nat {seed : Option Nat} (h : ∀ n ∈ seed, n < wordBound) :
    asOption asNat (.option .nat seed) = some seed := by
  cases seed with
  | none => rfl
  | some n => exact (asOption_eq_some_some rfl).mpr (asNat_nat (h n rfl))

section

variable (gone : String → Bool)

theorem PopulationConfig.ofJson_without {config : PopulationConfig}
    (initial : config.initialSize < wordBound) (max : config.maxSize < wordBound)
    (batch : config.batchSize < wordBound) :
    PopulationConfig.ofJson (config.toJson.without gone) = some (config.without gone) := by
  simp [PopulationConfig.ofJson, toJson, of_without, withDefault_without, Fields.get?,
    List.lookup_cons, asNat_nat, initial, max, batch, ← apply_ite some, PopulationConfig.without]

theorem SelectionConfig.ofJson_without {config : SelectionConfig}
    (death : asSingle (.single config.death) = some config.death)
    (birth : asSingle (.single config.birth) = some config.birth) :
    SelectionConfig.ofJson (config.toJson.without gone) = some (config.without gone) := by
  simp [SelectionConfig.ofJson, toJson, of_without, withDefault_without, Fields.get?,
    List.lookup_cons, death, birth, ← apply_ite some, SelectionConfig.without]

theorem Weights.ofJson_toJson {weights : Weights}
    (resonance : asSingle (.single weights.resonance) = some weights.resonance)
    (entropy : asSingle (.single weights.entropy) = some weights.entropy)
    (surprise : asSingle (.single weights.surprise) = some weights.surprise) :
    Weights.ofJson weights.toJson = some weights := by
  simp [Weights.ofJson, toJson, of_record, Fields.required, Fields.get?, List.lookup_cons,
    resonance, entropy, surprise]

theorem FitnessConfig.ofJson_without {config : FitnessConfig}
    (weights : Weights.ofJson config.weights.toJson = some config.weights)
    (target : asSingle (.single config.targetEntropy) = some config.targetEntropy) :
    FitnessConfig.ofJson (config.toJson.without gone) = some (config.without gone) := by
  simp [FitnessConfig.ofJson, toJson, of_without, withDefault_without, Fields.get?,
    List.lookup_cons, weights, target, ← apply_ite some, FitnessConfig.without]

theorem MutationConfig.ofJson_without {config : MutationConfig}
    (bias : asSingle (.single config.bias) = some config.bias)
    (structural : asSingle (.single config.structural) = some config.structural) :
    MutationConfig.ofJson (config.toJson.without gone) = some (config.without gone) := by
  simp [MutationConfig.ofJson, toJson, of_without, withDefault_without, Fields.get?,
    List.lookup_cons, bias, structural, ← apply_ite some, MutationConfig.without]

theorem Bounds.ofJson_without (bounds : Bounds) :
    Bounds.ofJson (bounds.toJson.without gone) = some (bounds.without gone) := by
  have hheads : asList asWord (.array (bounds.heads.map Descriptor.count)) = some bounds.heads :=
    asList_array_map fun n _ => asWord_count n
  have hkinds : asList Kind.ofJson (.array (bounds.kinds.map Kind.toJson)) = some bounds.kinds :=
    asList_array_map fun kind _ => kind.ofJson_toJson
  simp [Bounds.ofJson, toJson, of_without, withDefault_without, Fields.get?, List.lookup_cons,
    Span.ofJson_toJson, hheads, hkinds, ← apply_ite some, Bounds.without]

theorem LineageConfig.ofJson_without {config : LineageConfig}
    (capacity : config.capacity < wordBound) (age : config.survivalAge < wordBound)
    (cutoff : asSingle (.single config.cutoff) = some config.cutoff) :
    LineageConfig.ofJson (config.toJson.without gone) = some (config.without gone) := by
  simp [LineageConfig.ofJson, toJson, of_without, withDefault_without, Fields.get?,
    List.lookup_cons, asNat_nat, capacity, age, cutoff, ← apply_ite some, LineageConfig.without]

theorem AdaptationConfig.ofJson_without {config : AdaptationConfig}
    (rules : ∀ rule ∈ config.rules, Rule.ofJson rule.toJson = some rule)
    (window : config.window < wordBound) :
    AdaptationConfig.ofJson (config.toJson.without gone) = some (config.without gone) := by
  simp [AdaptationConfig.ofJson, toJson, of_without, withDefault_without, Fields.get?,
    List.lookup_cons, asNat_nat, window, asList_array_map rules, ← apply_ite some,
    AdaptationConfig.without]

theorem ScheduleConfig.ofJson_without {config : ScheduleConfig}
    (period : config.period < wordBound) (feed : config.feedCapacity < wordBound)
    (signal : config.signalCapacity < wordBound) :
    ScheduleConfig.ofJson (config.toJson.without gone) = some (config.without gone) := by
  simp [ScheduleConfig.ofJson, toJson, of_without, withDefault_without, Fields.get?,
    List.lookup_cons, asNat_nat, period, feed, signal, ← apply_ite some, ScheduleConfig.without]

theorem AuditConfig.ofJson_without {config : AuditConfig}
    (entries : config.replayEntries < wordBound) :
    AuditConfig.ofJson (config.toJson.without gone) = some (config.without gone) := by
  simp [AuditConfig.ofJson, toJson, of_without, withDefault_without, Fields.get?,
    List.lookup_cons, asNat_nat, entries, asBool, asOption_option_text, ← apply_ite some,
    AuditConfig.without]

end

/-! ## Whole configurations -/

namespace FieldConfig

/-- The natural numbers in a configuration that are written with 64 bits. -/
def counts (config : FieldConfig) : List Nat :=
  [config.population.initialSize, config.population.maxSize, config.population.batchSize,
    config.lineage.capacity, config.lineage.survivalAge, config.adaptation.window,
    config.schedule.period, config.schedule.feedCapacity, config.schedule.signalCapacity,
    config.audit.replayEntries] ++
  config.seed.toList ++ config.adaptation.rules.flatMap (·.condition.counts)

/-- The singles in a configuration. -/
def singles (config : FieldConfig) : List Float32 :=
  [config.selection.death, config.selection.birth, config.fitness.weights.resonance,
    config.fitness.weights.entropy, config.fitness.weights.surprise, config.fitness.targetEntropy,
    config.mutation.bias, config.mutation.structural, config.lineage.cutoff] ++
  config.adaptation.rules.flatMap (·.condition.singles)

/-- The doubles in a configuration. -/
def doubles (config : FieldConfig) : List Float :=
  config.adaptation.rules.map (·.value)

/-- Whether the texts of all floats in a configuration read back as these floats. -/
structure ReadsBack (config : FieldConfig) : Prop where
  singles : ∀ x ∈ config.singles, asSingle (.single x) = some x
  doubles : ∀ x ∈ config.doubles, asDouble (.double x) = some x

theorem cut_record (omission : Omission) (ms : List (String × Json)) :
    (record ms).cut omission =
      (record (ms.map fun (name, value) =>
        (name, value.without (omission.settings name)))).without omission.sections := by
  rw [record, cut, record, List.map_map, List.map_map]
  rfl

theorem without_option_nat (gone : String → Bool) (seed : Option Nat) :
    (Json.option .nat seed).without gone = .option .nat seed := by
  cases seed <;> rfl

theorem nesting_rule_le {config : FieldConfig} (shallow : config.toJson.nesting ≤ deepest) :
    ∀ rule ∈ config.adaptation.rules, rule.toJson.nesting ≤ deepest := by
  intro rule hrule
  have hadaptation := nesting_le_of_mem_record (Nat.le_succ_of_le shallow)
    ("adaptation", config.adaptation.toJson) (by simp)
  have hrules := nesting_le_of_mem_record (Nat.le_succ_of_le hadaptation)
    ("rules", .array (config.adaptation.rules.map Rule.toJson)) (by simp)
  exact nesting_le_of_mem_array (Nat.le_succ_of_le hrules) _ (List.mem_map_of_mem hrule)

theorem ofJson_cut (omission : Omission) {config : FieldConfig}
    (storable : ∀ n ∈ config.counts, n < wordBound) (back : config.ReadsBack)
    (shallow : config.toJson.nesting ≤ deepest) :
    FieldConfig.ofJson (config.toJson.cut omission) = some (config.without omission) := by
  obtain ⟨singles, doubles⟩ := back
  simp only [counts, FieldConfig.singles, FieldConfig.doubles, List.forall_mem_append,
    List.forall_mem_cons, List.forall_mem_flatMap, List.forall_mem_map, Option.mem_toList]
    at storable singles doubles
  obtain ⟨⟨hcounts, hseed⟩, hconditions⟩ := storable
  have hrules : ∀ rule ∈ config.adaptation.rules, Rule.ofJson rule.toJson = some rule :=
    fun rule hrule => Rule.ofJson_toJson (hconditions rule hrule) (singles.2 rule hrule)
      (doubles rule hrule) (nesting_rule_le shallow rule hrule)
  have hadaptation := AdaptationConfig.ofJson_without (omission.settings "adaptation") hrules
    hcounts.2.2.2.2.2.1
  simp [FieldConfig.ofJson, toJson, cut_record, of_without, withDefault_without, Fields.get?,
    List.lookup_cons, PopulationConfig.ofJson_without, SelectionConfig.ofJson_without,
    FitnessConfig.ofJson_without, Weights.ofJson_toJson, MutationConfig.ofJson_without,
    Bounds.ofJson_without, LineageConfig.ofJson_without, hadaptation,
    ScheduleConfig.ofJson_without, AuditConfig.ofJson_without, without_option_nat,
    asOption_option_nat hseed, hcounts, singles, ← apply_ite some, FieldConfig.without]

/-! ## Texts -/

theorem whole_toJson (config : FieldConfig) : Whole config.toJson := by
  have hspan (span : Span) : Whole span.toJson :=
    whole_array (by simp [Descriptor.count, whole_nat])
  have hpath : Whole (.option .text config.audit.path) := by
    cases config.audit.path with
    | none => exact whole_null
    | some path => exact whole_text path
  have hseed : Whole (.option .nat config.seed) := by
    cases config.seed with
    | none => exact whole_null
    | some seed => exact whole_nat seed
  have hrules : Whole (.array (config.adaptation.rules.map Rule.toJson)) :=
    whole_array (by simp [Rule.whole_toJson])
  have hheads : Whole (.array (config.bounds.heads.map Descriptor.count)) :=
    whole_array (by simp [Descriptor.count, whole_nat])
  have hkinds : Whole (.array (config.bounds.kinds.map Kind.toJson)) :=
    whole_array (by simp [Kind.toJson, whole_text])
  refine whole_record ?_
  simp only [List.forall_mem_cons]
  refine ⟨whole_record ?_, whole_record ?_, whole_record ?_, whole_record ?_, whole_record ?_,
    whole_record ?_, whole_record ?_, whole_record ?_, whole_record ?_, hseed, by simp⟩
  all_goals simp [whole_nat, whole_single, whole_bool, hspan, hpath, hrules, hheads, hkinds]
  exact whole_record (by simp [whole_single])

end FieldConfig

namespace Json

theorem fits_without {room : Nat} (gone : String → Bool) {j : Json} (h : Fits room j) :
    Fits room (j.without gone) := by
  cases j with
  | object ms =>
      refine ⟨h.1, (fitsMembers_iff _).mpr fun m hm => ?_⟩
      exact (fitsMembers_iff ms).mp h.2 m (List.mem_of_mem_filter hm)
  | null | bool | number | string | array | buried => exact h

theorem fits_cut {room : Nat} (omission : Omission) {j : Json} (h : Fits room j) :
    Fits room (j.cut omission) := by
  cases j with
  | object ms =>
      refine fits_without omission.sections (j := .object _) ⟨h.1, (fitsMembers_iff _).mpr ?_⟩
      rw [List.forall_mem_map]
      intro m hm
      obtain ⟨hkey, hvalue⟩ := (fitsMembers_iff ms).mp h.2 m hm
      exact ⟨hkey, fits_without _ hvalue⟩
  | null | bool | number | string | array | buried => exact h

theorem without_false (j : Json) : j.without (fun _ => false) = j := by
  cases j with
  | object ms => simp [without]
  | null | bool | number | string | array | buried => rfl

theorem cut_nothing (j : Json) : j.cut .nothing = j := by
  cases j with
  | object ms => simp [cut, Omission.nothing, without_false]
  | null | bool | number | string | array | buried => rfl

end Json

namespace FieldConfig

/-- Whether all floats in a configuration are finite. -/
structure Finite (config : FieldConfig) : Prop where
  singles : ∀ x ∈ config.singles, x.isFinite = true
  doubles : ∀ x ∈ config.doubles, x.isFinite = true

/-- Whether the texts of the finite floats in a configuration read back as these floats. -/
structure Faithful (config : FieldConfig) : Prop where
  singles : ∀ x ∈ config.singles, x.isFinite = true → asSingle (.single x) = some x
  doubles : ∀ x ∈ config.doubles, x.isFinite = true → asDouble (.double x) = some x

theorem readsBack {config : FieldConfig} (finite : config.Finite) (faithful : config.Faithful) :
    config.ReadsBack where
  singles x hx := faithful.singles x hx (finite.singles x hx)
  doubles x hx := faithful.doubles x hx (finite.doubles x hx)

theorem without_nothing (config : FieldConfig) : config.without .nothing = config :=
  rfl

theorem text_round_trip (config : FieldConfig) (storable : ∀ n ∈ config.counts, n < wordBound)
    (finite : config.Finite) (faithful : config.Faithful)
    (shallow : config.toJson.nesting ≤ deepest) :
    (parse config.toJson.compact >>= FieldConfig.ofJson) = some config ∧
      ∀ omission : Omission, (parse (config.toJson.cut omission).compact >>= FieldConfig.ofJson) =
        some (config.without omission) := by
  have back := readsBack finite faithful
  have hfits := config.whole_toJson deepest shallow
  have hcut (omission : Omission) :
      (parse (config.toJson.cut omission).compact >>= FieldConfig.ofJson) =
        some (config.without omission) := by
    rw [parse_compact (fits_cut omission hfits)]
    exact ofJson_cut omission storable back shallow
  have hall := hcut .nothing
  rw [cut_nothing, without_nothing] at hall
  exact ⟨hall, hcut⟩

/-- A configuration with a rule on nested conditions, a path and a seed of 64 bits. -/
def sample : FieldConfig :=
  { selection := { death := 0.25, birth := 0.75 }
    adaptation :=
      { rules :=
          [ { condition := .all [.any [.extinct, .populationBelow 3], .diversityBelow 0.2]
              parameter := "depth"
              value := 1.5
              reason := "few \"cells\"\nleft" } ]
        window := 7 }
    audit := { path := some "audit.jsonl" }
    seed := some 18446744073709551615 }

theorem text_round_trip_sample : (∀ n ∈ sample.counts, n < wordBound) ∧ sample.Finite ∧
    sample.Faithful ∧ sample.toJson.nesting ≤ deepest ∧
    (parse sample.toJson.compact >>= FieldConfig.ofJson) = some sample ∧
      ∀ omission : Omission, (parse (sample.toJson.cut omission).compact >>= FieldConfig.ofJson) =
        some (sample.without omission) := by
  have storable : ∀ n ∈ sample.counts, n < wordBound := by decide +kernel
  have finite : sample.Finite := ⟨by decide +kernel, by decide +kernel⟩
  have faithful : sample.Faithful := ⟨by decide +kernel, by decide +kernel⟩
  have shallow : sample.toJson.nesting ≤ deepest := by decide +kernel
  exact ⟨storable, finite, faithful, shallow,
    text_round_trip sample storable finite faithful shallow⟩

end FieldConfig

end Vivarium
