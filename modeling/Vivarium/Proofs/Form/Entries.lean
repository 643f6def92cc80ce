import Vivarium.Audit.Entry
import Vivarium.Proofs.Form.Fields
import Vivarium.Proofs.Number.Words

/-!
# Entries are read as they are written

Everything in an entry but its floats comes back from the written form: texts
and truth values always, counts that fit their fields, moments that can be kept.
A float comes back where its text reads back, and an entry comes back where all
of its floats do. That is all there is to it: a text that reads back as another
float makes another entry.
-/

namespace Vivarium

open Json

namespace Descriptor

/-- The members of a descriptor after the first, which names its architecture. -/
def countMembers : Descriptor → List (String × Json)
  | .attention layers width heads =>
      [("layers", count layers), ("width", count width), ("heads", count heads)]
  | .recurrent layers width => [("layers", count layers), ("width", count width)]
  | .convolutional layers width kernel =>
      [("layers", count layers), ("width", count width), ("kernel", count kernel)]

theorem toJson_eq (d : Descriptor) :
    d.toJson = .record (("kind", d.kind.toJson) :: d.countMembers) := by
  cases d <;> rfl

theorem ofRest_countMembers (d : Descriptor) : ofRest (.record d.countMembers) d.kind = some d := by
  cases d with
  | attention | recurrent | convolutional =>
    simp [ofRest, kind, countMembers, of_record, Fields.required, Fields.get?, List.lookup_cons,
      asWord_count]

theorem ofJson_toJson (manner : Manner) (d : Descriptor) :
    Descriptor.ofJson manner d.toJson = some d := by
  have htagged : tagged "kind" d.toJson = some (d.kind.toJson, .record d.countMembers) := by
    have hreadable : readable (.record d.countMembers) = true := by
      refine readable_record ?_
      cases d <;> simp [countMembers, readable_count]
    rw [toJson_eq, tagged_record (by cases d <;> simp [countMembers]), if_pos hreadable]
  obtain ⟨position, hposition, hkind⟩ : ∃ position,
      asTag manner (Kind.all.map Kind.name) d.kind.toJson = some position ∧
        Kind.all[position]? = some d.kind := by
    cases d with
    | attention => exact ⟨0, rfl, rfl⟩
    | recurrent => exact ⟨1, rfl, rfl⟩
    | convolutional => exact ⟨2, rfl, rfl⟩
  rw [ofJson]
  refine Option.bind_eq_some_iff.mpr ⟨_, htagged, ?_⟩
  refine Option.bind_eq_some_iff.mpr ⟨_, hposition, ?_⟩
  exact Option.bind_eq_some_iff.mpr ⟨_, hkind, ofRest_countMembers d⟩

end Descriptor

theorem Descriptor.readable_toJson (d : Descriptor) : readable d.toJson = true := by
  have hkind : readable d.kind.toJson = true := rfl
  rw [Descriptor.toJson_eq]
  refine readable_record (List.forall_mem_cons.mpr ⟨hkind, ?_⟩)
  cases d <;> simp [Descriptor.countMembers, readable_count]

theorem Descriptor.fits_toJson (room : Nat) (d : Descriptor) : Fits (room + 1) d.toJson := by
  have hkind : Fits room d.kind.toJson := fits_text room d.kind.name
  rw [Descriptor.toJson_eq]
  refine fits_record (List.forall_mem_cons.mpr ⟨hkind, ?_⟩)
  cases d <;> simp [Descriptor.countMembers, Descriptor.count, fits_nat]

/-- The singles of a score. -/
def Score.singles (score : Score) : List Float32 :=
  [score.fitness, score.resonanceTerm, score.entropyTerm, score.surpriseTerm]

theorem Score.ofJson_toJson (score : Score) : Score.ofJson score.toJson = some score ↔
    ∀ x ∈ score.singles, asSingle (.single x) = some x := by
  obtain ⟨fitness, resonanceTerm, entropyTerm, surpriseTerm, fault⟩ := score
  simp [Score.ofJson, Score.toJson, of_record, Fields.required, Fields.get?, List.lookup_cons, asBool,
    Score.singles, Option.bind_eq_some_iff]

theorem Score.fits_toJson (room : Nat) (score : Score) : Fits (room + 1) score.toJson := by
  refine fits_record ?_
  simp [fits_single, fits_bool]

theorem FitnessRecord.ofJson_members (manner : Manner) (entry : FitnessRecord)
    (tick : entry.tick < wordBound) (cell : entry.cell < wordBound) :
    FitnessRecord.ofJson manner (.record entry.members) = some entry ↔
      ∀ x ∈ entry.score.singles, asSingle (.single x) = some x := by
  obtain ⟨tick, cell, descriptor, score⟩ := entry
  simp [FitnessRecord.ofJson, FitnessRecord.members, of_record, Fields.required, Fields.get?,
    List.lookup_cons, asNat_nat, tick, cell, Descriptor.ofJson_toJson, Option.bind_eq_some_iff,
    ← Score.ofJson_toJson]

/-- What is no number is written as null, and null is read as nothing. -/
theorem number_of_asSingle {x y : Float32} (h : asSingle (.single x) = some y) :
    x.isNaN = false := by
  rw [← Bool.not_eq_true]
  intro hnan
  rw [Json.single, Number.ofSingle_of_isNaN hnan] at h
  cases h

/-- A kept single comes back where its value does. -/
theorem asSingle_single_word {x : Number.Single} :
    (asSingle (.single x)).map Number.Single.of = some x ↔ asSingle (.single x) = some x.value := by
  rw [Option.map_eq_some_iff]
  constructor
  · rintro ⟨value, hvalue, rfl⟩
    rw [Number.Single.value_of] at hvalue ⊢
    exact hvalue
  · exact fun h => ⟨x.value, h, Number.Single.of_value (number_of_asSingle h)⟩

theorem LineageRecord.ofJson_members (manner : Manner) (entry : LineageRecord)
    (age : entry.survivalAge < wordBound) (observations : entry.observations < wordBound)
    (sequence : entry.sequence < wordBound) :
    LineageRecord.ofJson manner (.record entry.members) = some entry ↔
      asSingle (.single entry.meanFitness) = some entry.meanFitness.value := by
  rw [← asSingle_single_word, Option.map_eq_some_iff]
  obtain ⟨descriptor, survivalAge, meanFitness, seen, number⟩ := entry
  simp [LineageRecord.ofJson, LineageRecord.members, of_record, Fields.required, Fields.get?,
    List.lookup_cons, asNat_nat, age, observations, sequence, Descriptor.ofJson_toJson,
    Option.bind_eq_some_iff]

theorem Observation.ofJson_members (event : Observation)
    (moment : event.timestamp.Representable) :
    Observation.ofJson (.record event.members) = some event ↔
      asSingle (.single event.affect) = some event.affect := by
  obtain ⟨timestamp, source, payload, affect⟩ := event
  simp [Observation.ofJson, Observation.members, Observation.fieldNames, of_record,
    Fields.required, Fields.withDefault, Fields.get?, List.lookup_cons, asText_text,
    ofJson_toJson_timestamp moment, Option.bind_eq_some_iff]

theorem asOption_option_double (previous : Option Float) :
    asOption asDouble (.option .double previous) = some previous ↔
      ∀ x ∈ previous, asDouble (.double x) = some x := by
  cases previous with
  | none => simp [asOption, Json.option]
  | some x => simpa [Json.option] using asOption_eq_some_some rfl

theorem asOption_option_text (error : Option String) :
    asOption asText (.option .text error) = some error := by
  cases error with
  | none => rfl
  | some s => rfl

theorem Signal.ofJson_members (signal : Signal) (tick : signal.tick < wordBound)
    (moment : signal.timestamp.Representable) :
    Signal.ofJson (.record signal.members) = some signal ↔
      asDouble (.double signal.value) = some signal.value ∧
        ∀ x ∈ signal.previous, asDouble (.double x) = some x := by
  obtain ⟨tick, parameter, value, previous, reason, timestamp⟩ := signal
  simp [Signal.ofJson, Signal.members, Signal.fieldNames, of_record, Fields.required,
    Fields.optional, Fields.get?, List.lookup_cons, asNat_nat, tick, asText_text,
    ofJson_toJson_timestamp moment, Option.bind_eq_some_iff, asOption_option_double]

theorem Outcome.ofJson_members (outcome : Outcome) (tick : outcome.tick < wordBound) :
    Outcome.ofJson (.record outcome.members) = some outcome ↔
      asDouble (.double outcome.value) = some outcome.value := by
  obtain ⟨tick, parameter, value, success, error⟩ := outcome
  simp [Outcome.ofJson, Outcome.members, Outcome.fieldNames, of_record, Fields.required,
    Fields.optional, Fields.get?, List.lookup_cons, asNat_nat, tick, asText_text, asBool,
    asOption_option_text, Option.bind_eq_some_iff]

namespace AuditEntry

/-! ## The numbers in an entry -/

/-- The natural numbers in an entry. -/
def counts : AuditEntry → List Nat
  | .observation _ => []
  | .fitness record => [record.tick, record.cell]
  | .signal sent => [sent.tick]
  | .outcome result => [result.tick]
  | .lineage record => [record.survivalAge, record.observations, record.sequence]

/-- The moments in an entry. -/
def moments : AuditEntry → List Timestamp
  | .observation event => [event.timestamp]
  | .signal sent => [sent.timestamp]
  | _ => []

/-- The singles in an entry. -/
def singles : AuditEntry → List Float32
  | .observation event => [event.affect]
  | .fitness record => record.score.singles
  | .lineage record => [record.meanFitness]
  | _ => []

/-- The doubles in an entry. -/
def doubles : AuditEntry → List Float
  | .signal sent => sent.value :: sent.previous.toList
  | .outcome result => [result.value]
  | _ => []

/-- Whether the counts of an entry have 64 bits and its moments can be kept. -/
structure Storable (entry : AuditEntry) : Prop where
  counts : ∀ n ∈ entry.counts, n < wordBound
  moments : ∀ t ∈ entry.moments, t.Representable

/-- Whether the texts of all floats in an entry read back as these floats. -/
structure ReadsBack (entry : AuditEntry) : Prop where
  singles : ∀ x ∈ entry.singles, asSingle (.single x) = some x
  doubles : ∀ x ∈ entry.doubles, asDouble (.double x) = some x

theorem readable_members {entry : AuditEntry} (storable : entry.Storable)
    (back : entry.ReadsBack) : readable (.record entry.members) = true := by
  have hcounts := fun n hn => readable_nat (storable.counts n hn)
  have hsingles := fun x hx => readable_of_asSingle (back.singles x hx)
  have hdoubles := fun x hx => readable_of_asDouble (back.doubles x hx)
  refine readable_record ?_
  cases entry with
  | observation event =>
    simp only [singles, List.mem_singleton, forall_eq] at hsingles
    simp [members, Observation.members, Timestamp.toJson, readable_text, hsingles]
  | fitness record =>
    simp only [counts, List.mem_cons, forall_eq_or_imp] at hcounts
    have hscore : readable record.score.toJson = true := by
      simp only [singles, Score.singles, List.mem_cons, forall_eq_or_imp] at hsingles
      refine readable_record ?_
      simp [hsingles, readable_bool]
    simp [members, FitnessRecord.members, hcounts, Descriptor.readable_toJson, hscore]
  | signal sent =>
    simp only [counts, List.mem_singleton, forall_eq] at hcounts
    simp only [doubles, List.mem_cons, forall_eq_or_imp] at hdoubles
    have hprevious : readable (.option .double sent.previous) = true := by
      cases hprevious : sent.previous with
      | none => rfl
      | some x => exact hdoubles.2 x (by simp [hprevious])
    simp [members, Signal.members, Timestamp.toJson, readable_text, hcounts, hdoubles, hprevious]
  | outcome result =>
    simp only [counts, List.mem_singleton, forall_eq] at hcounts
    simp only [doubles, List.mem_singleton, forall_eq] at hdoubles
    have herror : readable (.option .text result.error) = true := by
      cases result.error <;> rfl
    simp [members, Outcome.members, readable_text, readable_bool, hcounts, hdoubles, herror]
  | lineage record =>
    simp only [counts, List.mem_cons, forall_eq_or_imp] at hcounts
    simp only [singles, List.mem_singleton, forall_eq] at hsingles
    simp [members, LineageRecord.members, hcounts, hsingles, Descriptor.readable_toJson]

/-! ## Entries -/

/-- What is read from the members of an entry once its kind is known. -/
def ofMembers : AuditEntry → Option AuditEntry
  | .observation event => do return .observation (← Observation.ofJson (.record event.members))
  | .fitness record => do
      return .fitness (← FitnessRecord.ofJson .held (.record record.members))
  | .signal sent => do return .signal (← Signal.ofJson (.record sent.members))
  | .outcome result => do return .outcome (← Outcome.ofJson (.record result.members))
  | .lineage record => do
      return .lineage (← LineageRecord.ofJson .held (.record record.members))

theorem ofMembers_eq_some_iff {entry : AuditEntry} (storable : entry.Storable) :
    entry.ofMembers = some entry ↔
      (∀ x ∈ entry.singles, asSingle (.single x) = some x) ∧
        ∀ x ∈ entry.doubles, asDouble (.double x) = some x := by
  have hcounts := storable.counts
  have hmoments := storable.moments
  cases entry with
  | observation event =>
    simp only [moments, List.mem_singleton, forall_eq] at hmoments
    simp [ofMembers, singles, doubles, Option.bind_eq_some_iff, Observation.ofJson_members event hmoments]
  | fitness record =>
    simp only [counts, List.mem_cons, List.not_mem_nil, or_false, forall_eq_or_imp, forall_eq] at hcounts
    simp [ofMembers, singles, doubles, Option.bind_eq_some_iff,
      FitnessRecord.ofJson_members .held record hcounts.1 hcounts.2]
  | signal sent =>
    simp only [moments, List.mem_singleton, forall_eq] at hmoments
    simp only [counts, List.mem_singleton, forall_eq] at hcounts
    simp [ofMembers, singles, doubles, Option.bind_eq_some_iff,
      Signal.ofJson_members sent hcounts hmoments]
  | outcome result =>
    simp only [counts, List.mem_singleton, forall_eq] at hcounts
    simp [ofMembers, singles, doubles, Option.bind_eq_some_iff,
      Outcome.ofJson_members result hcounts]
  | lineage record =>
    simp only [counts, List.mem_cons, List.not_mem_nil, or_false, forall_eq_or_imp, forall_eq] at hcounts
    simp [ofMembers, singles, doubles, Option.bind_eq_some_iff,
      LineageRecord.ofJson_members .held record hcounts.1 hcounts.2.1 hcounts.2.2]

/-- The position of the kind of an entry. -/
def position : AuditEntry → Nat
  | .observation _ => 0
  | .fitness _ => 1
  | .signal _ => 2
  | .outcome _ => 3
  | .lineage _ => 4

theorem asTag_kind (entry : AuditEntry) :
    asTag .direct kinds (.text entry.kind) = some entry.position := by
  cases entry <;> simp [asTag, Json.text, position?, kinds, kind, position, List.findIdx?_cons]

theorem ofJson_toJson_eq (entry : AuditEntry) : AuditEntry.ofJson entry.toJson =
    if readable (.record entry.members) then entry.ofMembers else none := by
  have htagged : tagged "entry" entry.toJson = if readable (.record entry.members) then
      some (.text entry.kind, .record entry.members) else none := by
    refine tagged_record ?_
    cases entry <;> simp [members, Observation.members, FitnessRecord.members, Signal.members,
      Outcome.members, LineageRecord.members]
  rw [ofJson, htagged]
  split
  · simp only [Option.bind_eq_bind, Option.bind_some, asTag_kind]
    cases entry <;> rfl
  · rfl

theorem ofJson_toJson {entry : AuditEntry} (storable : entry.Storable) :
    AuditEntry.ofJson entry.toJson = some entry ↔ entry.ReadsBack := by
  have hmembers := ofMembers_eq_some_iff storable
  rw [ofJson_toJson_eq]
  constructor
  · intro h
    split at h
    · obtain ⟨singles, doubles⟩ := hmembers.mp h
      exact ⟨singles, doubles⟩
    · cases h
  · intro back
    rw [if_pos (readable_members storable back)]
    exact hmembers.mpr ⟨back.singles, back.doubles⟩

/-! ## Nesting -/

theorem fits_toJson (entry : AuditEntry) : Fits deepest entry.toJson := by
  have hmembers : ∀ m ∈ entry.members, Fits (125 + 1) m.2 := by
    cases entry with
    | observation event =>
      simp [members, Observation.members, Timestamp.toJson, fits_text, fits_single]
    | fitness record =>
      simp [members, FitnessRecord.members, fits_nat, Descriptor.fits_toJson, Score.fits_toJson]
    | signal sent =>
      have hprevious : Fits (125 + 1) (.option .double sent.previous) := by
        cases sent.previous with
        | none => trivial
        | some x => exact fits_double _ x
      simp [members, Signal.members, Timestamp.toJson, fits_nat, fits_text, fits_double, hprevious]
    | outcome result =>
      have herror : Fits (125 + 1) (.option .text result.error) := by
        cases result.error with
        | none => trivial
        | some s => exact fits_text _ s
      simp [members, Outcome.members, fits_nat, fits_text, fits_bool, fits_double, herror]
    | lineage record =>
      simp [members, LineageRecord.members, fits_nat, Descriptor.fits_toJson, fits_single]
  exact fits_record (List.forall_mem_cons.mpr ⟨fits_text _ entry.kind, hmembers⟩)

end AuditEntry

end Vivarium
