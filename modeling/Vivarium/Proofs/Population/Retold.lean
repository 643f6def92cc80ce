import Vivarium.Audit.Recorder
import Vivarium.Proofs.Context.Arrival
import Vivarium.Proofs.Population.Fed

/-!
# What a tick accepted tells another population the same

A log holds the observations that the ticks accepted, not those that the feed
gave. That is enough. Accepted observations are in the order of time, finite and
in range, so accepting them once more changes nothing, and the sums over them are
taken in the same order. A population that is given them instead of the batch
they came from comes to the same context, whatever its own settings, cells and
past; it only must not cut them off.

A tick that accepted nothing is the exception. It left its population with the
context that it had, and there is nothing in what it accepted that could tell
another one which that was.
-/

namespace Vivarium

/-- The observation that an entry tells of. -/
def AuditEntry.observation? : AuditEntry → Option Observation
  | .observation event => some event
  | _ => none

theorem TickReport.filterMap_observation?_entries (report : TickReport) :
    report.entries.filterMap AuditEntry.observation? = report.observations := by
  have hobservations : report.observations.filterMap
      (AuditEntry.observation? ∘ AuditEntry.observation) = report.observations :=
    List.filterMap_some
  have hfitness : report.fitness.filterMap (AuditEntry.observation? ∘ AuditEntry.fitness) = [] :=
    List.filterMap_eq_nil_iff.mpr fun _ _ => rfl
  have hlineage : report.lineage.filterMap (AuditEntry.observation? ∘ AuditEntry.lineage) = [] :=
    List.filterMap_eq_nil_iff.mpr fun _ _ => rfl
  rw [entries, List.filterMap_append, List.filterMap_append, List.filterMap_map,
    List.filterMap_map, List.filterMap_map, hobservations, hfitness, hlineage, List.append_nil,
    List.append_nil]

theorem Context.ofBatch_accept (batch : List Observation) :
    ofBatch (accept batch) = ofBatch batch := by
  unfold ofBatch
  rw [(fit_accept batch).accept_eq]

/-! ## What is taken in -/

namespace Ingest

theorem observations_of (batchSize : Nat) (context : Context) (poll : Poll) :
    (Ingest.of batchSize context poll).observations =
      Context.accept (poll.batch.take batchSize) := by
  cases poll with
  | ok batch => rfl
  | error cause =>
      rw [Poll.batch, List.take_nil]
      exact (Context.accept_eq_nil fun _ h => absurd h List.not_mem_nil).symm

/-- The context is what the observations that were accepted come to, and nothing else of the poll,
unless none was accepted. -/
theorem context_of_accepted (batchSize : Nat) (context : Context) (poll : Poll) :
    (Ingest.of batchSize context poll).context =
      if (Ingest.of batchSize context poll).observations = [] then context
      else Context.ofAccepted (Ingest.of batchSize context poll).observations := by
  cases poll with
  | ok batch =>
      rw [Ingest.of, Context.ofBatch]
      cases Context.accept (batch.take batchSize) with
      | nil => rfl
      | cons event events => rfl
  | error cause => rfl

end Ingest

namespace Population

variable {population next other : Population} {poll : Poll} {report : TickReport}

/-- How the answer of a tick that was given what another one accepted compares with the answer of
that one. -/
structure Retells (own : Population) (told retold : TickReport × Population) : Prop where
  observations : retold.1.observations = told.1.observations
  context : told.1.observations ≠ [] → retold.2.context = told.2.context
  nothing : told.1.observations = [] → retold.2.context = own.context

theorem retells_of_ticks {again : TickReport} {after : Population}
    (told : population.tick poll = .ok (report, next))
    (retold : other.tick (.ok report.observations) = .ok (again, after))
    (room : report.observations.length ≤ other.config.population.batchSize) :
    other.Retells (report, next) (again, after) := by
  obtain ⟨hreport, hnext⟩ := ingest_of_tick told
  obtain ⟨hagain, hafter⟩ := ingest_of_tick retold
  rw [Ingest.context_of_accepted, ← hreport] at hnext
  rw [Ingest.context_of_accepted, ← hagain] at hafter
  have hfit : Context.Fit report.observations := by
    rw [hreport, Ingest.observations_of]
    exact Context.fit_accept _
  have hsame : again.observations = report.observations := by
    rw [hagain, Ingest.observations_of, Poll.batch, List.take_of_length_le room, hfit.accept_eq]
  rw [hsame] at hafter
  refine ⟨hsame, fun hsome => ?_, fun hnone => ?_⟩
  · rw [if_neg hsome] at hnext hafter
    exact hafter.trans hnext.symm
  · rw [if_pos hnone] at hafter
    exact hafter

/-- The accepted observations of a batch give the context of the batch again, and are accepted
again; so a tick that is given what another tick accepted comes to the same context. -/
theorem accepted_retold :
    (∀ batch context accepted, Context.ofBatch batch = (some context, accepted) →
      Context.ofBatch accepted = (some context, accepted)) ∧
    ∀ (population next : Population) (poll : Poll) (report : TickReport),
      population.tick poll = .ok (report, next) →
      report.entries.filterMap AuditEntry.observation? = report.observations ∧
      ∀ (config : FieldConfig) (interpret : Interpreter) (source : Random.Source)
        (calls : List Call) (other : Population), config.check = .ok () →
        (fresh config interpret source).run calls = .ok other →
        report.observations.length ≤ config.population.batchSize →
        ∃ again after, other.tick (.ok report.observations) = .ok (again, after) ∧
          other.Retells (report, next) (again, after) := by
  refine ⟨fun batch context accepted h => ?_, fun population next poll report told => ?_⟩
  · have haccepted : Context.accept batch = accepted := congrArg Prod.snd h
    rw [← haccepted, Context.ofBatch_accept, h, haccepted]
  · refine ⟨report.filterMap_observation?_entries, ?_⟩
    intro config interpret source calls other accepted reached room
    obtain ⟨again, after, retold⟩ :=
      exists_tick (sound_of_run accepted reached) (.ok report.observations)
    rw [← config_of_run accepted reached] at room
    exact ⟨again, after, retold, retells_of_ticks told retold room⟩

/-- A field that takes three observations at a time, which is all that it is told. -/
def listener : FieldConfig :=
  { population := { batchSize := 3 } }

theorem accepted_retold_tangled :
    (∃ context events, Context.ofBatch Context.tangled = (some context, events) ∧
      Context.ofBatch events = (some context, events)) ∧
    ∃ report next other again after,
      (fresh {} (fun _ _ => ⟨0.5, 0.5, 0⟩) (.seeded 1)).tick (.ok Context.tangled) =
        .ok (report, next) ∧
      report.observations.length = 3 ∧
      (fresh listener (fun _ _ => ⟨1, 0, 1⟩) (.seeded 2)).run [.tick (.error .closed)] =
        .ok other ∧
      other.tick (.ok report.observations) = .ok (again, after) ∧
      again.observations = report.observations ∧ after.context = next.context := by
  have valid : FieldConfig.check {} = .ok () := by rfl
  have accepted : listener.check = .ok () := by rfl
  obtain ⟨report, next, told⟩ := exists_tick
    (fresh_sound (FieldConfig.valid_of_check valid) (fun _ _ => ⟨0.5, 0.5, 0⟩) (.seeded 1))
    (.ok Context.tangled)
  obtain ⟨other, traced⟩ := exists_traced (fresh_sound (FieldConfig.valid_of_check accepted)
    (fun _ _ => ⟨1, 0, 1⟩) (.seeded 2)) rfl [.tick (.error .closed)]
  have hcount : report.observations.length = 3 := by
    rw [(ingest_of_tick told).1, Ingest.observations_of, Context.length_accept]
    decide +kernel
  have hsome : report.observations ≠ [] := by
    intro hnone
    rw [hnone] at hcount
    exact absurd hcount (by decide)
  obtain ⟨context, hcontext⟩ := Context.exists_context_tangled
  have hbatch : Context.ofBatch Context.tangled =
      (some context, Context.accept Context.tangled) := by
    rw [← hcontext]
    rfl
  obtain ⟨-, hretold⟩ := accepted_retold.2 _ next _ report told
  obtain ⟨again, after, retold, retells⟩ := hretold listener _ _ _ other accepted traced.answer
    (Nat.le_of_eq hcount)
  exact ⟨⟨context, _, hbatch, accepted_retold.1 _ context _ hbatch⟩, report, next, other, again,
    after, told, hcount, traced.answer, retold, retells.observations, retells.context hsome⟩

end Population

end Vivarium
