import Vivarium.Proofs.Population.Run

/-!
# Without a bias the past has no influence

What a population remembers reaches its cells on one way only: a child may
repeat the pattern that is recalled. The bias decides whether it does, and it is
drawn in any case, so a bias of zero takes two words from the source and says no,
whatever there is to recall. From there on two populations that differ in their
memory alone draw the same words for the same questions.

So they stay alike. A tick leaves them alike, and reports alike but for the
lineages that were recorded. A replay leaves them alike even if it tells them of
different lineages, because a lineage goes to the memory and founds no cell.
-/

namespace Vivarium

open Number Vivarium.Random

/-! ## A bias of zero -/

theorem toBits_of_beq_zero {p : Float32} (h : (p == 0) = true) :
    p.toBits.toNat = 0 ∨ p.toBits.toNat = Format.single.signWeight := by
  have hheight : height p = 0 := (single_beq_iff.mp h).2.2
  have hweight : Format.single.signWeight = 2 ^ 31 := rfl
  have hword : p.toBits.toNat = p.toModel.toBits.toBitVec.toNat := rfl
  rw [height_eq_of_word] at hheight
  split at hheight <;> omega

namespace Random.Draw

theorem threshold_of_beq_zero {p : Float32} (h : (p == 0) = true) : threshold p = 0 := by
  unfold threshold ofSingle
  rcases toBits_of_beq_zero h with hzero | hzero
  · rw [hzero]
    rfl
  · rw [hzero]
    rfl

/-- An impossible chance is drawn all the same. -/
theorem chance_of_beq_zero {p : Float32} (h : (p == 0) = true) :
    chance p = wide >>= fun _ => pure false := by
  obtain ⟨hp, hzero, hheight⟩ := single_beq_iff.mp h
  have hone : (p == 1) = false := by
    rw [Bool.eq_false_iff, Ne, single_beq_iff]
    rintro ⟨-, -, hsame⟩
    rw [hheight] at hsame
    exact absurd hsame (by decide)
  have hlow : 0 ≤ p := single_le_iff.mpr ⟨hzero, hp, Int.le_of_eq hheight.symm⟩
  have hhigh : p < 1 := by
    rw [single_lt_iff, hheight]
    exact ⟨hp, rfl, by decide⟩
  unfold chance
  rw [hone, threshold_of_beq_zero h, if_neg Bool.false_ne_true, if_pos (by simp [hlow, hhigh])]
  simp only [Nat.not_lt_zero, decide_false]

theorem offspring_unbiased {config : MutationConfig} (unbiased : (config.bias == 0) = true)
    (bounds : Bounds) (recalled : Option Descriptor) (parent : Descriptor) :
    offspring config bounds recalled parent = offspring config bounds none parent := by
  unfold offspring
  rw [chance_of_beq_zero unbiased]
  simp only [bind_assoc, pure_bind]

end Random.Draw

theorem childrenFrom_unbiased {config : FieldConfig}
    (unbiased : (config.mutation.bias == 0) = true) (recalled : Option Descriptor) (tick : Nat)
    (parents : List Cell) (id : Nat) :
    childrenFrom config recalled tick parents id = childrenFrom config none tick parents id := by
  induction parents generalizing id with
  | nil => rfl
  | cons parent parents ih =>
      unfold childrenFrom
      rw [Draw.offspring_unbiased unbiased]
      simp only [ih]

/-! ## Calls that differ in lineages only -/

/-- Some entries without the lineages among them. -/
def withoutLineages (entries : List AuditEntry) : List AuditEntry :=
  entries.filter (·.lineage?.isNone)

/-- Whether two calls are the same, but for the lineages that they may tell of. -/
inductive Call.Alike : Call → Call → Prop where
  | tick (poll : Poll) : Alike (.tick poll) (.tick poll)
  | replay {entries others : List AuditEntry}
      (same : withoutLineages entries = withoutLineages others) :
      Alike (.replay entries) (.replay others)

theorem soundDescriptors_withoutLineages (entries : List AuditEntry) :
    (withoutLineages entries).filterMap AuditEntry.soundDescriptor? =
      entries.filterMap AuditEntry.soundDescriptor? := by
  rw [withoutLineages, List.filterMap_filter]
  congr 1
  funext entry
  cases entry <;> rfl

namespace Population

variable {population next : Population} {poll : Poll}

theorem stages_unbiased (unbiased : (population.config.mutation.bias == 0) = true)
    (memory : Memory) {stages : Stages} (h : population.stages poll = .ok stages) :
    ∃ afterDeaths afterCulls, { population with memory }.stages poll =
      .ok { stages with afterDeaths, afterCulls } := by
  unfold Population.stages at h
  simp only [bind_eq_ok] at h
  obtain ⟨⟨founders, middle⟩, hfounders, parents, hparents, ⟨children, last⟩, hchildren,
    hstages⟩ := h
  cases hstages
  rw [childrenFrom_unbiased unbiased] at hchildren
  refine ⟨_, _, bind_eq_ok.mpr ⟨(founders, middle), hfounders, bind_eq_ok.mpr ⟨parents, hparents,
    bind_eq_ok.mpr ⟨(children, last), ?_, rfl⟩⟩⟩⟩
  rw [childrenFrom_unbiased unbiased]
  exact hchildren

theorem tick_unbiased (unbiased : (population.config.mutation.bias == 0) = true)
    (memory : Memory) {report : TickReport} (h : population.tick poll = .ok (report, next)) :
    ∃ lineage after, { population with memory }.tick poll =
      .ok ({ report with lineage }, { next with memory := after }) := by
  obtain ⟨stages, hstages, rfl, rfl⟩ := tick_eq_ok h
  obtain ⟨afterDeaths, afterCulls, hother⟩ := stages_unbiased unbiased memory hstages
  exact ⟨_, _, bind_eq_ok.mpr ⟨_, hother, rfl⟩⟩

theorem replay_alike {entries others : List AuditEntry}
    (same : withoutLineages entries = withoutLineages others) (memory : Memory)
    {replayed : Replayed} (h : population.replay entries = .ok (replayed, next)) :
    ∃ lineages after, { population with memory }.replay others =
      .ok ({ replayed with lineages }, { next with memory := after }) := by
  have hsame : { population with memory }.revived others = population.revived entries := by
    unfold revived
    rw [← soundDescriptors_withoutLineages others, ← same, soundDescriptors_withoutLineages]
  unfold replay at h ⊢
  obtain ⟨revived, hrevived, hpure⟩ := bind_eq_ok.mp h
  cases hpure
  rw [← hsame] at hrevived
  exact ⟨_, _, bind_eq_ok.mpr ⟨revived, hrevived, rfl⟩⟩

theorem call_alike (unbiased : (population.config.mutation.bias == 0) = true) (memory : Memory)
    {call other : Call} (alike : call.Alike other) (h : population.call call = .ok next) :
    ∃ after, { population with memory }.call other = .ok { next with memory := after } := by
  cases alike with
  | tick poll =>
      obtain ⟨⟨report, after⟩, htick, rfl⟩ := map_eq_ok.mp h
      obtain ⟨lineage, memory', hother⟩ := tick_unbiased unbiased memory htick
      exact ⟨memory', map_eq_ok.mpr ⟨_, hother, rfl⟩⟩
  | replay same =>
      obtain ⟨⟨replayed, after⟩, hreplay, rfl⟩ := map_eq_ok.mp h
      obtain ⟨lineages, memory', hother⟩ := replay_alike same memory hreplay
      exact ⟨memory', map_eq_ok.mpr ⟨_, hother, rfl⟩⟩

theorem run_alike (sound : population.Sound)
    (unbiased : (population.config.mutation.bias == 0) = true) (memory : Memory)
    {calls others : List Call} (alike : List.Forall₂ Call.Alike calls others) :
    ∃ last after, population.run calls = .ok last ∧
      { population with memory }.run others = .ok { last with memory := after } ∧
      last.Sound ∧ last.config = population.config := by
  induction alike generalizing population memory with
  | nil => exact ⟨population, memory, rfl, rfl, sound, rfl⟩
  | @cons call other calls others alike _ ih =>
      obtain ⟨next, steps⟩ := exists_steps sound call
      obtain ⟨middle, hother⟩ := call_alike unbiased memory alike steps.answer
      rw [← steps.config] at unbiased
      obtain ⟨last, after, hrun, hrun', hsound, hconfig⟩ := ih steps.sound unbiased middle
      refine ⟨last, after, ?_, ?_, hsound, hconfig.trans steps.config⟩
      · exact bind_eq_ok.mpr ⟨next, steps.answer, hrun⟩
      · exact bind_eq_ok.mpr ⟨_, hother, hrun'⟩

/-- The calls are arbitrary, so the tick that follows them stands for every tick of a run. -/
theorem run_forgetful (config : FieldConfig) (interpret : Interpreter) (source : Source)
    (accepted : config.check = .ok ()) (unbiased : (config.mutation.bias == 0) = true)
    {calls others : List Call} (alike : List.Forall₂ Call.Alike calls others) :
    ∃ population memory, (fresh config interpret source).run calls = .ok population ∧
      (fresh config interpret source).run others = .ok { population with memory } ∧
      ∀ poll, ∃ report next lineage after, population.tick poll = .ok (report, next) ∧
        { population with memory }.tick poll =
          .ok ({ report with lineage }, { next with memory := after }) := by
  have valid := FieldConfig.valid_of_check accepted
  obtain ⟨population, memory, hrun, hrun', hsound, hconfig⟩ :=
    run_alike (fresh_sound valid interpret source) unbiased
      (fresh config interpret source).memory alike
  refine ⟨population, memory, hrun, hrun', fun poll => ?_⟩
  obtain ⟨report, next, htick⟩ := exists_tick hsound poll
  have hunbiased : (population.config.mutation.bias == 0) = true := by
    rw [hconfig]
    exact unbiased
  obtain ⟨lineage, after, hother⟩ := tick_unbiased hunbiased memory htick
  exact ⟨report, next, lineage, after, htick, hother⟩

/-- A bias that is zero from below. -/
def impartial : FieldConfig :=
  { mutation := { bias := -0.0 } }

/-- A lineage that nothing in bounds can match. -/
def legend : LineageRecord :=
  { descriptor := .recurrent 0 4294967295
    survivalAge := 900
    meanFitness := 1
    observations := 40
    sequence := 0 }

theorem run_forgetful_legend :
    impartial.check = .ok () ∧ (impartial.mutation.bias == 0) = true ∧
      List.Forall₂ Call.Alike [.replay [.lineage legend], .tick (.ok [])]
        [.replay [], .tick (.ok [])] ∧
      ∃ population memory,
        (fresh impartial (fun _ _ => ⟨0.8, 0.5, 0⟩) (.seeded 7)).run
          [.replay [.lineage legend], .tick (.ok [])] = .ok population ∧
        (fresh impartial (fun _ _ => ⟨0.8, 0.5, 0⟩) (.seeded 7)).run
          [.replay [], .tick (.ok [])] = .ok { population with memory } ∧
        ∀ poll, ∃ report next lineage after, population.tick poll = .ok (report, next) ∧
          { population with memory }.tick poll =
            .ok ({ report with lineage }, { next with memory := after }) := by
  have accepted : impartial.check = .ok () := by rfl
  have unbiased : (impartial.mutation.bias == 0) = true := by decide
  have alike : List.Forall₂ Call.Alike [.replay [.lineage legend], .tick (.ok [])]
      [.replay [], .tick (.ok [])] :=
    .cons (.replay rfl) (.cons (.tick _) .nil)
  exact ⟨accepted, unbiased, alike, run_forgetful impartial _ _ accepted unbiased alike⟩

end Population

end Vivarium
