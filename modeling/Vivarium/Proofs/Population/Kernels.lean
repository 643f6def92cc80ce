import Vivarium.Proofs.Descriptor.Kernel
import Vivarium.Proofs.Lineage.Ranking
import Vivarium.Proofs.Population.Lives

/-!
# Kernels over a run

A tick makes kernels in three ways. Founders draw an odd one. Children move one
by two, or take that of a pattern which the memory recalls; and the memory only
knows descriptors of cells that left, which are cells that were made. So the
first even kernel of a run of ticks is one that was stopped at an even end of the
range, and a range whose ends are odd has no such end.
-/

namespace Vivarium

open Vivarium.Random

/-! ## What the memory knows -/

namespace Memory

variable {memory : Memory} {record : LineageRecord}

theorem descriptor_of_mem_insert {offered : LineageRecord}
    (h : record ∈ (memory.insert offered).2.records) :
    record.descriptor = offered.descriptor ∨
      ∃ old ∈ memory.records, old.descriptor = record.descriptor := by
  cases hfind : memory.find? offered.descriptor with
  | some old =>
      have hmem : record.descriptor ∈ (memory.insert offered).2.records.map (·.descriptor) :=
        List.mem_map_of_mem h
      rw [descriptors_insert hfind] at hmem
      exact .inr (List.mem_map.mp hmem)
  | none =>
      rw [insert_of_none hfind] at h
      cases hkept : (memory.counted.takeIn (offered.stamped memory.counted.sequence)).1 with
      | none =>
          rw [takeIn_of_none hkept] at h
          exact .inr ⟨record, h, rfl⟩
      | some kept =>
          obtain ⟨-, records, hsub, htaken⟩ := takeIn_of_some hkept
          rw [htaken] at h
          rcases List.mem_append.mp h with hold | hnew
          · exact .inr ⟨record, hsub.subset hold, rfl⟩
          · rw [List.mem_singleton.mp hnew]
            exact .inl rfl

/-- Whoever has a descriptor that the memory comes to know had it before, or left. -/
theorem forall_observeAll {P : Descriptor → Prop} {cells : List Cell}
    (known : ∀ record ∈ memory.records, P record.descriptor)
    (left : ∀ cell ∈ cells, P cell.descriptor) :
    ∀ record ∈ (memory.observeAll cells).2.records, P record.descriptor := by
  induction cells generalizing memory with
  | nil => exact known
  | cons cell rest ih =>
      rw [observeAll_cons]
      refine ih (fun record hrecord => ?_) (fun other hother => left other (List.mem_cons_of_mem _ hother))
      rcases observe_cases memory cell with hgate | hinsert
      · rw [hgate] at hrecord
        exact known record hrecord
      · rw [hinsert] at hrecord
        rcases descriptor_of_mem_insert hrecord with hnew | ⟨old, hold, heq⟩
        · rw [hnew]
          exact left cell List.mem_cons_self
        · rw [← heq]
          exact known old hold

theorem forall_best {P : Descriptor → Prop} (known : ∀ record ∈ memory.records, P record.descriptor) :
    ∀ pattern ∈ memory.best.map (·.descriptor), P pattern := by
  intro pattern hpattern
  obtain ⟨found, hfound, rfl⟩ := Option.map_eq_some_iff.mp hpattern
  exact known found (strongestOf_greatest hfound).1

end Memory

/-! ## What a tick draws -/

namespace Random.Draw

variable {P Q : Descriptor → Prop}

theorem yields_foundersFrom_of {bounds : Bounds} (h : (descriptor bounds).Yields P)
    (tick count id : Nat) :
    (foundersFrom bounds tick count id).Yields fun cells => ∀ cell ∈ cells, P cell.descriptor := by
  induction count generalizing id with
  | zero => exact yields_pure (by simp)
  | succ count ih =>
      unfold foundersFrom
      exact yields_bind h fun d hd => yields_bind (ih (id + 1)) fun rest hrest =>
        yields_pure (List.forall_mem_cons.mpr ⟨hd, hrest⟩)

theorem yields_childrenFrom_of {config : FieldConfig} {recalled : Option Descriptor}
    (h : ∀ parent, P parent → (offspring config.mutation config.bounds recalled parent).Yields
      fun drawn => Q drawn.descriptor) (tick : Nat) {parents : List Cell}
    (hparents : ∀ parent ∈ parents, P parent.descriptor) (id : Nat) :
    (childrenFrom config recalled tick parents id).Yields fun cells =>
      ∀ cell ∈ cells, Q cell.descriptor := by
  induction parents generalizing id with
  | nil => exact yields_pure (by simp)
  | cons parent parents ih =>
      obtain ⟨hparent, hrest⟩ := List.forall_mem_cons.mp hparents
      unfold childrenFrom
      exact yields_bind (h _ hparent) fun drawn hdrawn => yields_bind (ih hrest (id + 1))
        fun cells hcells => yields_pure (List.forall_mem_cons.mpr ⟨hdrawn, hcells⟩)

end Random.Draw

namespace Population

variable {population : Population} {poll : Poll} {turns : List Turn} {turn : Turn}

/-- Whether all kernels that a population has or knows of are odd. -/
structure Odd (population : Population) : Prop where
  cells : ∀ cell ∈ population.cells, cell.descriptor.OddKernel
  known : ∀ record ∈ population.memory.records, record.descriptor.OddKernel

namespace Account

variable {founders children : List Cell} {middle : Source} {stages : Stages}

theorem made_odd_or_stopped (sound : population.Sound)
    (account : population.Account poll founders children middle stages) (odd : population.Odd)
    (hasOdd : population.config.bounds.kernel.HasOdd) :
    ∀ cell ∈ stages.founders.cells ++ stages.children.cells,
      cell.descriptor.OddKernel ∨ cell.descriptor.Stopped population.config.bounds := by
  have valid := sound.valid
  have hreviewed : ∀ cell ∈ population.reviewed poll, cell.descriptor.OddKernel := by
    intro cell hcell
    obtain ⟨before, hbefore, rfl⟩ := mem_reviewed.mp hcell
    exact odd.cells before hbefore
  have hknown : ∀ record ∈ stages.afterDeaths.2.records, record.descriptor.OddKernel := by
    rw [account.afterDeaths]
    refine Memory.forall_observeAll odd.known fun cell hcell => ?_
    rw [account.dying] at hcell
    obtain ⟨judged, hjudged, rfl⟩ := List.mem_map.mp hcell
    exact hreviewed judged (List.mem_of_mem_filter hjudged)
  -- Founders are drawn odd; what a child is made of is odd, and a change may have been stopped.
  intro cell hcell
  rcases List.mem_append.mp hcell with hfounder | hchild
  · rw [account.founders_cells] at hfounder
    obtain ⟨made, hmade, rfl⟩ := List.mem_map.mp hfounder
    have hdrawn := (Draw.yields_descriptor valid.bounds).mono fun d lawful => lawful.odd hasOdd
    exact .inl ((Draw.yields_foundersFrom_of hdrawn _ _ _).of_run account.foundersDrawn made hmade)
  · rw [account.children_cells] at hchild
    obtain ⟨made, hmade, rfl⟩ := List.mem_map.mp hchild
    refine (Draw.yields_childrenFrom_of (P := Descriptor.OddKernel) (Q := fun d =>
      d.OddKernel ∨ d.Stopped population.config.bounds) (fun parent hparent =>
        Draw.yields_offspring_odd valid.bias_unit valid.structural_unit valid.bounds
          (Memory.forall_best hknown) hparent) _ (fun parent hparent => ?_) _).of_run
      account.childrenDrawn made hmade
    have hsurvivor := List.mem_of_mem_filter hparent
    rw [account.survivors] at hsurvivor
    exact hreviewed parent (List.mem_of_mem_filter hsurvivor)

end Account

/-- Whoever is there after a turn, or left in it, was there before or was made. -/
theorem Turned.forall_descriptor {P : Descriptor → Prop} (turned : population.Turned turn)
    (cells : ∀ cell ∈ population.cells, P cell.descriptor)
    (made : ∀ cell ∈ turn.made, P cell.descriptor) :
    ∀ cell ∈ turn.after.cells ++ turn.left, P cell.descriptor := by
  intro cell hcell
  have hbirth : cell.birth ∈ (population.cells ++ turn.made).map Cell.birth :=
    turned.balance.mem_iff.mp (List.mem_map_of_mem hcell)
  obtain ⟨source, hsource, hsame⟩ := List.mem_map.mp hbirth
  rw [← (Cell.sameAs_of_birth hsame).descriptor]
  rcases List.mem_append.mp hsource with hold | hnew
  · exact cells source hold
  · exact made source hnew

theorem Odd.turned (odd : population.Odd) (turned : population.Turned turn)
    (isTick : turn.call.isTick = true) (made : ∀ cell ∈ turn.made, cell.descriptor.OddKernel) :
    turn.after.Odd := by
  have hall := turned.forall_descriptor odd.cells made
  refine ⟨fun cell hcell => hall cell (List.mem_append_left _ hcell), ?_⟩
  rw [turned.memory, Turn.remembered]
  cases hcall : turn.call with
  | tick poll =>
      rw [turned.before]
      exact Memory.forall_observeAll odd.known
        fun cell hcell => hall cell (List.mem_append_right _ hcell)
  | replay entries =>
      rw [hcall] at isTick
      cases isTick

/-- What is known of a run of ticks in which no kernel was stopped at an even end. -/
structure Unstopped (config : FieldConfig) (turns : List Turn) (population : Population) : Prop where
  settings : population.config = config
  odd : (∀ turn ∈ turns, turn.call.isTick = true) →
    (∀ cell ∈ madeIn turns, ¬ cell.descriptor.Stopped config.bounds) →
      population.Odd ∧ ∀ cell ∈ madeIn turns, cell.descriptor.OddKernel

theorem Unstopped.step {config : FieldConfig}
    (hasOdd : config.bounds.kernel.HasOdd) (sound : population.Sound)
    (unstopped : Unstopped config turns population) (answer : population.turn turn.call = .ok turn)
    (turned : population.Turned turn) : Unstopped config (turns ++ [turn]) turn.after where
  settings := turned.config.trans unstopped.settings
  odd := by
    intro ticks never
    rw [madeIn_append] at never ⊢
    obtain ⟨hodd, hpast⟩ := unstopped.odd
      (fun past hmem => ticks past (List.mem_append_left _ hmem))
      (fun cell hcell => never cell (List.mem_append_left _ hcell))
    have htick := ticks turn (List.mem_append_right _ List.mem_cons_self)
    have hmade : ∀ cell ∈ turn.made, cell.descriptor.OddKernel := by
      cases hcall : turn.call with
      | replay entries =>
          rw [hcall] at htick
          cases htick
      | tick poll =>
          rw [hcall] at answer
          obtain ⟨founders, children, middle, stages, account, rfl⟩ := account_of_turn answer
          intro cell hcell
          have heither := account.made_odd_or_stopped sound hodd
            (by rw [unstopped.settings]; exact hasOdd) cell hcell
          rw [unstopped.settings] at heither
          exact heither.resolve_right (never cell (List.mem_append_right _ hcell))
    refine ⟨hodd.turned turned htick hmade, fun cell hcell => ?_⟩
    rcases List.mem_append.mp hcell with hearlier | hnow
    · exact hpast cell hearlier
    · exact hmade cell hnow

/--
A run of ticks makes odd kernels only, exactly as long as none is stopped at an even end of the
range; and where both ends are odd, which is where no change makes an even kernel of an odd one,
none ever is.
-/
theorem run_kernels_odd_iff (config : FieldConfig) (interpret : Interpreter)
    (source : Random.Source) (accepted : config.check = .ok ())
    (hasOdd : config.bounds.kernel.HasOdd) (polls : List Poll) :
    (config.bounds.KeepsOdd ↔
      config.bounds.kernel.low.toNat % 2 = 1 ∧ config.bounds.kernel.high.toNat % 2 = 1) ∧
    ∃ turns population,
      (fresh config interpret source).history (polls.map Call.tick) = .ok (turns, population) ∧
      ((∀ cell ∈ madeIn turns, cell.descriptor.OddKernel) ↔
        ∀ cell ∈ madeIn turns, ¬ cell.descriptor.Stopped config.bounds) ∧
      (config.bounds.KeepsOdd → ∀ cell ∈ madeIn turns, cell.descriptor.OddKernel) := by
  have valid := FieldConfig.valid_of_check accepted
  have hkeeps := Bounds.keepsOdd_iff valid.bounds hasOdd
  obtain ⟨turns, population, hhistory, -, hcalls, -, hunstopped⟩ :=
    history_induction (fresh_sound valid interpret source) (motive := Unstopped config)
      ⟨rfl, fun _ _ => ⟨⟨by simp [fresh], by simp [fresh]⟩, by simp [madeIn]⟩⟩
      (fun _ _ _ sound past answer turned => past.step hasOdd sound answer turned)
      (polls.map Call.tick)
  have hticks : ∀ turn ∈ turns, turn.call.isTick = true := by
    intro turn hturn
    have hcall : turn.call ∈ turns.map Turn.call := List.mem_map_of_mem hturn
    rw [hcalls] at hcall
    obtain ⟨poll, -, hpoll⟩ := List.mem_map.mp hcall
    rw [← hpoll]
    rfl
  have hodd := fun never => (hunstopped.odd hticks never).2
  refine ⟨hkeeps, turns, population, hhistory, ⟨fun all cell hcell hstopped => ?_, hodd⟩, ?_⟩
  · exact hstopped.not_oddKernel (all cell hcell)
  · intro keeps
    obtain ⟨hlow, hhigh⟩ := hkeeps.mp keeps
    exact hodd fun cell _ => Bounds.not_stopped hlow hhigh cell.descriptor

theorem run_kernels_odd_standard :
    FieldConfig.check {} = .ok () ∧ ∃ turns population,
      (fresh {} (fun _ _ => ⟨1, 0, 0⟩) (.seeded 7)).history ([.ok [], .error .closed].map Call.tick) =
        .ok (turns, population) ∧
      ∀ cell ∈ madeIn turns, cell.descriptor.OddKernel := by
  have accepted : FieldConfig.check {} = .ok () := by rfl
  obtain ⟨hkeeps, turns, population, hhistory, -, hodd⟩ := run_kernels_odd_iff {}
    (fun _ _ => ⟨1, 0, 0⟩) (.seeded 7) accepted ⟨3, by decide⟩ [.ok [], .error .closed]
  exact ⟨accepted, turns, population, hhistory, hodd (hkeeps.mpr (by decide))⟩

/-- Convolutions with kernels from four to seven, of which every child is a changed one. -/
def fourToSeven : FieldConfig :=
  { population := { initialSize := 1, maxSize := 4, batchSize := 1 }
    mutation := { bias := 0, structural := 1 }
    bounds :=
      { layers := ⟨1, 2⟩
        width := ⟨16, 16⟩
        heads := [1]
        kernel := ⟨4, 7⟩
        kinds := [.convolutional] }
    seed := some 0 }

/-- The stream of a seed whose first block has been worked out once. -/
theorem seeded_eq {seed : UInt64} {first : Number.Block}
    (h : Random.block (Random.keyOf seed) 0 = first) : Random.Source.seeded seed = {
      words := fun n => (if n / 16 = 0 then first else Random.block (Random.keyOf seed) (n / 16)).word
        (.ofNat n)
      position := 0 } := by
  rw [Random.Source.seeded, ← h]
  congr 1
  funext n
  split
  · next hfirst => rw [hfirst]
  · rfl

theorem firstBlock_zero : Random.block (Random.keyOf 0) 0 =
    #v[3442241407, 3140108210, 2384947579, 3321986196, 3476097558, 111001858, 2883974864,
      2508944925, 3739319057, 1126014292, 527549474, 3315658513, 302217491, 939296079, 3388957127,
      3408973338] := by
  decide +kernel

/-- The founder's kernel is five, and its child's is four. -/
theorem run_kernels_stopped :
    fourToSeven.check = .ok () ∧
      fourToSeven.bounds.kernel.HasOdd ∧
      ∃ turns population, (fresh fourToSeven (fun _ _ => ⟨1, 0, 0⟩) (.seeded 0)).history
          ([.ok [], .ok []].map Call.tick) = .ok (turns, population) ∧
        (madeIn turns).map Cell.descriptor = [.convolutional 2 16 5, .convolutional 2 16 4] ∧
        ∃ cell ∈ madeIn turns, ¬ cell.descriptor.OddKernel := by
  have hmade : ((fresh fourToSeven (fun _ _ => ⟨1, 0, 0⟩) (.seeded 0)).history
      ([.ok [], .ok []].map Call.tick)).toOption.map
        (fun past => (madeIn past.1).map Cell.descriptor) =
      some [.convolutional 2 16 5, .convolutional 2 16 4] := by
    rw [seeded_eq firstBlock_zero]
    decide +kernel
  obtain ⟨⟨turns, population⟩, hhistory, hlist⟩ := Option.map_eq_some_iff.mp hmade
  refine ⟨by rfl, ⟨5, by decide⟩, turns, population, ?_, hlist, ?_⟩
  · revert hhistory
    cases (fresh fourToSeven (fun _ _ => ⟨1, 0, 0⟩) (.seeded 0)).history
      ([.ok [], .ok []].map Call.tick) with
    | error fault => exact fun h => nomatch h
    | ok past => exact fun h => congrArg Except.ok (Option.some.inj h)
  · have hchild : Descriptor.convolutional 2 16 4 ∈ (madeIn turns).map Cell.descriptor := by
      rw [hlist]
      exact List.mem_cons_of_mem _ List.mem_cons_self
    obtain ⟨child, hmem, heq⟩ := List.mem_map.mp hchild
    refine ⟨child, hmem, fun odd => ?_⟩
    rw [heq] at odd
    exact absurd (odd 4 rfl) (by decide)

end Population

end Vivarium
