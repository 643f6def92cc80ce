import Vivarium.Proofs.Population.History

/-!
# The lives of cells

Every id below the next one has been given to one cell, in the order of ids, and
at any time the cells that were made are the live ones and those that left: no
cell is in both, and none leaves twice. Age counts the ticks that a cell was
alive through, so a cell that is culled in the tick that made it leaves at age
zero. A child's parent is a cell of an earlier turn, which lives when the tick
begins and does not die in it. So parents have smaller ids, and whoever follows
them from a cell comes to a founder after as many steps as the cell's depth
says.
-/

namespace Vivarium

/-- The cells that were made in some turns. -/
def madeIn (turns : List Turn) : List Cell :=
  turns.flatMap Turn.made

/-- The cells that left in some turns, in the order in which the memory was offered them. -/
def leftIn (turns : List Turn) : List Cell :=
  turns.flatMap Turn.left

namespace Cell

/-- The ancestors of a cell among some cells: its parent, that one's parent, and so on. -/
inductive Ancestry (made : List Cell) : Cell → List Cell → Prop where
  | founder {cell : Cell} (none : cell.parent = none) : Ancestry made cell []
  | child {cell parent : Cell} {line : List Cell} (mem : parent ∈ made)
      (parent_eq : cell.parent = some parent.id) (rest : Ancestry made parent line) :
      Ancestry made cell (parent :: line)

/-- How a live cell of an earlier turn is the parent of a cell that a turn made. -/
structure Parent (earlier : List Turn) (turn : Turn) (cell parent : Cell) : Prop where
  isTick : turn.call.isTick = true
  live : parent ∈ turn.before.cells
  made : ∃ made ∈ madeIn earlier, made.SameAs parent
  bornTick_lt : parent.bornTick < cell.bornTick
  id_lt : parent.id < cell.id
  survived : ∀ dead ∈ turn.died, dead.id ≠ parent.id
  lineageDepth : cell.lineageDepth = parent.lineageDepth + 1

/-- How a cell comes into a history. -/
structure Born (earlier : List Turn) (turn : Turn) (cell : Cell) : Prop where
  bornTick : cell.bornTick = turn.after.generation
  founder : cell.parent = none → cell.lineageDepth = 0
  child : ∀ id, cell.parent = some id → ∃ parent, parent.id = id ∧ Parent earlier turn cell parent

end Cell

/-- What a history says of the lives of cells. -/
structure Chronicle (turns : List Turn) (population : Population) : Prop where
  ids : (madeIn turns).map Cell.id = List.range population.nextId
  balance : ((population.cells ++ leftIn turns).map Cell.birth).Perm
    ((madeIn turns).map Cell.birth)
  once : ((population.cells ++ leftIn turns).map Cell.id).Nodup
  seen : ∀ turn ∈ turns, ∀ cell ∈ turn.after.cells, cell.id < population.nextId
  forGood : ∀ earlier turn later, turns = earlier ++ turn :: later → ∀ cell ∈ turn.left,
    ∀ next ∈ turn :: later, next.after.hasCell cell.id = false
  ages : ∀ cell ∈ population.cells ++ leftIn turns,
    cell.age = turns.countP (·.outlivedBy cell.id)
  offered : ∀ turn ∈ turns, turn.after.memory = turn.remembered ∧
    (turn.call.isTick = false → turn.left = [])
  born : ∀ earlier turn later, turns = earlier ++ turn :: later →
    ∀ cell ∈ turn.made, cell.Born earlier turn
  ancestry : ∀ cell ∈ madeIn turns, (∃ line, cell.Ancestry (madeIn turns) line) ∧
    ∀ line, cell.Ancestry (madeIn turns) line → line.length = cell.lineageDepth

theorem Cell.sameAs_of_birth {a b : Cell} (h : a.birth = b.birth) : b.SameAs a := by
  obtain ⟨hid, hdescriptor, hparent, hdepth, hborn⟩ :
      a.id = b.id ∧ a.descriptor = b.descriptor ∧ a.parent = b.parent ∧
        a.lineageDepth = b.lineageDepth ∧ a.bornTick = b.bornTick := by
    simpa [birth] using h
  exact ⟨hid, hdescriptor, hparent, hdepth, hborn⟩

theorem madeIn_append (turns : List Turn) (turn : Turn) :
    madeIn (turns ++ [turn]) = madeIn turns ++ turn.made := by
  rw [madeIn, List.flatMap_append, List.flatMap_singleton, madeIn]

theorem leftIn_append (turns : List Turn) (turn : Turn) :
    leftIn (turns ++ [turn]) = leftIn turns ++ turn.left := by
  rw [leftIn, List.flatMap_append, List.flatMap_singleton, leftIn]

/-- A place in a list with one more item is the last one or a place in the list before. -/
theorem split_append_singleton {past earlier later : List α} {last item : α}
    (h : past ++ [last] = earlier ++ item :: later) :
    (past = earlier ∧ last = item ∧ later = []) ∨
      ∃ rest, later = rest ++ [last] ∧ past = earlier ++ item :: rest := by
  rcases List.eq_nil_or_concat later with rfl | ⟨rest, final, rfl⟩
  · obtain ⟨hpast, hlast⟩ := List.append_inj' h rfl
    exact .inl ⟨hpast, List.head_eq_of_cons_eq hlast, rfl⟩
  · rw [List.concat_eq_append, ← List.cons_append, ← List.append_assoc] at h
    rw [List.concat_eq_append]
    obtain ⟨hpast, hlast⟩ := List.append_inj' h rfl
    cases hlast
    exact .inr ⟨rest, rfl, hpast⟩

namespace Chronicle

variable {turns : List Turn} {population : Population} {turn : Turn}

theorem once_of_balance (ids : (madeIn turns).map Cell.id = List.range population.nextId)
    (balance : ((population.cells ++ leftIn turns).map Cell.birth).Perm
      ((madeIn turns).map Cell.birth)) :
    ((population.cells ++ leftIn turns).map Cell.id).Nodup := by
  have hids := balance.map Prod.fst
  rw [List.map_map, List.map_map] at hids
  refine hids.nodup_iff.mpr ?_
  show ((madeIn turns).map Cell.id).Nodup
  rw [ids]
  exact List.nodup_range

theorem ids_step (chronicle : Chronicle turns population) (turned : population.Turned turn) :
    (madeIn (turns ++ [turn])).map Cell.id = List.range turn.after.nextId := by
  rw [madeIn_append, List.map_append, chronicle.ids, turned.ids, turned.nextId,
    List.range_eq_range', List.range_eq_range']
  have happend : List.range' 0 population.nextId ++
      List.range' (0 + population.nextId) turn.made.length = _ := List.range'_append_1
  rwa [Nat.zero_add] at happend

theorem balance_step (chronicle : Chronicle turns population) (turned : population.Turned turn) :
    ((turn.after.cells ++ leftIn (turns ++ [turn])).map Cell.birth).Perm
      ((madeIn (turns ++ [turn])).map Cell.birth) := by
  have hturn := turned.balance
  have hpast := chronicle.balance
  rw [leftIn_append, madeIn_append]
  simp only [List.map_append] at hturn hpast ⊢
  -- Who left earlier steps aside, the turn balances, and so did the turns before it.
  have haside := List.perm_append_comm_assoc (turn.after.cells.map Cell.birth)
    ((leftIn turns).map Cell.birth) (turn.left.map Cell.birth)
  have hback := List.perm_append_comm_assoc ((leftIn turns).map Cell.birth)
    (population.cells.map Cell.birth) (turn.made.map Cell.birth)
  refine haside.trans ((hturn.append_left _).trans (hback.trans ?_))
  rw [← List.append_assoc]
  exact hpast.append_right _

theorem not_hasCell_of_left
    (once : ((population.cells ++ leftIn turns).map Cell.id).Nodup) :
    ∀ cell ∈ leftIn turns, population.hasCell cell.id = false := by
  intro cell hcell
  rw [List.map_append] at once
  rw [← Bool.not_eq_true, Population.hasCell_iff]
  rintro ⟨live, hlive, hid⟩
  refine List.disjoint_of_nodup_append once (List.mem_map_of_mem hlive) ?_
  rw [hid]
  exact List.mem_map_of_mem hcell

theorem mem_leftIn {cell : Cell} {gone : Turn} (hgone : gone ∈ turns) (hcell : cell ∈ gone.left) :
    cell ∈ leftIn turns :=
  List.mem_flatMap.mpr ⟨gone, hgone, hcell⟩

theorem forGood_step (chronicle : Chronicle turns population)
    (absent : ∀ cell ∈ leftIn (turns ++ [turn]), turn.after.hasCell cell.id = false) :
    ∀ earlier gone later, turns ++ [turn] = earlier ++ gone :: later → ∀ cell ∈ gone.left,
      ∀ next ∈ gone :: later, next.after.hasCell cell.id = false := by
  intro earlier gone later hsplit cell hcell next hnext
  have hgone : gone ∈ turns ++ [turn] := by
    rw [hsplit]
    exact List.mem_append_right _ List.mem_cons_self
  rcases split_append_singleton hsplit with ⟨-, rfl, rfl⟩ | ⟨rest, rfl, hpast⟩
  · cases List.mem_singleton.mp hnext
    exact absent cell (mem_leftIn hgone hcell)
  · rw [← List.cons_append, List.mem_append, List.mem_singleton] at hnext
    rcases hnext with hearlier | rfl
    · exact chronicle.forGood earlier gone rest hpast cell hcell next hearlier
    · exact absent cell (mem_leftIn hgone hcell)

/-- An id that has not been given out has not been alive through any tick. -/
theorem countP_fresh (chronicle : Chronicle turns population) {id : Nat}
    (fresh : population.nextId ≤ id) : turns.countP (·.outlivedBy id) = 0 := by
  rw [List.countP_eq_zero]
  intro turn hturn houtlived
  rw [Turn.outlivedBy, Bool.and_eq_true] at houtlived
  obtain ⟨cell, hcell, rfl⟩ := Population.hasCell_iff.mp houtlived.2
  have hlt := chronicle.seen turn hturn cell hcell
  omega

theorem ages_step (chronicle : Chronicle turns population) (sound : population.Sound)
    (turned : population.Turned turn)
    (absent : ∀ cell ∈ leftIn (turns ++ [turn]), turn.after.hasCell cell.id = false) :
    ∀ cell ∈ turn.after.cells ++ leftIn (turns ++ [turn]),
      cell.age = (turns ++ [turn]).countP (·.outlivedBy cell.id) := by
  intro cell hcell
  rw [List.countP_append, List.countP_singleton]
  have hfresh : ∀ id, population.nextId ≤ id → turn.before.hasCell id = false := by
    intro id hid
    rw [← Bool.not_eq_true, Population.hasCell_iff, turned.before]
    rintro ⟨live, hlive, rfl⟩
    have hlt := (sound.each live hlive).id_lt
    omega
  have hpast : ∀ before ∈ population.cells,
      before.age = turns.countP (·.outlivedBy before.id) := fun before hbefore =>
    chronicle.ages before (List.mem_append_left _ hbefore)
  -- The turn counts for a cell if it was there before and is there after; a newcomer was not there
  -- in any turn before.
  rcases List.mem_append.mp hcell with hlive | hgone
  · have hafter : turn.after.hasCell cell.id = true :=
      Population.hasCell_iff.mpr ⟨cell, hlive, rfl⟩
    cases turned.ages cell hlive with
    | old before hbefore hid hage =>
        have hthere : turn.before.hasCell cell.id = true := by
          rw [turned.before]
          exact Population.hasCell_iff.mpr ⟨before, hbefore, hid.symm⟩
        rw [hage, hpast before hbefore, Turn.outlivedBy, hafter, hthere, hid, Turn.ticks]
        simp
    | new hid hage =>
        rw [hage, chronicle.countP_fresh hid, Turn.outlivedBy, hfresh cell.id hid]
        simp
  · rw [Turn.outlivedBy, absent cell hgone]
    rw [leftIn_append] at hgone
    rcases List.mem_append.mp hgone with hearlier | hnow
    · rw [chronicle.ages cell (List.mem_append_right _ hearlier)]
      simp
    · cases turned.agesLeft cell hnow with
      | old before hbefore hid hage =>
          rw [hage, hpast before hbefore, hid]
          simp
      | new hid hage =>
          rw [hage, chronicle.countP_fresh hid]
          simp

theorem born_step (chronicle : Chronicle turns population) (sound : population.Sound)
    (turned : population.Turned turn) : ∀ earlier maker later,
      turns ++ [turn] = earlier ++ maker :: later → ∀ cell ∈ maker.made, cell.Born earlier maker := by
  intro earlier maker later hsplit cell hcell
  rcases split_append_singleton hsplit with ⟨rfl, rfl, -⟩ | ⟨rest, -, hpast⟩
  · have hborn := turned.bornTick cell hcell
    rcases turned.parents cell hcell with ⟨hnone, hdepth⟩ | ⟨parent, issue⟩
    · refine ⟨hborn, fun _ => hdepth, fun id hsome => ?_⟩
      rw [hnone] at hsome
      cases hsome
    · have heq := issue.parent_eq
      refine ⟨hborn, fun hnone => ?_, fun id hsome => ?_⟩
      · rw [hnone] at heq
        cases heq
      · rw [hsome] at heq
        cases heq
        have hlive := issue.mem
        rw [turned.before] at hlive
        have hparent := sound.each parent hlive
        refine ⟨parent, rfl, issue.isTick, issue.mem, ?_, ?_, ?_, issue.survived,
          issue.lineageDepth⟩
        · -- The books balance, so a live cell is one of those that were made.
          have hbirth : parent.birth ∈ (madeIn turns).map Cell.birth := by
            refine chronicle.balance.mem_iff.mp (List.mem_map_of_mem ?_)
            exact List.mem_append_left _ hlive
          obtain ⟨made, hmade, hsame⟩ := List.mem_map.mp hbirth
          exact ⟨made, hmade, Cell.sameAs_of_birth hsame.symm⟩
        · rw [hborn, turned.generation, Turn.ticks, if_pos issue.isTick]
          have hage := hparent.age_eq
          omega
        · have hid : cell.id ∈ turn.made.map Cell.id := List.mem_map_of_mem hcell
          rw [turned.ids, List.mem_range'_1] at hid
          have hlt := hparent.id_lt
          omega
  · exact chronicle.born earlier maker rest hpast cell hcell

end Chronicle

/-! ## Ancestors -/

/-- Whether each of some cells is a founder, or the child of an older one among them. -/
def Rooted (made : List Cell) : Prop :=
  ∀ cell ∈ made, cell.parent = none ∧ cell.lineageDepth = 0 ∨
    ∃ parent ∈ made, cell.parent = some parent.id ∧ parent.id < cell.id ∧
      cell.lineageDepth = parent.lineageDepth + 1

theorem rooted_of_born {turns : List Turn} (born : ∀ earlier turn later,
      turns = earlier ++ turn :: later → ∀ cell ∈ turn.made, cell.Born earlier turn) :
    Rooted (madeIn turns) := by
  intro cell hmadeIn
  obtain ⟨maker, hmaker, hcell⟩ := List.mem_flatMap.mp hmadeIn
  obtain ⟨earlier, later, rfl⟩ := List.append_of_mem hmaker
  have hborn := born earlier maker later rfl cell hcell
  cases hparent : cell.parent with
  | none => exact .inl ⟨rfl, hborn.founder hparent⟩
  | some id =>
      obtain ⟨parent, rfl, facts⟩ := hborn.child id hparent
      obtain ⟨made, hmade, hsame⟩ := facts.made
      refine .inr ⟨made, ?_, ?_, ?_, ?_⟩
      · rw [madeIn, List.flatMap_append]
        exact List.mem_append_left _ hmade
      · rw [hsame.id]
      · rw [← hsame.id]
        exact facts.id_lt
      · rw [← hsame.lineageDepth]
        exact facts.lineageDepth

/-- Ids grow smaller from child to parent, so every line of ancestors comes to an end. -/
theorem exists_ancestry {made : List Cell} (rooted : Rooted made) :
    ∀ cell ∈ made, ∃ line, cell.Ancestry made line := by
  intro cell
  induction hid : cell.id using Nat.strong_induction_on generalizing cell with
  | _ id ih =>
      intro hcell
      rcases rooted cell hcell with ⟨hnone, -⟩ | ⟨parent, hparent, heq, hlt, -⟩
      · exact ⟨[], .founder hnone⟩
      · obtain ⟨line, hline⟩ := ih parent.id (hid ▸ hlt) parent rfl hparent
        exact ⟨parent :: line, .child hparent heq hline⟩

theorem length_ancestry {made line : List Cell} {cell : Cell} (rooted : Rooted made)
    (nodup : (made.map Cell.id).Nodup) (mem : cell ∈ made) (ancestry : cell.Ancestry made line) :
    line.length = cell.lineageDepth := by
  induction ancestry with
  | founder none =>
      rcases rooted _ mem with ⟨-, hdepth⟩ | ⟨parent, -, heq, -⟩
      · exact hdepth.symm
      · rw [none] at heq
        cases heq
  | child hparent heq _ ih =>
      rcases rooted _ mem with ⟨hnone, -⟩ | ⟨other, hother, hsame, -, hdepth⟩
      · rw [hnone] at heq
        cases heq
      · rw [heq] at hsame
        rw [hdepth, List.length_cons, ih hparent,
          List.inj_on_of_nodup_map nodup hparent hother (Option.some.inj hsame)]

/-! ## Runs -/

namespace Chronicle

variable {turns : List Turn} {population : Population} {turn : Turn}

theorem step (sound : population.Sound) (chronicle : Chronicle turns population)
    (turned : population.Turned turn) : Chronicle (turns ++ [turn]) turn.after := by
  have hids := chronicle.ids_step turned
  have hbalance := chronicle.balance_step turned
  have honce := once_of_balance hids hbalance
  have habsent := not_hasCell_of_left honce
  have hborn := chronicle.born_step sound turned
  constructor
  case ids => exact hids
  case balance => exact hbalance
  case once => exact honce
  case seen =>
    intro past hpast cell hcell
    rcases List.mem_append.mp hpast with hearlier | hnow
    · have hlt := chronicle.seen past hearlier cell hcell
      rw [turned.nextId]
      omega
    · cases List.mem_singleton.mp hnow
      exact (turned.sound.each cell hcell).id_lt
  case forGood => exact chronicle.forGood_step habsent
  case ages => exact chronicle.ages_step sound turned habsent
  case offered =>
    intro past hpast
    rcases List.mem_append.mp hpast with hearlier | hnow
    · exact chronicle.offered past hearlier
    · cases List.mem_singleton.mp hnow
      exact ⟨turned.memory, turned.leavesInTick⟩
  case born => exact hborn
  case ancestry =>
    intro cell hcell
    have hrooted := rooted_of_born hborn
    refine ⟨exists_ancestry hrooted cell hcell, fun line hline => ?_⟩
    refine length_ancestry hrooted ?_ hcell hline
    rw [hids]
    exact List.nodup_range

theorem start {population : Population} (cells : population.cells = [])
    (nextId : population.nextId = 0) : Chronicle [] population where
  ids := by rw [nextId]; rfl
  balance := by rw [cells]; exact List.Perm.refl _
  once := by rw [cells]; exact List.nodup_nil
  seen := fun turn hturn => nomatch hturn
  forGood := fun earlier turn later h => by simp at h
  ages := by rw [cells]; exact fun cell hcell => nomatch hcell
  offered := fun turn hturn => nomatch hturn
  born := fun earlier turn later h => by simp at h
  ancestry := fun cell hcell => nomatch hcell

end Chronicle

namespace Population

theorem run_chronicled (config : FieldConfig) (interpret : Interpreter) (source : Random.Source)
    (accepted : config.check = .ok ()) (calls : List Call) :
    ∃ turns population, (fresh config interpret source).history calls = .ok (turns, population) ∧
      (fresh config interpret source).run calls = .ok population ∧
      turns.map Turn.call = calls ∧ Chronicle turns population := by
  have valid := FieldConfig.valid_of_check accepted
  obtain ⟨turns, population, hhistory, hrun, hcalls, -, hchronicle⟩ :=
    history_induction (fresh_sound valid interpret source) (motive := Chronicle)
      (Chronicle.start rfl rfl)
      (fun _ _ _ sound chronicle _ turned => chronicle.step sound turned) calls
  exact ⟨turns, population, hhistory, hrun, hcalls, hchronicle⟩

/-- A cell that a replay revived dies in the next tick. -/
theorem run_chronicled_died :
    ∃ turns population, FieldConfig.check {} = .ok () ∧
      (fresh {} (fun _ _ => ⟨-1, 0, 1⟩) (.seeded 7)).history
        [.replay [.fitness ⟨3, 17, .recurrent 2 64, ⟨0.9, 0.4, 0.25, 0.25, false⟩⟩],
          .tick (.ok []), .replay []] = .ok (turns, population) ∧
      turns.map (fun turn => turn.left.map Cell.id) = [[], [0], []] ∧
      Chronicle turns population := by
  have accepted : FieldConfig.check {} = .ok () := by rfl
  obtain ⟨turns, population, hhistory, -, -, hchronicle⟩ :=
    run_chronicled {} (fun _ _ => ⟨-1, 0, 1⟩) (.seeded 7) accepted
      [.replay [.fitness ⟨3, 17, .recurrent 2 64, ⟨0.9, 0.4, 0.25, 0.25, false⟩⟩],
        .tick (.ok []), .replay []]
  have hleft : ((fresh {} (fun _ _ => ⟨-1, 0, 1⟩) (.seeded 7)).history
      [.replay [.fitness ⟨3, 17, .recurrent 2 64, ⟨0.9, 0.4, 0.25, 0.25, false⟩⟩],
        .tick (.ok []), .replay []]).toOption.map
          (fun past => past.1.map fun turn => turn.left.map Cell.id) =
      some [[], [0], []] := by
    decide +kernel
  rw [hhistory] at hleft
  exact ⟨turns, population, accepted, hhistory, Option.some.inj hleft, hchronicle⟩

end Population

end Vivarium
