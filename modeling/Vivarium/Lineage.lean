import Vivarium.Cell

/-!
# Lineages

The field remembers which descriptors did well. A cell that leaves old enough
and fit enough is recorded under its descriptor; cells of one descriptor share
a record, which keeps their number, the greatest age, and the mean of their
mean fitness weighted by number. Every offer that gets through takes the next
sequence number, so of two equal records the later one is known.

There is room for a fixed number of records. When a new descriptor finds none,
the weakest record makes way, the oldest among equals, unless the newcomer is
no better than it.
-/

namespace Vivarium

open Number

/-- What is remembered and for how long. -/
structure LineageConfig where
  capacity : Nat := 256
  survivalAge : Nat := 5
  cutoff : Float32 := 0.6

/-- What is known of the cells with one descriptor. -/
structure LineageRecord where
  descriptor : Descriptor
  survivalAge : Nat
  meanFitness : Single
  observations : Nat
  sequence : Nat

namespace LineageRecord

/-- Whether `a` is no stronger than `b`: by mean fitness, and by recency among equals. -/
def le (a b : LineageRecord) : Bool :=
  if rank a.meanFitness = rank b.meanFitness then a.sequence ≤ b.sequence
  else rank a.meanFitness < rank b.meanFitness

/-- Two records of one descriptor as one. -/
def merge (old new : LineageRecord) : LineageRecord :=
  let total := old.observations + new.observations
  let weighted (record : LineageRecord) : Double :=
    record.meanFitness.widen * .ofCount record.observations
  { descriptor := old.descriptor
    survivalAge := max old.survivalAge new.survivalAge
    meanFitness := ((weighted old + weighted new) / .ofCount total).narrow
    observations := total
    sequence := new.sequence }

end LineageRecord

/-- The memory of lineages. -/
structure Memory where
  config : LineageConfig
  records : List LineageRecord := []
  sequence : Nat := 0

namespace Memory

def weakestOf : List LineageRecord → Option LineageRecord
  | [] => none
  | first :: rest => some (rest.foldl (fun a b => if a.le b then a else b) first)

def strongestOf : List LineageRecord → Option LineageRecord
  | [] => none
  | first :: rest => some (rest.foldl (fun a b => if a.le b then b else a) first)

def best (memory : Memory) : Option LineageRecord :=
  strongestOf memory.records

def find? (memory : Memory) (d : Descriptor) : Option LineageRecord :=
  memory.records.find? (·.descriptor == d)

/-- The records from the best to the weakest. -/
def ranked (memory : Memory) : List LineageRecord :=
  memory.records.mergeSort fun a b => b.le a

def without (records : List LineageRecord) (d : Descriptor) : List LineageRecord :=
  records.filter (·.descriptor != d)

/-- What became of an offer: the record as it is kept, if it is, and the memory after it. -/
abbrev Offer := Option LineageRecord × Memory

/-- The memory with other records. -/
def holding (memory : Memory) (records : List LineageRecord) : Memory :=
  { memory with records }

/-- Offers a record of a descriptor that is not remembered yet. -/
def takeIn (memory : Memory) (record : LineageRecord) : Offer :=
  if memory.records.length < memory.config.capacity then
    (some record, memory.holding (memory.records ++ [record]))
  else
    -- A full memory has a weakest record unless it has no capacity at all.
    match weakestOf memory.records with
    | none => (some record, memory.holding [record])
    | some weakest =>
        -- A tie goes to the record that is there; what is no number ties with nothing.
        if record.meanFitness.value ≤ weakest.meanFitness.value then (none, memory)
        else (some record, memory.holding (without memory.records weakest.descriptor ++ [record]))

/-- Offers a record, which takes the next sequence number. -/
def insert (memory : Memory) (record : LineageRecord) : Offer :=
  -- The number is used up even where the record is then turned away.
  let memory := { memory with sequence := memory.sequence + 1 }
  let record := { record with sequence := memory.sequence }
  match memory.find? record.descriptor with
  | some old =>
      let merged := old.merge record
      (some merged, memory.holding <| memory.records.map fun kept =>
        if kept.descriptor = record.descriptor then merged else kept)
  | none => memory.takeIn record

/-- Offers a cell that leaves: it must be old enough and better than the cutoff. -/
def observe (memory : Memory) (cell : Cell) : Offer :=
  -- A mean that is no number is not better than the cutoff; but it is not at most the cutoff either.
  if cell.age < memory.config.survivalAge || cell.meanFitness.value ≤ memory.config.cutoff then
    (none, memory)
  else
    memory.insert
      { descriptor := cell.descriptor
        survivalAge := cell.age
        meanFitness := cell.meanFitness
        observations := 1
        sequence := 0 }

/-- Offers a record of the past; it counts for one observation at least. -/
def restore (memory : Memory) (record : LineageRecord) : Offer :=
  if record.meanFitness.value.isFinite then
    memory.insert { record with observations := max record.observations 1 }
  else (none, memory)

/-- Offers cells one after another; the records that were kept are returned in order. -/
def observeAll (memory : Memory) : List Cell → List LineageRecord × Memory
  | [] => ([], memory)
  | cell :: rest =>
      let (kept, memory) := memory.observe cell
      let (more, memory) := memory.observeAll rest
      (kept.toList ++ more, memory)

/-- Offers records one after another; how many were kept is counted. -/
def restoreAll (memory : Memory) : List LineageRecord → Nat × Memory
  | [] => (0, memory)
  | record :: rest =>
      let (kept, memory) := memory.restore record
      let (more, memory) := memory.restoreAll rest
      ((if kept.isSome then 1 else 0) + more, memory)

end Memory

end Vivarium
