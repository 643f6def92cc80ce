import Vivarium.Feed
import Vivarium.Number.Order
import Vivarium.Text.Lowercase
import Vivarium.Hash.Blake3

/-!
# Contexts

A context condenses a batch of observations into what every cell of a tick is
measured against. The batch is put into the order of its timestamps first,
events of one moment staying as they came, and everything after that runs
along that order; so a context does not depend on how a batch was shuffled on
its way. Events whose affect is not a finite number are dropped and the rest is
brought into range, which makes the accepted events a batch of their own that
yields the same context again.

Each token of an event adds a signed weight to one slot of the embedding. The
hash of the token chooses slot and sign; the source is a token too, and the
stronger the affect the heavier the event.

Contexts and descriptors meet in a space of sixteen dimensions. A vector is
scaled to unit length unless it is as good as zero, and then it is left alone.
-/

namespace Vivarium

open Number

def dimensions : Nat := 16

/-- A vector of the common space. -/
abbrev Embedding := Vector Float32 dimensions

namespace Embedding

def zero : Embedding :=
  Vector.replicate dimensions 0

def isZero (v : Embedding) : Bool :=
  v.all (· == 0)

/-- The inner product, added up in order. -/
def dot (v w : Embedding) : Float32 :=
  sum (v.zipWith (· * ·) w).toList

/-- The length below which a vector has no direction. -/
def smallest : Float32 := 1e-12

/-- A vector scaled to unit length. -/
def normalize (v : Embedding) : Embedding :=
  let norm := (dot v v).sqrt
  if smallest < norm then v.map (· / norm) else v

end Embedding

/-- What the observations of a batch amount to. -/
structure Context where
  embedding : Embedding := .zero
  meanAffect : Float32 := 0
  affectVariance : Float32 := 0
  eventCount : Nat := 0
  latest : Option Timestamp := none

namespace Context

/-- The context before anything has been observed. -/
def neutral : Context := {}

/-- Whether the embedding carries no signal. -/
def isNeutral (context : Context) : Bool :=
  context.embedding.isZero

/-- An observation with its affect brought into range. -/
def settle (event : Observation) : Observation :=
  { event with affect := clamp (-1) 1 event.affect }

/-- The events of a batch that count, in the order of time and with affects in range. -/
def accept (batch : List Observation) : List Observation :=
  let ordered := batch.mergeSort fun a b => a.timestamp.le b.timestamp
  (ordered.filter fun event => event.affect.isFinite).map settle

/-- The slot and the sign of a token. -/
def placeOf (token : String) : Fin dimensions × Float32 :=
  let hash := Blake3.hash token.toUTF8.toList
  -- The number of slots divides the size of a word, so of two words only the lower one matters.
  (⟨hash[0].toNat % dimensions, Nat.mod_lt _ (by decide)⟩, if hash[2] % 2 = 0 then 1 else -1)

/-- The tokens of an event. -/
def tokensOf (event : Observation) : List String :=
  ("src:" ++ event.source) :: (Text.words event.payload).map Text.lowercase

/-- An embedding with one token added. -/
def addToken (weight : Float32) (v : Embedding) (token : String) : Embedding :=
  let (slot, sign) := placeOf token
  v.set slot (v[slot] + sign * weight)

/-- An embedding with one event added. -/
def addEvent (v : Embedding) (event : Observation) : Embedding :=
  (tokensOf event).foldl (addToken (1 + event.affect.abs)) v

/-- The mean and the variance of some affects. -/
def moments (affects : List Float32) : Float × Float :=
  let count := Float.ofNat affects.length
  let mean := sumDouble (affects.map widen) / count
  let square (affect : Float32) : Float := (widen affect - mean) * (widen affect - mean)
  (mean, sumDouble (affects.map square) / count)

/-- The context of events that count, in the order of time. -/
def ofAccepted (events : List Observation) : Context :=
  let (mean, variance) := moments (events.map (·.affect))
  { embedding := (events.foldl addEvent .zero).normalize
    meanAffect := narrow mean
    affectVariance := narrow variance
    eventCount := events.length
    latest := events.getLast?.map (·.timestamp) }

/-- The context of a batch, unless no event counts, and the events that do. -/
def ofBatch (batch : List Observation) : Option Context × List Observation :=
  let accepted := accept batch
  (if accepted.isEmpty then none else some (ofAccepted accepted), accepted)

end Context

end Vivarium
