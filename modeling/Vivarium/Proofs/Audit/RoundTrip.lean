import Vivarium.Audit.Log
import Vivarium.Proofs.Form.Entries

/-!
# A line of the log

An entry is written on one line that starts with a brace and holds no control
character, so no line break either: strings escape theirs. The line holds the
entry if the floats in it are read back as they were written, and nothing else
can go wrong. Counts, moments, texts with any characters in them and values that
may be missing all come back.
-/

namespace Vivarium

open Json

namespace AuditEntry

/-- Whether all floats in an entry are finite. -/
structure Finite (entry : AuditEntry) : Prop where
  singles : ∀ x ∈ entry.singles, x.isFinite = true
  doubles : ∀ x ∈ entry.doubles, x.isFinite = true

/-- Whether the texts of the finite floats in an entry read back as these floats. -/
structure Faithful (entry : AuditEntry) : Prop where
  singles : ∀ x ∈ entry.singles, x.isFinite = true → asSingle (.single x) = some x
  doubles : ∀ x ∈ entry.doubles, x.isFinite = true → asDouble (.double x) = some x

/-- Whether an entry comes back from its line. -/
structure Readable (entry : AuditEntry) : Prop where
  storable : entry.Storable
  finite : entry.Finite
  faithful : entry.Faithful

theorem Readable.readsBack {entry : AuditEntry} (readable : entry.Readable) :
    entry.ReadsBack where
  singles x hx := readable.faithful.singles x hx (readable.finite.singles x hx)
  doubles x hx := readable.faithful.doubles x hx (readable.finite.doubles x hx)

theorem decode?_encode (entry : AuditEntry) :
    decode? entry.encode = AuditEntry.ofJson entry.toJson := by
  rw [decode?, encode, parse_compact entry.fits_toJson]
  rfl

theorem decode?_encode_eq_some_iff {entry : AuditEntry} (storable : entry.Storable) :
    decode? entry.encode = some entry ↔ entry.ReadsBack := by
  rw [decode?_encode]
  exact ofJson_toJson storable

theorem decode_encode_iff {entry : AuditEntry} (storable : entry.Storable) (number : Nat) :
    decode entry.encode number = .ok entry ↔ entry.ReadsBack := by
  rw [decode, ← decode?_encode_eq_some_iff storable]
  cases decode? entry.encode <;> simp

theorem decode_encode {entry : AuditEntry} (readable : entry.Readable) (number : Nat) :
    decode entry.encode number = .ok entry :=
  (decode_encode_iff readable.storable number).mpr readable.readsBack

theorem not_mem_encode (entry : AuditEntry) {c : Char} (control : c < ' ') :
    c ∉ entry.encode.toList := by
  intro hc
  have hle := le_of_mem_compact entry.fits_toJson c hc
  exact Char.not_lt.mpr hle control

theorem head?_encode (entry : AuditEntry) : entry.encode.toList.head? = some '{' :=
  head?_compact_object _

theorem allBlank_encode (entry : AuditEntry) : Text.allBlank entry.encode = false := by
  have hhead := entry.head?_encode
  rw [Text.allBlank]
  cases htext : entry.encode.toList with
  | nil =>
    rw [htext] at hhead
    cases hhead
  | cons first rest =>
    rw [htext] at hhead
    cases hhead
    rw [List.all_cons]
    rfl

theorem line_round_trip (entry : AuditEntry) (storable : entry.Storable) (finite : entry.Finite)
    (faithful : entry.Faithful) :
    '\n' ∉ entry.encode.toList ∧ '\r' ∉ entry.encode.toList ∧
      Text.allBlank entry.encode = false ∧ ∀ number, decode entry.encode number = .ok entry :=
  ⟨entry.not_mem_encode (by decide), entry.not_mem_encode (by decide), entry.allBlank_encode,
    fun number => decode_encode ⟨storable, finite, faithful⟩ number⟩

/-- A signal with a line break, a quote and a character of the astral planes in its reason. -/
def sample : AuditEntry :=
  .signal
    { tick := 18446744073709551615
      parameter := "budget"
      value := 0.5
      previous := some 2
      reason := "two\nlines \"and\" 𝄞"
      timestamp := { day := 20000, second := 86399, nano := 1000000001 } }

theorem line_round_trip_sample : sample.Storable ∧ sample.Finite ∧ sample.Faithful ∧
    '\n' ∉ sample.encode.toList ∧ '\r' ∉ sample.encode.toList ∧
      Text.allBlank sample.encode = false ∧ ∀ number, decode sample.encode number = .ok sample := by
  have storable : sample.Storable := by
    refine ⟨by decide, fun t ht => ?_⟩
    cases List.mem_singleton.mp ht
    exact ⟨by decide, by decide, by decide⟩
  have finite : sample.Finite := ⟨by decide +kernel, by decide +kernel⟩
  have faithful : sample.Faithful := ⟨by decide +kernel, by decide +kernel⟩
  exact ⟨storable, finite, faithful, line_round_trip sample storable finite faithful⟩

end AuditEntry

end Vivarium
