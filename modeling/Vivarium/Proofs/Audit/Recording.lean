import Vivarium.Audit.Recorder
import Mathlib.Tactic

/-!
# What a recorder makes of entries

Entries may be offered to a recorder one by one or many at a time, and it comes
to the same: those that it keeps wait for the log in the order in which they
were offered, each of them has been counted with its bytes, and each of the
others has been counted as left out. What a recorder keeps never changes.
-/

namespace Vivarium

namespace Recorder

/-- The entries that a recorder keeps of those it is offered. -/
def kept (recorder : Recorder) (entries : List AuditEntry) : List AuditEntry :=
  entries.filter recorder.keeps

/-- The bytes that some entries take up in the log. -/
def sizes (entries : List AuditEntry) : Nat :=
  (entries.map size).sum

/-- What has become of a recorder that was offered some entries. -/
structure Took (before : Recorder) (entries : List AuditEntry) (after : Recorder) : Prop where
  settings : after.keeps = before.keeps
  pending : after.pending = before.pending ++ before.kept entries
  written : after.stats.written = before.stats.written + (before.kept entries).length
  bytes : after.stats.bytes = before.stats.bytes + sizes (before.kept entries)
  counted : after.stats.written + after.stats.skipped =
    before.stats.written + before.stats.skipped + entries.length

variable {recorder middle last : Recorder} {entries more : List AuditEntry}

theorem kept_append (recorder : Recorder) (entries more : List AuditEntry) :
    recorder.kept (entries ++ more) = recorder.kept entries ++ recorder.kept more :=
  List.filter_append ..

theorem kept_congr (settings : middle.keeps = recorder.keeps) (entries : List AuditEntry) :
    middle.kept entries = recorder.kept entries := by
  rw [kept, settings, kept]

theorem sizes_append (entries more : List AuditEntry) :
    sizes (entries ++ more) = sizes entries + sizes more := by
  rw [sizes, List.map_append, List.sum_append, sizes, sizes]

theorem Took.refl (recorder : Recorder) : recorder.Took [] recorder where
  settings := rfl
  pending := (List.append_nil _).symm
  written := rfl
  bytes := rfl
  counted := rfl

theorem Took.trans (first : recorder.Took entries middle) (second : middle.Took more last) :
    recorder.Took (entries ++ more) last := by
  have hkept : middle.kept more = recorder.kept more := kept_congr first.settings more
  constructor
  case settings => rw [second.settings, first.settings]
  case pending => rw [second.pending, first.pending, hkept, kept_append, List.append_assoc]
  case written =>
    rw [second.written, first.written, hkept, kept_append, List.length_append, Nat.add_assoc]
  case bytes => rw [second.bytes, first.bytes, hkept, kept_append, sizes_append, Nat.add_assoc]
  case counted => rw [second.counted, first.counted, List.length_append, Nat.add_assoc]

theorem record_took (recorder : Recorder) (entry : AuditEntry) :
    recorder.Took [entry] (recorder.record entry).2 := by
  rw [record]
  split
  · next hkeeps =>
      have hkept : recorder.kept [entry] = [entry] := by
        rw [kept, List.filter_cons_of_pos hkeeps]
        rfl
      constructor
      case settings => rfl
      case pending => rw [hkept]
      case written =>
        rw [hkept]
        rfl
      case bytes =>
        rw [hkept]
        rfl
      case counted =>
        show recorder.stats.written + 1 + recorder.stats.skipped = _
        rw [List.length_singleton]
        omega
  · next hskips =>
      have hkept : recorder.kept [entry] = [] := by rw [kept, List.filter_cons_of_neg hskips]; rfl
      constructor
      case settings => rfl
      case pending => rw [hkept, List.append_nil]
      case written =>
        rw [hkept]
        rfl
      case bytes =>
        rw [hkept]
        rfl
      case counted => rfl

theorem record_answer (recorder : Recorder) (entry : AuditEntry) :
    (if (recorder.record entry).1 then 1 else 0) = (recorder.kept [entry]).length := by
  rw [record]
  split
  · next hkeeps =>
      rw [kept, List.filter_cons_of_pos hkeeps]
      rfl
  · next hskips =>
      rw [kept, List.filter_cons_of_neg hskips]
      rfl

theorem recordAll_took (recorder : Recorder) (entries : List AuditEntry) :
    recorder.Took entries (recorder.recordAll entries).2 := by
  induction entries generalizing recorder with
  | nil => exact .refl recorder
  | cons entry rest ih => exact (recorder.record_took entry).trans (ih _)

theorem recordAll_answer (recorder : Recorder) (entries : List AuditEntry) :
    (recorder.recordAll entries).1 = (recorder.kept entries).length := by
  induction entries generalizing recorder with
  | nil => rfl
  | cons entry rest ih =>
      have hsettings := (recorder.record_took entry).settings
      have hrest := ih (recorder.record entry).2
      rw [kept_congr hsettings] at hrest
      rw [← List.singleton_append, kept_append, List.length_append, ← record_answer, ← hrest]
      rfl

end Recorder

end Vivarium
