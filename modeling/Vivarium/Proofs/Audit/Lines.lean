import Vivarium.Audit.Recorder
import Vivarium.Proofs.Audit.RoundTrip

/-!
# A log reads as what was appended to it

The line of an entry holds neither a line feed nor a carriage return, and of the
bytes that characters are made of, one below 128 is always a character of its
own. So the line feeds of a log are those that end its lines, no line loses a
byte at its end, and cutting the log at its line feeds gives back the lines as
they were appended. No line is blank, so each of them is read as an entry, which
is the one that was appended if the floats in it are read back.
-/

namespace Vivarium

/-! ## Bytes of characters -/

theorem le_of_mem_utf8EncodeChar {d : Char} {byte : UInt8} (wide : 128 ≤ d.toNat)
    (h : byte ∈ String.utf8EncodeChar d) : 128 ≤ byte.toNat := by
  have hval : d.val.toNat = d.toNat := rfl
  unfold String.utf8EncodeChar at h
  dsimp only at h
  rw [hval, if_neg (by omega)] at h
  split at h
  · simp only [List.mem_cons, List.not_mem_nil, or_false] at h
    rcases h with rfl | rfl <;> rw [UInt8.toNat_ofNat'] <;> omega
  · split at h
    · simp only [List.mem_cons, List.not_mem_nil, or_false] at h
      rcases h with rfl | rfl | rfl <;> rw [UInt8.toNat_ofNat'] <;> omega
    · simp only [List.mem_cons, List.not_mem_nil, or_false] at h
      rcases h with rfl | rfl | rfl | rfl <;> rw [UInt8.toNat_ofNat'] <;> omega

theorem eq_of_mem_utf8EncodeChar {c d : Char} (ascii : c.toNat < 128)
    (h : UInt8.ofNat c.toNat ∈ String.utf8EncodeChar d) : c = d := by
  have hbyte : (UInt8.ofNat c.toNat).toNat = c.toNat := by
    rw [UInt8.toNat_ofNat']
    omega
  have hnarrow : d.toNat < 128 := by
    by_contra hwide
    have hle := le_of_mem_utf8EncodeChar (Nat.le_of_not_lt hwide) h
    omega
  have hval : d.val.toNat = d.toNat := rfl
  have hcode : c.toNat = d.toNat := by
    unfold String.utf8EncodeChar at h
    dsimp only at h
    rw [hval, if_pos (by omega)] at h
    have hsame := congrArg UInt8.toNat (List.mem_singleton.mp h)
    rw [hbyte, UInt8.toNat_ofNat'] at hsame
    omega
  rw [← Char.ofNat_toNat c, hcode, Char.ofNat_toNat]

theorem bytes_toUTF8 (s : String) :
    s.toUTF8.data.toList = s.toList.flatMap String.utf8EncodeChar := by
  rw [String.toUTF8_eq_toByteArray]
  conv => lhs; rw [← String.ofList_toList (s := s)]
  rw [String.toByteArray_ofList, List.utf8Encode]
  simp

theorem mem_of_mem_bytes {s : String} {c : Char} (ascii : c.toNat < 128)
    (h : UInt8.ofNat c.toNat ∈ s.toUTF8.data.toList) : c ∈ s.toList := by
  rw [bytes_toUTF8, List.mem_flatMap] at h
  obtain ⟨d, hd, h⟩ := h
  rw [eq_of_mem_utf8EncodeChar ascii h]
  exact hd

theorem fromUTF8?_toUTF8 (s : String) : String.fromUTF8? s.toUTF8 = some s := by
  have hvalid : s.toUTF8.IsValidUTF8 := s.isValidUTF8
  rw [String.fromUTF8?, dif_pos hvalid]
  rfl

namespace AuditEntry

/-- The bytes of an entry's line, without the line feed. -/
def line (entry : AuditEntry) : List UInt8 :=
  entry.encode.toUTF8.data.toList

theorem lineFeed_not_mem (entry : AuditEntry) : AuditLog.lineFeed ∉ entry.line := by
  intro h
  exact entry.not_mem_encode (c := '\n') (by decide) (mem_of_mem_bytes (by decide) h)

theorem carriageReturn_not_mem (entry : AuditEntry) : AuditLog.carriageReturn ∉ entry.line := by
  intro h
  exact entry.not_mem_encode (c := '\r') (by decide) (mem_of_mem_bytes (by decide) h)

theorem entryOf_line (entry : AuditEntry) (number : Nat) :
    AuditLog.entryOf number entry.line = (decode entry.encode number).map some := by
  have hbytes : (⟨entry.line.toArray⟩ : ByteArray) = entry.encode.toUTF8 := rfl
  rw [AuditLog.entryOf, hbytes, fromUTF8?_toUTF8]
  simp [entry.allBlank_encode]

end AuditEntry

namespace AuditLog

/-! ## Lines -/

theorem finished_reverse {bytes : List UInt8} (h : carriageReturn ∉ bytes) :
    finished bytes.reverse = bytes := by
  cases hreverse : bytes.reverse with
  | nil => exact (List.reverse_eq_nil_iff.mp hreverse).symm
  | cons last rest =>
      have hlast : last ≠ carriageReturn := by
        rintro rfl
        exact h (List.mem_reverse.mp (hreverse ▸ List.mem_cons_self))
      rw [finished, if_neg hlast, ← hreverse, List.reverse_reverse]

theorem linesFrom_append (seen : List UInt8) {bytes : List UInt8} (h : lineFeed ∉ bytes)
    (rest : List UInt8) :
    linesFrom seen (bytes ++ lineFeed :: rest) =
      finished (bytes.reverse ++ seen) :: linesFrom [] rest := by
  induction bytes generalizing seen with
  | nil => rw [List.nil_append, linesFrom, if_pos rfl, List.reverse_nil, List.nil_append]
  | cons byte bytes ih =>
      obtain ⟨hne, hrest⟩ := List.ne_and_not_mem_of_not_mem_cons h
      rw [List.cons_append, linesFrom, if_neg hne.symm, ih (byte :: seen) hrest,
        List.reverse_cons, List.append_assoc, List.singleton_append]

theorem linesFrom_flatMap (entries : List AuditEntry) :
    linesFrom [] (entries.flatMap fun entry => entry.line ++ [lineFeed]) =
      entries.map AuditEntry.line := by
  induction entries with
  | nil => rfl
  | cons entry rest ih =>
      rw [List.flatMap_cons, List.append_assoc, List.singleton_append,
        linesFrom_append [] entry.lineFeed_not_mem, ih, List.append_nil,
        finished_reverse entry.carriageReturn_not_mem, List.map_cons]

/-! ## Appending -/

theorem bytes_add (log : ByteArray) (entry : AuditEntry) :
    (add log entry).data.toList = log.data.toList ++ (entry.line ++ [lineFeed]) := by
  rw [add, ByteArray.data_append, Array.toList_append, String.toUTF8_eq_toByteArray,
    String.toByteArray_append, ByteArray.data_append, Array.toList_append]
  congr 2

theorem bytes_append (log : ByteArray) (entries : List AuditEntry) :
    (append log entries).data.toList =
      log.data.toList ++ entries.flatMap fun entry => entry.line ++ [lineFeed] := by
  induction entries generalizing log with
  | nil => simp [append]
  | cons entry rest ih =>
      show (append (add log entry) rest).data.toList = _
      rw [ih, bytes_add, List.append_assoc, List.flatMap_cons]

theorem append_append (log : ByteArray) (entries more : List AuditEntry) :
    append log (entries ++ more) = append (append log entries) more :=
  List.foldl_append

theorem size_append (log : ByteArray) (entries : List AuditEntry) :
    (append log entries).size = log.size + (entries.map Recorder.size).sum := by
  induction entries generalizing log with
  | nil => simp [append]
  | cons entry rest ih =>
      have hadd : (add log entry).size = log.size + Recorder.size entry := by
        rw [add, ByteArray.size_append, String.toUTF8_eq_toByteArray, String.toByteArray_append,
          ByteArray.size_append]
        rfl
      show (append (add log entry) rest).size = _
      rw [ih, hadd, List.map_cons, List.sum_cons, Nat.add_assoc]

/-! ## Reading -/

theorem entriesOf_lines_iff {entries : List AuditEntry}
    (storable : ∀ entry ∈ entries, entry.Storable) (number : Nat) :
    entriesOf number (entries.map AuditEntry.line) = .ok entries ↔
      ∀ entry ∈ entries, entry.ReadsBack := by
  induction entries generalizing number with
  | nil => simp [entriesOf]
  | cons entry rest ih =>
      obtain ⟨hstorable, hrest⟩ := List.forall_mem_cons.mp storable
      rw [List.forall_mem_cons, ← ih hrest (number + 1),
        ← AuditEntry.decode_encode_iff hstorable number, List.map_cons, entriesOf,
        AuditEntry.entryOf_line]
      -- A line that holds some entry at all holds one entry, so the rest is left for the rest.
      cases AuditEntry.decode entry.encode number with
      | error fault => simp [Except.map, bind, Except.bind]
      | ok found =>
          cases entriesOf (number + 1) (rest.map AuditEntry.line) with
          | error fault => simp [Except.map, bind, Except.bind]
          | ok more => simp [Except.map, bind, Except.bind, pure, Except.pure]

theorem entries_append_iff {entries : List AuditEntry}
    (storable : ∀ entry ∈ entries, entry.Storable) :
    AuditLog.entries (append .empty entries) = .ok entries ↔
      ∀ entry ∈ entries, entry.ReadsBack := by
  have hempty : ByteArray.empty.data.toList = [] := rfl
  rw [AuditLog.entries, lines, bytes_append, hempty, List.nil_append, linesFrom_flatMap]
  exact entriesOf_lines_iff storable 1

end AuditLog

end Vivarium
