import Vivarium.Proofs.Audit.Lines

/-!
# The end of a log, read by itself

A reader that wants the last entries only goes over all the lines and moves a
window along. What it is after is the end of what the other reader gets, and at
every line the window is just that: the end of what has been read so far. So
the two cannot come apart at the last line, whatever the window is wide, and
they stop at the same line if one cannot be read, because moving the window
never fails.

They do come apart before the first line. Room for the window is set aside at
once, and not as it fills; a width that no block of memory could have is a
fault, even where the log has a single entry.
-/

namespace Vivarium

namespace AuditLog

/-! ## The window -/

theorem slide_lastOf (n : Nat) (seen : List AuditEntry) (entry : AuditEntry) :
    slide n (lastOf n seen) entry = lastOf n (seen ++ [entry]) := by
  unfold slide lastOf
  rw [List.length_append, List.length_singleton, List.length_drop]
  split
  · next hzero =>
      rw [hzero, List.drop_eq_nil_of_le (by omega), List.drop_eq_nil_of_le (by simp)]
  · split
    · next hfull =>
        have hone : seen.length + 1 - n = seen.length - n + 1 := by omega
        rw [hone, List.drop_append_of_le_length (by omega), List.tail_drop]
    · next hroom =>
        have hall : seen.length - n = 0 := by omega
        have hall' : seen.length + 1 - n = 0 := by omega
        rw [hall, hall', List.drop_zero, List.drop_zero]

theorem tailOf_lastOf (n number : Nat) (seen : List AuditEntry) (lines : List (List UInt8)) :
    tailOf n number (lastOf n seen) lines =
      (entriesOf number lines).map fun found => lastOf n (seen ++ found) := by
  induction lines generalizing number seen with
  | nil =>
      show Except.ok (lastOf n seen) = .ok (lastOf n (seen ++ []))
      rw [List.append_nil]
  | cons line rest ih =>
      rw [tailOf, entriesOf]
      cases entryOf number line with
      | error fault => rfl
      | ok found =>
          cases found with
          | none =>
              show tailOf n (number + 1) (lastOf n seen) rest = _
              rw [ih]
              cases entriesOf (number + 1) rest <;> rfl
          | some entry =>
              show tailOf n (number + 1) (slide n (lastOf n seen) entry) rest = _
              rw [slide_lastOf, ih]
              cases entriesOf (number + 1) rest with
              | error fault => rfl
              | ok more =>
                  show Except.ok (lastOf n (seen ++ [entry] ++ more)) =
                    Except.ok (lastOf n (seen ++ ([entry] ++ more)))
                  rw [List.append_assoc]

theorem tail_of_room {n : Nat} (room : n * AuditEntry.footprint ≤ largestBlock) (log : ByteArray) :
    tail log n = (entries log).map (lastOf n) := by
  have hempty : lastOf n ([] : List AuditEntry) = [] := List.drop_nil
  rw [tail, setAside, if_pos room]
  show tailOf n 1 [] (lines log) = (entriesOf 1 (lines log)).map (lastOf n)
  rw [← hempty, tailOf_lastOf]
  rfl

theorem tail_of_no_room {n : Nat} (scarce : ¬ n * AuditEntry.footprint ≤ largestBlock)
    (log : ByteArray) : tail log n = .error (.faulted .oversized) := by
  rw [tail, setAside, if_neg scarce]
  rfl

/-! ## The line that stops a reader -/

/-- Whether a line can be read: as nothing, if it is blank, or as an entry. -/
def Legible (line : List UInt8) : Prop :=
  ∃ text, String.fromUTF8? ⟨line.toArray⟩ = some text ∧
    (Text.allBlank text = true ∨ ∃ entry, AuditEntry.decode? text = some entry)

/-- What is wrong with the line of a given number, if it cannot be read. -/
inductive Breaks (number : Nat) (line : List UInt8) : LogError → Prop where
  | garbled (bytes : String.fromUTF8? ⟨line.toArray⟩ = none) : Breaks number line .garbled
  | malformed {text : String} (bytes : String.fromUTF8? ⟨line.toArray⟩ = some text)
      (written : Text.allBlank text = false) (undecoded : AuditEntry.decode? text = none) :
      Breaks number line (.malformed number)

theorem entryOf_cases (number : Nat) (line : List UInt8) :
    (Legible line ∧ ∃ found, entryOf number line = .ok found) ∨
      ∃ fault, Breaks number line fault ∧ entryOf number line = .error fault := by
  unfold entryOf
  split
  · next hbytes => exact .inr ⟨_, .garbled hbytes, rfl⟩
  · next text hbytes =>
      split
      · next hblank => exact .inl ⟨⟨text, hbytes, .inl hblank⟩, _, rfl⟩
      · next hwritten =>
          rw [AuditEntry.decode]
          cases hdecode : AuditEntry.decode? text with
          | none =>
              have hwritten := Bool.eq_false_of_not_eq_true hwritten
              exact .inr ⟨_, .malformed hbytes hwritten hdecode, rfl⟩
          | some entry => exact .inl ⟨⟨text, hbytes, .inr ⟨entry, hdecode⟩⟩, _, rfl⟩

theorem Legible.not_breaks {line : List UInt8} (legible : Legible line) (number : Nat)
    (fault : LogError) : ¬ Breaks number line fault := by
  obtain ⟨text, hbytes, hread⟩ := legible
  rintro (hnone | ⟨hbytes', hwritten, hdecode⟩)
  · rw [hbytes] at hnone
    cases hnone
  · cases hbytes.symm.trans hbytes'
    rcases hread with hblank | ⟨entry, hentry⟩
    · rw [hblank] at hwritten
      cases hwritten
    · rw [hdecode] at hentry
      cases hentry

theorem exists_entryOf_iff (number : Nat) (line : List UInt8) :
    (∃ found, entryOf number line = .ok found) ↔ Legible line := by
  rcases entryOf_cases number line with ⟨legible, hfound⟩ | ⟨fault, hbreaks, herror⟩
  · exact iff_of_true hfound legible
  · refine iff_of_false ?_ fun legible => legible.not_breaks number fault hbreaks
    rintro ⟨found, hfound⟩
    rw [herror] at hfound
    cases hfound

theorem entryOf_eq_error_iff (number : Nat) (line : List UInt8) (fault : LogError) :
    entryOf number line = .error fault ↔ Breaks number line fault := by
  rcases entryOf_cases number line with ⟨legible, found, hfound⟩ | ⟨other, hbreaks, herror⟩
  · rw [hfound]
    exact iff_of_false (fun h => nomatch h) (legible.not_breaks number fault)
  · rw [herror, Except.error.injEq]
    refine ⟨fun heq => heq ▸ hbreaks, fun hbreaks' => ?_⟩
    cases hbreaks <;> cases hbreaks' <;> simp_all

/-- The first line that cannot be read stops a reader, and nothing behind it is looked at. -/
theorem entriesOf_eq_error_iff (number : Nat) (lines : List (List UInt8)) (fault : LogError) :
    entriesOf number lines = .error fault ↔
      ∃ before line after, lines = before ++ line :: after ∧
        (∀ earlier ∈ before, Legible earlier) ∧ Breaks (number + before.length) line fault := by
  induction lines generalizing number with
  | nil => simp [entriesOf]
  | cons first rest ih =>
      rw [entriesOf]
      constructor
      · intro h
        rcases entryOf_cases number first with ⟨legible, found, hfound⟩ | ⟨other, hbreaks, herror⟩
        · rw [hfound] at h
          have hrest : entriesOf (number + 1) rest = .error fault := by
            cases hmore : entriesOf (number + 1) rest with
            | error later =>
                rw [hmore] at h
                exact h
            | ok more =>
                rw [hmore] at h
                cases h
          obtain ⟨before, line, after, rfl, hbefore, hbreaks⟩ := (ih (number + 1)).mp hrest
          -- The rest is numbered from the next line on, so its line numbers need no change.
          refine ⟨first :: before, line, after, rfl, List.forall_mem_cons.mpr ⟨legible, hbefore⟩, ?_⟩
          rwa [List.length_cons, ← Nat.add_assoc, Nat.add_right_comm]
        · rw [herror] at h
          cases h
          exact ⟨[], first, rest, rfl, by simp, hbreaks⟩
      · rintro ⟨before, line, after, hsplit, hbefore, hbreaks⟩
        cases before with
        | nil =>
            obtain ⟨rfl, rfl⟩ := List.cons.inj hsplit
            rw [(entryOf_eq_error_iff number first fault).mpr hbreaks]
            rfl
        | cons head before =>
            obtain ⟨rfl, hrest⟩ := List.cons.inj hsplit
            obtain ⟨hfirst, hbefore⟩ := List.forall_mem_cons.mp hbefore
            obtain ⟨found, hfound⟩ := (exists_entryOf_iff number first).mpr hfirst
            rw [List.length_cons, ← Nat.add_assoc, Nat.add_right_comm] at hbreaks
            rw [hfound, (ih (number + 1)).mpr ⟨before, line, after, hrest, hbefore, hbreaks⟩]
            rfl

/-! ## Both readers -/

/-- Whether a log cannot be read for a reason: on its first line that cannot, all lines counted. -/
def Stops (log : ByteArray) (fault : LogError) : Prop :=
  ∃ before line after, lines log = before ++ line :: after ∧
    (∀ earlier ∈ before, Legible earlier) ∧ Breaks (before.length + 1) line fault

theorem entries_eq_error_iff (log : ByteArray) (fault : LogError) :
    entries log = .error fault ↔ Stops log fault := by
  unfold entries Stops
  simp only [entriesOf_eq_error_iff, Nat.add_comm 1]

theorem entries_ne_faulted (log : ByteArray) (fault : Fault) :
    entries log ≠ .error (.faulted fault) := by
  intro h
  obtain ⟨before, line, after, -, -, hbreaks⟩ := (entries_eq_error_iff log _).mp h
  cases hbreaks

theorem entries_ne_missing (log : ByteArray) : entries log ≠ .error .missing := by
  intro h
  obtain ⟨before, line, after, -, -, hbreaks⟩ := (entries_eq_error_iff log _).mp h
  cases hbreaks

theorem tail_eq_iff (log : ByteArray) (n : Nat) :
    tail log n = (entries log).map (lastOf n) ↔ n * AuditEntry.footprint ≤ largestBlock := by
  refine ⟨fun h => ?_, fun room => tail_of_room room log⟩
  by_contra hscarce
  rw [tail_of_no_room hscarce] at h
  cases hentries : entries log with
  | error fault =>
      rw [hentries] at h
      cases h
      exact entries_ne_faulted log _ hentries
  | ok found =>
      rw [hentries] at h
      cases h

/-- How the two ways of reading the end of a log that may not be there compare, and where the
reader of the whole log stops. -/
structure ReadsEnd (log : Option ByteArray) (n : Nat) : Prop where
  agree : tail? log n = (open? log).map (lastOf n) ↔
    log = none ∨ n * AuditEntry.footprint ≤ largestBlock
  scarce : ∀ bytes, log = some bytes → ¬ n * AuditEntry.footprint ≤ largestBlock →
    tail? log n = .error (.faulted .oversized)
  missing : open? log = .error .missing ↔ log = none
  stops : ∀ bytes, log = some bytes → ∀ fault, open? log = .error fault ↔ Stops bytes fault

theorem reads_end_iff (log : Option ByteArray) (n : Nat) : ReadsEnd log n := by
  cases log with
  | none => exact ⟨iff_of_true rfl (.inl rfl), by simp, iff_of_true rfl rfl, by simp⟩
  | some bytes =>
      have hthere : some bytes ≠ none := Option.some_ne_none bytes
      constructor
      · rw [or_iff_right hthere]
        exact tail_eq_iff bytes n
      · rintro _ - hscarce
        exact tail_of_no_room hscarce bytes
      · exact iff_of_false (entries_ne_missing bytes) hthere
      · rintro _ ⟨⟩ fault
        exact entries_eq_error_iff bytes fault

/-- An observation that was made at the epoch. -/
def early : AuditEntry :=
  .observation { timestamp := { day := 0, second := 0, nano := 0 }, source := "a" }

/-- A log of one entry, of which the reader of ends asks for as many as a word of 64 bits says. -/
theorem tail_out_of_room :
    open? (some (append .empty [early])) = .ok [early] ∧
      lastOf 18446744073709551615 [early] = [early] ∧
      tail? (some (append .empty [early])) 18446744073709551615 =
        .error (.faulted .oversized) := by
  have storable : ∀ entry ∈ [early], entry.Storable := by
    refine List.forall_mem_singleton.mpr ⟨by decide, fun t ht => ?_⟩
    cases List.mem_singleton.mp ht
    exact ⟨by decide, by decide, by decide⟩
  have back : ∀ entry ∈ [early], entry.ReadsBack :=
    List.forall_mem_singleton.mpr ⟨by decide +kernel, (fun x hx => nomatch hx)⟩
  exact ⟨(entries_append_iff storable).mpr back, rfl, tail_of_no_room (by decide) _⟩

end AuditLog

end Vivarium
