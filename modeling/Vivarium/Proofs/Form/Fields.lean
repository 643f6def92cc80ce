import Vivarium.Proofs.Answers
import Vivarium.Proofs.Json.Values
import Vivarium.Json.Fields
import Vivarium.Form.Descriptor
import Vivarium.Form.Observation
import Vivarium.Proofs.Time.Timestamp

/-!
# Records are read as they are written

A record is written with all of its fields, each under its own name, so the
reader finds every field it asks for and nothing twice. A tag in front comes off
again, and what is left is the record without it. Numbers come back where they
fit their field.
-/

namespace Vivarium.Json

/-! ## Values -/

theorem toInt?_ofNat {n : Nat} (small : n < wordBound) :
    (Literal.ofNat n).toInt? = some (n : Int) := by
  have hvalue : natOfDigits (Literal.ofNat n).whole = n := Number.natOfDigits_digitsOf n
  have hintegral : (Literal.ofNat n).integral = true := rfl
  have hsign : (Literal.ofNat n).negative = false := rfl
  simp [Literal.toInt?, hvalue, hintegral, hsign, small]

theorem asNatBelow_nat {n bound : Nat} (small : n < wordBound) (h : n < bound) :
    asNatBelow bound (.nat n) = some n := by
  rw [nat, asNatBelow, toInt?_ofNat small]
  exact if_pos h

theorem asNat_nat {n : Nat} (small : n < wordBound) : asNat (.nat n) = some n :=
  asNatBelow_nat small small

theorem asWord_count (n : UInt32) : asWord (Descriptor.count n) = some n := by
  have hsize := n.toNat_lt_size
  have hword : n.toNat < wordBound := Nat.lt_trans hsize (by decide)
  rw [asWord, Descriptor.count, asNatBelow_nat hword hsize, Option.map_some, UInt32.ofNat_toNat]

theorem asText_text (s : String) : asText (.text s) = some s :=
  rfl

theorem ofJson_toJson_timestamp {t : Timestamp} (representable : t.Representable) :
    Timestamp.ofJson t.toJson = some t := by
  rw [Timestamp.ofJson, Timestamp.toJson, asText_text, Option.bind_eq_bind, Option.bind_some,
    Timestamp.read?_text representable]

theorem readable_nat {n : Nat} (small : n < wordBound) : readable (.nat n) = true := by
  rw [nat, readable, Literal.toDouble?, toInt?_ofNat small]
  rfl

theorem readable_of_asSingle {j : Json} {x : Float32} (h : asSingle j = some x) :
    readable j = true := by
  cases j with
  | number l =>
    rw [readable, Literal.toDouble?]
    rw [asSingle, Literal.toSingle?] at h
    cases hint : l.toInt? with
    | some n => rfl
    | none =>
      rw [hint] at h
      obtain ⟨value, hvalue, -⟩ := Option.map_eq_some_iff.mp h
      show l.scaled.isSome = true
      rw [hvalue]
      rfl
  | null | bool | string | array | object | buried => cases h

theorem readable_of_asDouble {j : Json} {x : Float} (h : asDouble j = some x) :
    readable j = true := by
  cases j with
  | number l =>
    rw [asDouble] at h
    rw [readable, h]
    rfl
  | null | bool | string | array | object | buried => cases h

theorem asOption_eq_some_some {α : Type} {read : Json → Option α} (hnull : read .null = none)
    {j : Json} {x : α} : asOption read j = some (some x) ↔ read j = some x := by
  cases j with
  | null => simp [asOption, hnull]
  | bool | number | string | array | object | buried => simp [asOption]

/-- Items that come back one by one come back together. -/
theorem asList_array_map {α : Type} {read : Json → Option α} {write : α → Json} {items : List α}
    (h : ∀ item ∈ items, read (write item) = some item) :
    asList read (.array (items.map write)) = some items := by
  rw [asList, List.mapM_map]
  exact (mapM_eq_pure h).trans (congrArg some (List.map_id _))

theorem readable_text (s : String) : readable (.text s) = true :=
  rfl

theorem readable_bool (b : Bool) : readable (.bool b) = true :=
  rfl

theorem readable_count (n : UInt32) : readable (Descriptor.count n) = true :=
  readable_nat (Nat.lt_trans n.toNat_lt_size (by decide))

theorem fits_nat (room n : Nat) : Fits room (.nat n) :=
  Literal.ofNat_wellFormed n

theorem fits_single (room : Nat) (x : Float32) : Fits room (.single x) := by
  rcases single_cases x with h | ⟨l, h, wellFormed⟩
  · rw [h]
    trivial
  · rw [h]
    exact wellFormed

theorem fits_double (room : Nat) (x : Float) : Fits room (.double x) := by
  rcases double_cases x with h | ⟨l, h, wellFormed⟩
  · rw [h]
    trivial
  · rw [h]
    exact wellFormed

theorem fits_text (room : Nat) (s : String) : Fits room (.text s) :=
  rfl

theorem fits_bool (room : Nat) (b : Bool) : Fits room (.bool b) :=
  trivial

/-! ## Records -/

theorem named_record (names : List String) (ms : List (String × Json))
    (known : ∀ m ∈ ms, m.1 ∈ names) :
    Fields.named names (ms.map fun (name, value) => (some name, value)) = some ms := by
  induction ms with
  | nil => rfl
  | cons m ms ih =>
    obtain ⟨name, value⟩ := m
    have hrest := ih fun other hother => known other (List.mem_cons_of_mem _ hother)
    have hname : names.contains name = true :=
      List.contains_iff_mem.mpr (known (name, value) List.mem_cons_self)
    rw [List.map_cons, Fields.named, hrest, Option.map_some, hname]
    rfl

theorem distinct_of_nodup {ms : List (String × Json)} (nodup : (ms.map (·.1)).Nodup) :
    Fields.distinct ms = true := by
  induction ms with
  | nil => rfl
  | cons m ms ih =>
    obtain ⟨hfresh, hrest⟩ := List.nodup_cons.mp nodup
    rw [Fields.distinct, ih hrest, Bool.and_true, List.all_eq_true]
    intro other hother
    rw [bne_iff_ne]
    intro hsame
    exact hfresh (List.mem_map.mpr ⟨other, hother, hsame⟩)

/-- The fields of a record that is written with some of the names it is read by. -/
theorem of_record_of_known {names : List String} {ms : List (String × Json)}
    (known : ∀ m ∈ ms, m.1 ∈ names) (nodup : (ms.map (·.1)).Nodup) :
    Fields.of names (.record ms) = some { ordered := false, found := ms } := by
  simp only [Fields.of, record, named_record names ms known, Option.bind_eq_bind, Option.bind_some,
    distinct_of_nodup nodup, if_true]

/-- The fields of a record that is written with the names it is read by. -/
theorem of_record {names : List String} {ms : List (String × Json)}
    (hnames : ms.map (·.1) = names) (nodup : names.Nodup) :
    Fields.of names (.record ms) = some { ordered := false, found := ms } := by
  refine of_record_of_known (fun m hm => ?_) (hnames ▸ nodup)
  rw [← hnames]
  exact List.mem_map_of_mem hm

theorem readableMembers_record {ms : List (String × Json)} (h : ∀ m ∈ ms, readable m.2 = true) :
    readableMembers (ms.map fun (name, value) => (some name, value)) = true := by
  induction ms with
  | nil => rfl
  | cons m ms ih =>
    rw [List.map_cons, readableMembers, h m List.mem_cons_self,
      ih fun other hother => h other (List.mem_cons_of_mem _ hother)]
    rfl

theorem readable_record {ms : List (String × Json)} (h : ∀ m ∈ ms, readable m.2 = true) :
    readable (.record ms) = true := by
  rw [record, readable]
  exact readableMembers_record h

theorem fits_record {room : Nat} {ms : List (String × Json)} (h : ∀ m ∈ ms, Fits room m.2) :
    Fits (room + 1) (.record ms) := by
  refine ⟨Nat.succ_pos room, ?_⟩
  rw [Nat.add_sub_cancel]
  induction ms with
  | nil => trivial
  | cons m ms ih =>
    exact ⟨rfl, h m List.mem_cons_self,
      ih fun other hother => h other (List.mem_cons_of_mem _ hother)⟩

/-- A tag in front comes off if the rest can be held. -/
theorem tagged_record {tag : String} {value : Json} {ms : List (String × Json)}
    (fresh : tag ∉ ms.map (·.1)) : tagged tag (.record ((tag, value) :: ms)) =
      if readable (.record ms) then some (value, .record ms) else none := by
  have hother : ∀ m ∈ ms.map fun (name, value) => (some name, value),
      (m.1 == some tag) = false := by
    intro m hm
    obtain ⟨⟨name, other⟩, hmem, rfl⟩ := List.mem_map.mp hm
    refine beq_eq_false_iff_ne.mpr fun hsame => fresh ?_
    cases hsame
    exact List.mem_map_of_mem hmem
  have hfound : ((some tag, value) :: ms.map fun (name, value) => (some name, value)).partition
      (·.1 == some tag) =
      ([(some tag, value)], ms.map fun (name, value) => (some name, value)) := by
    have hnone := List.filter_eq_nil_iff.mpr fun m hm => Bool.eq_false_iff.mp (hother m hm)
    have hall := List.filter_eq_self.mpr fun m hm => congrArg not (hother m hm)
    rw [List.partition_eq_filter_filter, List.filter_cons_of_pos (by simp), hnone,
      List.filter_cons_of_neg (by simp)]
    exact congrArg ([(some tag, value)], ·) hall
  rw [record, List.map_cons, tagged, record, readable]
  simp only [hfound]

end Vivarium.Json
