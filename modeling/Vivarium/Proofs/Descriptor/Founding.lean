import Vivarium.Proofs.Descriptor.Bounds
import Vivarium.Proofs.Random.Draw
import Vivarium.Descriptor.Founding

/-!
# Founders keep to the bounds

A founder's descriptor is drawn count by count from what the bounds allow, so it
lies in bounds before it is clamped, and clamping leaves it as it is. That holds
of whatever words the source gives: each step takes a member of a range or of a
list, and which one it is does not matter.

Two counts have a preference. Widths are powers of two where the range holds one,
since those of the range are all there is to choose from. Kernels are odd where
the range holds an odd number: they are counted up in twos from the least odd
number not below the range, which is in the range exactly if any odd number is.
The steps taken are no more than there is room for, so the sum ends within the
range, its parts are smaller still, and none of them leaves the words.
-/

namespace Vivarium

namespace Span

/-- Whether a range holds a power of two. -/
def HasPower (span : Span) : Prop :=
  ∃ n, span.holds n = true ∧ n.toNat.isPowerOfTwo

/-- Whether a range holds an odd number. -/
def HasOdd (span : Span) : Prop :=
  ∃ n, span.holds n = true ∧ n.toNat % 2 = 1

end Span

namespace Descriptor

/-- Whether a descriptor has an odd kernel, or no kernel at all. -/
def OddKernel (d : Descriptor) : Prop :=
  ∀ kernel, d.kernel? = some kernel → kernel.toNat % 2 = 1

/-- What bounds promise of a founder's descriptor. -/
structure Lawful (bounds : Bounds) (d : Descriptor) : Prop where
  kind : d.kind ∈ bounds.kinds
  counts : bounds.Admits d
  power : bounds.width.HasPower → d.width.toNat.isPowerOfTwo
  odd : bounds.kernel.HasOdd → d.OddKernel

end Descriptor

namespace Random.Draw

variable {bounds : Bounds} {span : Span}

/-! ## Widths -/

theorem toNat_power {e : Nat} (he : e < 32) : (UInt32.ofNat (Nat.pow 2 e)).toNat = 2 ^ e :=
  UInt32.toNat_ofNat_of_lt' (Nat.pow_lt_pow_right (by decide) he)

theorem lt_of_toNat_eq_pow {n : UInt32} {e : Nat} (h : n.toNat = 2 ^ e) : e < 32 := by
  have hn : n.toNat < 2 ^ 32 := n.toNat_lt
  rw [h] at hn
  exact (Nat.pow_lt_pow_iff_right (by decide)).mp hn

theorem yields_powersIn (span : Span) :
    Yields (powersIn span : Draw (List UInt32)) fun powers =>
      ∀ n, n ∈ powers ↔ span.holds n = true ∧ n.toNat.isPowerOfTwo := by
  have hpowers : (List.range 32).mapM (fun e => fit (Nat.pow 2 e)) =
      .ok ((List.range 32).map fun e => UInt32.ofNat (Nat.pow 2 e)) := by
    refine mapM_eq_ok fun e he => ?_
    have hlt : Nat.pow 2 e < UInt32.size :=
      Nat.pow_lt_pow_right (by decide) (List.mem_range.mp he)
    exact fit_eq_ok (Int.natCast_nonneg _) (Int.ofNat_lt.mpr hlt)
  have hfiltered : powersIn span =
      .ok (((List.range 32).map fun e => UInt32.ofNat (Nat.pow 2 e)).filter span.holds) := by
    rw [powersIn, hpowers]
    rfl
  refine yields_ok hfiltered fun n => ?_
  rw [List.mem_filter, List.mem_map, and_comm]
  refine and_congr_right fun _ => ⟨?_, ?_⟩
  · rintro ⟨e, he, rfl⟩
    exact ⟨e, toNat_power (List.mem_range.mp he)⟩
  · rintro ⟨e, hn⟩
    have he := lt_of_toNat_eq_pow hn
    exact ⟨e, List.mem_range.mpr he, UInt32.toNat_inj.mp ((toNat_power he).trans hn.symm)⟩

theorem yields_width (h : span.low ≤ span.high) :
    (width span).Yields fun n =>
      span.holds n = true ∧ (span.HasPower → n.toNat.isPowerOfTwo) := by
  unfold width
  refine yields_bind (yields_powersIn span) fun powers hpowers => ?_
  refine yields_bind (yields_choose powers) fun found hfound => ?_
  rcases hfound with ⟨rfl, hnone⟩ | ⟨power, hpower, rfl⟩
  · refine (yields_between h).mono fun n hn => ⟨Span.holds_iff.mpr hn, ?_⟩
    rintro ⟨power, hpower⟩
    rw [← hpowers power, hnone] at hpower
    cases hpower
  · exact yields_pure ⟨((hpowers power).mp hpower).1, fun _ => ((hpowers power).mp hpower).2⟩

/-! ## Kernels -/

theorem toNat_leastOdd (n : UInt32) : (leastOdd n).toNat = 2 * (n.toNat / 2) + 1 := by
  have hhalf : (n.toNat ||| 1) / 2 = n.toNat / 2 := by
    rw [Nat.or_div_two]
    simp
  have hodd : (n.toNat ||| 1) % 2 = 1 := by
    rw [Nat.or_mod_two_eq_one]
    simp
  have hor : (leastOdd n).toNat = n.toNat ||| 1 := UInt32.toNat_or n 1
  omega

theorem leastOdd_le_of_hasOdd (hasOdd : span.HasOdd) : leastOdd span.low ≤ span.high := by
  obtain ⟨odd, hin, hodd⟩ := hasOdd
  have hfirst := toNat_leastOdd span.low
  simp only [Span.holds_iff, UInt32.le_iff_toNat_le] at hin ⊢
  omega

theorem yields_kernel (h : span.low ≤ span.high) :
    (kernel span).Yields fun n =>
      span.holds n = true ∧ (span.HasOdd → n.toNat % 2 = 1) := by
  have hfirst := toNat_leastOdd span.low
  have hhigh : span.high.toNat < UInt32.size := span.high.toNat_lt
  unfold kernel
  dsimp only
  split
  · next hbeyond =>
      refine (yields_between h).mono fun n hn => ⟨Span.holds_iff.mpr hn, fun hasOdd => ?_⟩
      exact absurd (leastOdd_le_of_hasOdd hasOdd) (UInt32.not_le.mpr hbeyond)
  · next hfits =>
      have hgap : (leastOdd span.low).toNat ≤ span.high.toNat := UInt32.not_lt.mp hfits
      refine yields_bind (yields_fit (by omega) (by omega)) fun room hroom => ?_
      refine yields_bind (yields_between UInt32.zero_le) fun steps hsteps => ?_
      have hhalf : steps.toNat ≤ room.toNat / 2 := hsteps.2
      refine yields_bind (yields_fit (by omega) (by omega)) fun twice htwice => ?_
      refine (yields_fit (by omega) (by omega)).mono fun n hn => ?_
      rw [Span.holds_iff]
      simp only [UInt32.le_iff_toNat_le]
      exact ⟨by omega, fun _ => by omega⟩

/-! ## Descriptors -/

/-- A founder's descriptor as it is drawn, before it is clamped. -/
def unclamped (bounds : Bounds) : Draw Descriptor := do
  let kind := (← choose bounds.kinds).getD .recurrent
  let layers ← between bounds.layers.low bounds.layers.high
  let width ← width bounds.width
  match kind with
  | .attention => return .attention layers width ((← choose bounds.heads).getD 1)
  | .recurrent => return .recurrent layers width
  | .convolutional => return .convolutional layers width (← kernel bounds.kernel)

theorem descriptor_eq (bounds : Bounds) :
    descriptor bounds = unclamped bounds >>= fun d => (bounds.clamp d : Draw Descriptor) := by
  unfold descriptor unclamped
  simp only [bind_assoc]
  refine bind_congr fun found => bind_congr fun layers => bind_congr fun width => ?_
  cases found.getD .recurrent with
  | attention => simp only [bind_assoc, pure_bind]
  | recurrent => simp only [pure_bind]
  | convolutional => simp only [bind_assoc, pure_bind]

theorem yields_unclamped (h : bounds.Sound) :
    (unclamped bounds).Yields (Descriptor.Lawful bounds) := by
  unfold unclamped
  refine yields_bind (yields_choose bounds.kinds) fun found hfound => ?_
  refine yields_bind (yields_between h.layers.ordered) fun layers hlayers => ?_
  refine yields_bind (yields_width h.width.ordered) fun width hwidth => ?_
  have hkind : found.getD .recurrent ∈ bounds.kinds := by
    rcases hfound with ⟨-, hnil⟩ | ⟨kind, hmem, rfl⟩
    · exact absurd hnil h.kinds_ne_nil
    · exact hmem
  have hlayers := Span.holds_iff.mpr hlayers
  generalize found.getD .recurrent = kind at hkind ⊢
  cases kind with
  | attention =>
      refine yields_bind (yields_choose bounds.heads) fun heads hheads => yields_pure ?_
      rcases hheads with ⟨-, hnil⟩ | ⟨count, hmem, rfl⟩
      · exact absurd hnil h.heads_ne_nil
      · have hcounts : bounds.Admits (.attention layers width count) := Bounds.admits_iff.mpr
          ⟨hlayers, hwidth.1, fun n hn => Option.some_inj.mp hn ▸ hmem, nofun⟩
        exact ⟨hkind, hcounts, hwidth.2, fun _ => nofun⟩
  | recurrent =>
      have hcounts : bounds.Admits (.recurrent layers width) :=
        Bounds.admits_iff.mpr ⟨hlayers, hwidth.1, nofun, nofun⟩
      exact yields_pure ⟨hkind, hcounts, hwidth.2, fun _ => nofun⟩
  | convolutional =>
      refine yields_bind (yields_kernel h.kernel.ordered) fun kernel hkernel => yields_pure ?_
      have hcounts : bounds.Admits (.convolutional layers width kernel) := Bounds.admits_iff.mpr
        ⟨hlayers, hwidth.1, nofun, fun n hn => Option.some_inj.mp hn ▸ hkernel.1⟩
      exact ⟨hkind, hcounts, hwidth.2,
        fun hasOdd n hn => Option.some_inj.mp hn ▸ hkernel.2 hasOdd⟩

theorem run_descriptor (h : bounds.Sound) (source : Source) :
    (descriptor bounds).run source = (unclamped bounds).run source := by
  obtain ⟨d, rest, hrun, lawful⟩ := yields_unclamped h source
  have hclamp : bounds.clamp d = .ok d := by
    rw [Bounds.clamp_eq_ok h.proper, Bounds.project_of_admits h.proper lawful.counts]
  rw [descriptor_eq, StateT.run_bind, hrun]
  show (bounds.clamp d : Draw Descriptor).run rest = _
  rw [hclamp]
  rfl

theorem yields_descriptor (h : bounds.Sound) :
    (descriptor bounds).Yields (Descriptor.Lawful bounds) := by
  intro source
  rw [run_descriptor h]
  exact yields_unclamped h source

theorem founding_lawful (accepted : bounds.check = .ok ()) (source : Source) :
    ∃ d rest, (descriptor bounds).run source = .ok (d, rest) ∧
      (unclamped bounds).run source = .ok (d, rest) ∧ d.Lawful bounds := by
  have sound := Bounds.sound_of_check accepted
  obtain ⟨d, rest, hrun, lawful⟩ := yields_unclamped sound source
  exact ⟨d, rest, (run_descriptor sound source).trans hrun, hrun, lawful⟩

/-- Bounds with widths that are no powers of two, and kernels up to the last word. -/
def narrow : Bounds where
  layers := ⟨1, 4294967295⟩
  width := ⟨5, 7⟩
  heads := [3, 3]
  kernel := ⟨4294967294, 4294967295⟩
  kinds := [.convolutional, .convolutional]

/-- The only odd kernel is the last word, and it is drawn without leaving the words. -/
theorem founding_lawful_narrow :
    narrow.check = .ok () ∧ narrow.kernel.HasOdd ∧
    ∃ d rest, (descriptor narrow).run ⟨fun _ => 1000000000, 0⟩ = .ok (d, rest) ∧
      (unclamped narrow).run ⟨fun _ => 1000000000, 0⟩ = .ok (d, rest) ∧
      d.kind ∈ [Kind.convolutional, .convolutional] ∧ narrow.Admits d ∧ d.OddKernel := by
  have accepted : narrow.check = .ok () := by rfl
  have hasOdd : narrow.kernel.HasOdd := ⟨4294967295, by rfl, by rfl⟩
  obtain ⟨d, rest, hrun, hunclamped, lawful⟩ := founding_lawful accepted ⟨fun _ => 1000000000, 0⟩
  exact ⟨accepted, hasOdd, d, rest, hrun, hunclamped, lawful.kind, lawful.counts,
    lawful.odd hasOdd⟩

end Random.Draw

end Vivarium
