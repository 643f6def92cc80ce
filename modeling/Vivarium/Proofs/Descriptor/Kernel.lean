import Vivarium.Proofs.Descriptor.Drawn
import Vivarium.Proofs.Descriptor.Founding

/-!
# Odd kernels

Kernels are drawn odd for founders, and a change moves them by two. So they would
stay odd, were it not for the bounds: a kernel that would leave the range stops
at its end, and the end may be even. This is the only way for an even kernel to
come about, and for every range with an even end there is an odd kernel that
takes it.
-/

namespace Vivarium

/-- Whether a number is an even end of a range. -/
def Span.EvenEnd (span : Span) (n : UInt32) : Prop :=
  n.toNat % 2 = 0 ∧ (n = span.low ∨ n = span.high)

/-- Whether a change moves a kernel by two, if it moves one. -/
def Change.ByTwo : Change → Prop
  | .kernel delta => delta = 2 ∨ delta = -2
  | _ => True

namespace Descriptor

/-- Whether a descriptor has a kernel at an even end of its range. -/
def Stopped (bounds : Bounds) (d : Descriptor) : Prop :=
  ∃ kernel, d.kernel? = some kernel ∧ bounds.kernel.EvenEnd kernel

theorem Stopped.not_oddKernel {bounds : Bounds} {d : Descriptor} (stopped : d.Stopped bounds) :
    ¬ d.OddKernel := by
  intro odd
  obtain ⟨kernel, hkernel, heven, -⟩ := stopped
  have hodd := odd kernel hkernel
  omega

end Descriptor

/-! ## Moving into a range -/

namespace Span

variable {span : Span}

theorem odd_or_evenEnd_of_toNat {n : UInt32} {m : Nat} (hn : n.toNat = span.nearest m)
    (odd : m % 2 = 1 ∨ m = 0) : n.toNat % 2 = 1 ∨ span.EvenEnd n := by
  rcases Nat.mod_two_eq_zero_or_one n.toNat with heven | hodd
  · refine .inr ⟨heven, ?_⟩
    rw [← UInt32.toNat_inj, ← UInt32.toNat_inj]
    rw [nearest] at hn
    omega
  · exact .inl hodd

theorem odd_or_evenEnd_project (h : span.low ≤ span.high) {n : UInt32} (odd : n.toNat % 2 = 1) :
    (span.project n).toNat % 2 = 1 ∨ span.EvenEnd (span.project n) :=
  odd_or_evenEnd_of_toNat (toNat_project h n) (.inl odd)

theorem odd_or_evenEnd_shift (h : span.low ≤ span.high) {n : UInt32} (odd : n.toNat % 2 = 1)
    {delta : Int} (two : delta = 2 ∨ delta = -2) :
    (span.project (Change.shift n delta)).toNat % 2 = 1 ∨
      span.EvenEnd (span.project (Change.shift n delta)) := by
  refine odd_or_evenEnd_of_toNat (toNat_project_saturate h _) ?_
  omega

end Span

namespace Descriptor

variable {bounds : Bounds} {parent d : Descriptor}

theorem kernel?_project (bounds : Bounds) (d : Descriptor) :
    (bounds.project d).kernel? = d.kernel?.map bounds.kernel.project := by
  cases d <;> rfl

theorem oddKernel_or_stopped {kernel : UInt32} (hkernel : d.kernel? = some kernel)
    (h : kernel.toNat % 2 = 1 ∨ bounds.kernel.EvenEnd kernel) : d.OddKernel ∨ d.Stopped bounds := by
  rcases h with hodd | heven
  · refine .inl fun other hother => ?_
    rw [hkernel] at hother
    cases hother
    exact hodd
  · exact .inr ⟨kernel, hkernel, heven⟩

theorem OddKernel.project (odd : d.OddKernel) (h : bounds.Sound) :
    (bounds.project d).OddKernel ∨ (bounds.project d).Stopped bounds := by
  cases hkernel : d.kernel? with
  | none =>
      refine .inl fun kernel hsome => ?_
      rw [kernel?_project, hkernel] at hsome
      cases hsome
  | some kernel =>
      have hprojected : (bounds.project d).kernel? = some (bounds.kernel.project kernel) := by
        rw [kernel?_project, hkernel]
        rfl
      exact oddKernel_or_stopped hprojected
        (Span.odd_or_evenEnd_project h.kernel.ordered (odd kernel hkernel))

theorem OddKernel.applyFreely (odd : parent.OddKernel) (h : bounds.Sound) {change : Change}
    (byTwo : change.ByTwo) : (bounds.project (change.applyFreely parent)).OddKernel ∨
      (bounds.project (change.applyFreely parent)).Stopped bounds := by
  cases change with
  | layers _ | width _ | heads _ =>
      refine OddKernel.project (fun kernel hkernel => odd kernel ?_) h
      cases parent <;> exact hkernel
  | kernel delta =>
      cases parent with
      | attention layers width heads => exact .inl fun kernel hkernel => nomatch hkernel
      | recurrent layers width => exact .inl fun kernel hkernel => nomatch hkernel
      | convolutional layers width kernel =>
          exact oddKernel_or_stopped rfl
            (Span.odd_or_evenEnd_shift h.kernel.ordered (odd kernel rfl) byTwo)

end Descriptor

namespace Bounds

variable {bounds : Bounds}

/-- Whether no change of an odd kernel in bounds gives an even one. -/
def KeepsOdd (bounds : Bounds) : Prop :=
  ∀ parent, bounds.Holds parent → parent.OddKernel → ∀ change : Change, change.ByTwo →
    (bounds.project (change.applyFreely parent)).OddKernel

theorem not_stopped (low : bounds.kernel.low.toNat % 2 = 1)
    (high : bounds.kernel.high.toNat % 2 = 1) (d : Descriptor) : ¬ d.Stopped bounds := by
  rintro ⟨kernel, -, heven, rfl | rfl⟩
  · omega
  · omega

theorem KeepsOdd.nearest (keeps : bounds.KeepsOdd) (h : bounds.Sound) {n : UInt32}
    (holds : bounds.kernel.low.toNat ≤ n.toNat ∧ n.toNat ≤ bounds.kernel.high.toNat)
    (odd : n.toNat % 2 = 1) {delta : Int} (two : delta = 2 ∨ delta = -2) :
    bounds.kernel.nearest (n.toNat + delta).toNat % 2 = 1 := by
  have hparent : bounds.project (.convolutional 0 0 n) =
      .convolutional (bounds.layers.project 0) (bounds.width.project 0) n := by
    rw [project, Span.project_of_le holds.1 holds.2]
  have hkept := keeps _ (contains_project h.proper (.convolutional 0 0 n))
    (fun kernel hkernel => ?_) (.kernel delta) two
  · rw [hparent] at hkept
    rw [← Span.toNat_project_saturate h.kernel.ordered]
    exact hkept _ rfl
  · rw [hparent] at hkernel
    cases hkernel
    exact odd

theorem keepsOdd_iff (h : bounds.Sound)
    (hasOdd : bounds.kernel.HasOdd) :
    bounds.KeepsOdd ↔
      bounds.kernel.low.toNat % 2 = 1 ∧ bounds.kernel.high.toNat % 2 = 1 := by
  have hhigh : bounds.kernel.high.toNat < UInt32.size := bounds.kernel.high.toNat_lt
  obtain ⟨odd, hin, hodd⟩ := hasOdd
  simp only [Span.holds, Bool.and_eq_true, decide_eq_true_eq, UInt32.le_iff_toNat_le] at hin
  constructor
  · intro keeps
    -- An even end has an odd neighbour in the range, which a change moves onto it.
    constructor
    · by_contra heven
      have hnext : (UInt32.ofNat (bounds.kernel.low.toNat + 1)).toNat =
          bounds.kernel.low.toNat + 1 :=
        UInt32.toNat_ofNat_of_lt' (by omega)
      have hstop := keeps.nearest h (n := UInt32.ofNat (bounds.kernel.low.toNat + 1))
        (by omega) (by omega) (.inr rfl)
      rw [Span.nearest] at hstop
      omega
    · by_contra heven
      have hnext : (UInt32.ofNat (bounds.kernel.high.toNat - 1)).toNat =
          bounds.kernel.high.toNat - 1 := UInt32.toNat_ofNat_of_lt' (by omega)
      have hstop := keeps.nearest h (n := UInt32.ofNat (bounds.kernel.high.toNat - 1))
        (by omega) (by omega) (.inl rfl)
      rw [Span.nearest] at hstop
      omega
  · rintro ⟨hlow, hhigh⟩ parent - hparent change byTwo
    exact (hparent.applyFreely h byTwo).resolve_right (not_stopped hlow hhigh _)

end Bounds

/-! ## Drawing -/

namespace Random.Draw

variable {bounds : Bounds}

theorem yields_change_byTwo (parent : Descriptor) (bounds : Bounds) :
    (change parent bounds).Yields Change.ByTwo := by
  unfold change
  refine yields_bind (yields_chance inUnit_evenChance) fun up _ => ?_
  dsimp only
  refine yields_bind (yields_between UInt32.zero_le) fun which _ => ?_
  have htwo : 2 * (if up then (1 : Int) else -1) = 2 ∨ 2 * (if up then (1 : Int) else -1) = -2 := by
    cases up
    · exact .inr rfl
    · exact .inl rfl
  split
  · exact yields_pure trivial
  · split
    · exact yields_bind (yields_choose WidthScale.all) fun found _ => yields_pure trivial
    · cases parent with
      | attention layers width heads =>
          exact yields_bind (yields_choose bounds.heads) fun found _ => yields_pure trivial
      | recurrent layers width => exact yields_pure htwo
      | convolutional layers width kernel => exact yields_pure htwo

theorem yields_offspring_odd {config : MutationConfig} (hbias : Number.inUnit config.bias = true)
    (hstructural : Number.inUnit config.structural = true) (h : bounds.Sound)
    {recalled : Option Descriptor} (known : ∀ pattern ∈ recalled, pattern.OddKernel)
    {parent : Descriptor} (odd : parent.OddKernel) :
    (offspring config bounds recalled parent).Yields fun o =>
      o.descriptor.OddKernel ∨ o.descriptor.Stopped bounds :=
  yields_offspring_of hbias hstructural h (p := fun d => d.OddKernel ∨ d.Stopped bounds)
    (yields_change_byTwo parent bounds)
    (fun pattern hpattern => (known pattern hpattern).project h)
    (fun _ byTwo => odd.applyFreely h byTwo) (.inl odd)

end Random.Draw

end Vivarium
