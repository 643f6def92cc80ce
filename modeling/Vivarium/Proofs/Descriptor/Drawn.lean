import Vivarium.Proofs.Descriptor.Change
import Vivarium.Proofs.Random.Draw
import Vivarium.Descriptor.Offspring

/-!
# Descriptors of children lie in bounds

The descriptor of a child has been clamped last or is a copy of one that lies in
bounds already. So with a valid configuration no draw is refused, and what it
gives lies in bounds; which words the source has to offer plays no part in it. It
has moreover come in one of three ways, and which change was drawn does not
matter for how far it has moved.
-/

namespace Vivarium

/-- The ways in which a child may have come by its descriptor. -/
inductive Descriptor.Descends (bounds : Bounds) (recalled : Option Descriptor)
    (parent d : Descriptor) : Prop where
  | recalled {pattern : Descriptor} (known : recalled = some pattern)
      (clamped : bounds.clamp pattern = .ok d)
  | varied (kind : d.kind = parent.kind) (single : parent.differences d ≤ 1)
      (varied : parent.Varied bounds d)
  | copied (same : d = parent)

namespace Random.Draw

variable {bounds : Bounds}

theorem inUnit_evenChance : Number.inUnit evenChance = true := by
  decide

theorem yields_change (h : bounds.Sound) (parent : Descriptor) :
    (change parent bounds).Yields (Change.Fits bounds parent) := by
  unfold change
  refine yields_bind (yields_chance inUnit_evenChance) fun up _ => ?_
  dsimp only
  refine yields_bind (yields_between UInt32.zero_le) fun which hwhich => ?_
  have hsign : (if up then (1 : Int) else -1).natAbs = 1 := by cases up <;> rfl
  split
  · exact yields_pure (.layers (Nat.le_of_eq hsign))
  · next hlayers =>
      split
      · exact yields_bind (yields_choose WidthScale.all) fun found _ => yields_pure (.width _)
      · next hwidth =>
          cases parent with
          | attention layers width heads =>
              refine yields_bind (yields_choose bounds.heads) fun found hfound => yields_pure ?_
              rcases hfound with ⟨-, hnil⟩ | ⟨count, hcount, rfl⟩
              · exact absurd hnil h.heads_ne_nil
              · exact .heads rfl hcount
          | recurrent layers width =>
              -- Only two kinds of change are drawn from, and both have been seen to.
              have hle : which.toNat ≤ (changeKinds .recurrent - 1).toNat := hwhich.2
              have hlast : (changeKinds .recurrent - 1).toNat = 1 := rfl
              rw [← UInt32.toNat_inj] at hlayers hwidth
              have hzero : which.toNat ≠ 0 := hlayers
              have hone : which.toNat ≠ 1 := hwidth
              omega
          | convolutional layers width kernel =>
              refine yields_pure (.kernel rfl ?_)
              rw [Int.natAbs_mul, hsign]
              decide

/-- What holds of the pattern in bounds, of the parent after any change that may be drawn and of the
parent itself holds of every child. -/
theorem yields_offspring_of {config : MutationConfig}
    (hbias : Number.inUnit config.bias = true)
    (hstructural : Number.inUnit config.structural = true) (h : bounds.Sound)
    {recalled : Option Descriptor} {parent : Descriptor} {fits : Change → Prop}
    {p : Descriptor → Prop} (drawn : (change parent bounds).Yields fits)
    (pattern : ∀ pattern, recalled = some pattern → p (bounds.project pattern))
    (changed : ∀ change, fits change → p (bounds.project (change.applyFreely parent)))
    (copied : p parent) :
    (offspring config bounds recalled parent).Yields fun o => p o.descriptor := by
  unfold offspring
  refine yields_bind (yields_chance hbias) fun biased _ => ?_
  split
  · next known =>
      have hclamp := Bounds.clamp_eq_ok h.proper known
      refine yields_bind (yields_ok hclamp rfl) fun d hd => yields_pure ?_
      subst hd
      exact pattern known rfl
  · refine yields_bind (yields_chance hstructural) fun structural _ => ?_
    split
    · refine yields_bind drawn fun change fits => ?_
      have hclamp := Bounds.clamp_eq_ok h.proper (change.applyFreely parent)
      refine yields_bind (yields_ok hclamp rfl) fun d hd => yields_pure ?_
      subst hd
      exact changed change fits
    · exact yields_pure copied

theorem yields_offspring {config : MutationConfig} (hbias : Number.inUnit config.bias = true)
    (hstructural : Number.inUnit config.structural = true) (h : bounds.Sound)
    (recalled : Option Descriptor) {parent : Descriptor} (hparent : bounds.Holds parent) :
    (offspring config bounds recalled parent).Yields fun o =>
      bounds.Holds o.descriptor ∧ parent.Descends bounds recalled o.descriptor := by
  refine yields_offspring_of hbias hstructural h
    (p := fun d => bounds.Holds d ∧ parent.Descends bounds recalled d) (yields_change h parent)
    (fun pattern known => ?_) (fun change fits => ?_) ⟨hparent, .copied rfl⟩
  · exact ⟨Bounds.contains_project h.proper pattern,
      .recalled known (Bounds.clamp_eq_ok h.proper pattern)⟩
  · have hvaried := Descriptor.varied_of_fits h (Bounds.project_of_holds h.proper hparent) fits
    exact ⟨Bounds.contains_project h.proper _,
      .varied hvaried.kind_eq hvaried.differences_le hvaried⟩

end Random.Draw

end Vivarium
