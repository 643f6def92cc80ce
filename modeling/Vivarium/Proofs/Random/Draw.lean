import Vivarium.Proofs.Number.Comparison
import Vivarium.Random.Draw

/-!
# What draws yield

A draw may be refused, and then nothing that follows it happens. `Yields` says
that a draw is answered from whatever source, and what the answer satisfies; it
composes along the steps of a draw, so each draw needs one statement and those
built from it cite that. Nothing is said about how likely an answer is: all of
this holds of every stream of words.
-/

namespace Vivarium.Random.Draw

open Number

/-- Whether a draw is answered from every source, and every answer satisfies a property. -/
def Yields (draw : Draw α) (holds : α → Prop) : Prop :=
  ∀ source, ∃ value rest, draw.run source = .ok (value, rest) ∧ holds value

theorem Yields.mono {draw : Draw α} {P Q : α → Prop} (h : draw.Yields P)
    (hPQ : ∀ value, P value → Q value) : draw.Yields Q := by
  intro source
  obtain ⟨value, rest, hrun, hP⟩ := h source
  exact ⟨value, rest, hrun, hPQ value hP⟩

theorem Yields.of_run {draw : Draw α} {P : α → Prop} (h : draw.Yields P) {source rest : Source}
    {value : α} (hrun : draw.run source = .ok (value, rest)) : P value := by
  obtain ⟨value', rest', hrun', hP⟩ := h source
  rw [hrun] at hrun'
  cases hrun'
  exact hP

theorem Yields.exists_run {draw : Draw α} {P : α → Prop} (h : draw.Yields P) (source : Source) :
    ∃ answer, draw.run source = .ok answer := by
  obtain ⟨value, rest, hrun, -⟩ := h source
  exact ⟨(value, rest), hrun⟩

theorem yields_pure {P : α → Prop} {value : α} (h : P value) :
    Yields (pure value : Draw α) P :=
  fun source => ⟨value, source, rfl, h⟩

theorem yields_bind {draw : Draw α} {next : α → Draw β} {P : α → Prop} {Q : β → Prop}
    (h : draw.Yields P) (hnext : ∀ value, P value → (next value).Yields Q) :
    (draw >>= next).Yields Q := by
  intro source
  obtain ⟨value, rest, hrun, hP⟩ := h source
  obtain ⟨last, rest', hrun', hQ⟩ := hnext value hP rest
  refine ⟨last, rest', ?_, hQ⟩
  rw [StateT.run_bind, hrun]
  exact hrun'

theorem yields_ok {P : α → Prop} {value : α} {answer : Except Fault α}
    (hok : answer = .ok value) (h : P value) : Yields (answer : Draw α) P := by
  subst hok
  exact yields_pure h

theorem fit_eq_ok {n : Int} (pos : 0 ≤ n) (small : n < UInt32.size) :
    fit n = .ok (UInt32.ofNat n.toNat) :=
  if_pos ⟨pos, small⟩

theorem yields_fit {n : Int} (pos : 0 ≤ n) (small : n < UInt32.size) :
    Yields (fit n : Draw UInt32) fun count => (count.toNat : Int) = n := by
  have hcount : ((UInt32.ofNat n.toNat).toNat : Int) = n := by
    rw [UInt32.toNat_ofNat_of_lt' (by omega)]
    omega
  exact yields_ok (fit_eq_ok pos small) hcount

theorem yields_word : word.Yields fun _ => True :=
  fun source => ⟨source.word, source.skip 1, rfl, trivial⟩

theorem yields_wide : wide.Yields fun _ => True :=
  fun source => ⟨source.wide, source.skip 2, rfl, trivial⟩

/-! ## Chances -/

theorem yields_chance {p : Float32} (h : inUnit p = true) : (chance p).Yields fun _ => True := by
  simp only [inUnit, Bool.and_eq_true, decide_eq_true_eq] at h
  obtain ⟨hlow, hhigh⟩ := h
  unfold chance
  split
  · exact yields_pure trivial
  · next hne =>
      have hlt : p < 1 := by
        rcases lt_or_beq_of_le hhigh with hlt | heq
        · exact hlt
        · exact absurd heq hne
      rw [if_pos (by simp [hlow, hlt])]
      exact yields_bind yields_wide fun _ _ => yields_pure trivial

/-! ## Ranges -/

theorem yields_below {size : Nat} (pos : 0 < size) (fits : size ≤ UInt32.size) (tries : Nat) :
    (below size tries).Yields fun n => n.toNat < size := by
  induction tries with
  | zero => exact yields_pure pos
  | succ tries ih =>
      unfold below
      refine yields_bind yields_word fun w _ => ?_
      dsimp only
      split
      · have hw : w.toNat < UInt32.size := w.toNat_lt
        have hquot : w.toNat * size / UInt32.size < size := by
          rw [Nat.div_lt_iff_lt_mul (by decide), Nat.mul_comm size]
          exact Nat.mul_lt_mul_of_pos_right hw pos
        refine yields_pure ?_
        rw [UInt32.toNat_ofNat_of_lt' (Nat.lt_of_lt_of_le hquot fits)]
        exact hquot
      · exact ih

theorem yields_between {low high : UInt32} (h : low ≤ high) :
    (between low high).Yields fun n => low ≤ n ∧ n ≤ high := by
  have hle : low.toNat ≤ high.toNat := h
  have hgap : (high - low).toNat = high.toNat - low.toNat := UInt32.toNat_sub_of_le _ _ h
  have hhigh : high.toNat < UInt32.size := high.toNat_lt
  unfold between
  rw [if_neg (by rw [UInt32.not_lt]; exact h)]
  dsimp only
  split
  · next hall =>
      refine yields_word.mono fun n _ => ?_
      have hn : n.toNat < UInt32.size := n.toNat_lt
      simp only [UInt32.le_iff_toNat_le]
      omega
  · refine yields_bind (yields_below (by omega) (by omega) patience) fun n hn => ?_
    refine yields_pure ?_
    have hsum : (low + n).toNat = low.toNat + n.toNat := by
      rw [UInt32.toNat_add, Nat.mod_eq_of_lt]
      simp only [UInt32.size] at hhigh
      omega
    simp only [UInt32.le_iff_toNat_le, hsum]
    omega

theorem yields_choose (items : List α) :
    (choose items).Yields fun found =>
      (found = none ∧ items = []) ∨ ∃ item ∈ items, found = some item := by
  unfold choose
  split
  · next hempty => exact yields_pure (.inl ⟨rfl, List.isEmpty_iff.mp hempty⟩)
  · next hne =>
      have hlen : 0 < items.length := by
        rw [List.isEmpty_iff] at hne
        exact List.length_pos_iff.mpr hne
      refine yields_bind (yields_between UInt32.zero_le) fun index hindex => ?_
      have hle : index.toNat ≤ (UInt32.ofNat (items.length - 1)).toNat := hindex.2
      have hmod : (UInt32.ofNat (items.length - 1)).toNat ≤ items.length - 1 := by
        rw [UInt32.toNat_ofNat']
        exact Nat.mod_le _ _
      have hlt : index.toNat < items.length := by omega
      refine yields_pure (.inr ⟨items[index.toNat], List.getElem_mem hlt, ?_⟩)
      exact List.getElem?_eq_getElem hlt

end Vivarium.Random.Draw
