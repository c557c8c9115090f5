import Mathlib
import TensorSelect.Proofs.Select.Sorting
import TensorSelect.Proofs.Select.Network

/-!
# The bitonic network sorts

The value network of a selection is the bitonic sorter on `2^m` positions (`bitonicPairs`). Its
stage of block size `2^u` and stride `2^t` pairs each position `x` with `x xor 2^t` and puts the
better of the two first in ascending blocks (bit `u` clear) and last in the others. This module
proves that the network sorts every array of `2^m` elements (`ascending_runPairs_bitonicPairs`),
and so gives the sorted list when the keys tell the elements apart
(`runPairs_bitonicPairs_eq`).

The proof goes through 0-1 sequences:

* on a 0-1 array a stage is a map of all positions at once (`bits_runPairs_stagePairs`), and
  the network is `sortRun`, merges of blocks of `2, 4, …, 2^m` positions
  (`bits_runPairs_bitonicPairs`);
* the half-cleaner splits a bitonic block (`Window`) into two bitonic halves, one of them of one
  value (`Window.halfClean`), so a merge sorts a bitonic block (`mergeRun_sorted`), and the
  sorter sorts every block, in the direction of the next bit (`sortRun_sorted`);
* a map to `Bool` that keeps the order commutes with every compare-exchange (`runPairs_map`); a
  pair out of order after the network would be out of order after its threshold map too, which
  the 0-1 case rules out.
-/

namespace TensorSelect

namespace Select

/-! ## Positions and their partners -/

section Bits

/-- In an aligned block of `2^(t+1)` positions, flipping bit `t` moves a position of the lower
half up by `2^t`. -/
theorem xor_two_pow_lower {t q o : Nat} (ho : o < 2 ^ t) :
    (2 ^ (t + 1) * q + o) ^^^ 2 ^ t = 2 ^ (t + 1) * q + (o + 2 ^ t) := by
  have ho' : o < 2 ^ (t + 1) := lt_of_lt_of_le ho (Nat.pow_le_pow_right (by decide) (by omega))
  have hup : o + 2 ^ t < 2 ^ (t + 1) := by rw [Nat.pow_succ]; omega
  apply Nat.eq_of_testBit_eq
  intro j
  rw [Nat.testBit_xor, Nat.testBit_two_pow_mul_add _ ho', Nat.testBit_two_pow_mul_add _ hup,
    Nat.testBit_two_pow]
  by_cases hj : j < t + 1
  · rw [if_pos hj, if_pos hj, Nat.add_comm o]
    rcases Nat.lt_succ_iff_lt_or_eq.1 hj with hlt | rfl
    · rw [Nat.testBit_two_pow_add_gt hlt, decide_eq_false (by omega), Bool.xor_false]
    · rw [Nat.testBit_two_pow_add_eq, Nat.testBit_lt_two_pow ho, decide_eq_true rfl]
      rfl
  · rw [if_neg hj, if_neg hj, decide_eq_false (by omega), Bool.xor_false]

/-- In an aligned block of `2^(t+1)` positions, flipping bit `t` moves a position of the upper
half down by `2^t`. -/
theorem xor_two_pow_upper {t q o : Nat} (ho : o < 2 ^ t) :
    (2 ^ (t + 1) * q + (o + 2 ^ t)) ^^^ 2 ^ t = 2 ^ (t + 1) * q + o := by
  rw [← xor_two_pow_lower ho, Nat.xor_assoc, Nat.xor_self, Nat.xor_zero]

/-- Bit `u` is the same at every position of an aligned block of `2^(t+1)` positions, for
`u > t`. -/
theorem testBit_block {t q o u : Nat} (ho : o < 2 ^ (t + 1)) (hu : t + 1 ≤ u) :
    (2 ^ (t + 1) * q + o).testBit u = q.testBit (u - (t + 1)) := by
  rw [Nat.testBit_two_pow_mul_add _ ho, if_neg (by omega)]

theorem and_two_pow_eq_zero (x u : Nat) : x &&& 2 ^ u = 0 ↔ x.testBit u = false := by
  rw [Nat.and_two_pow]
  cases x.testBit u <;> simp

/-- A position at or past `2^m` has its partner there too. -/
theorem two_pow_le_xor {m t x : Nat} (ht : t < m) (hx : 2 ^ m ≤ x) : 2 ^ m ≤ x ^^^ 2 ^ t := by
  by_contra h
  have hlt : x ^^^ 2 ^ t ^^^ 2 ^ t < 2 ^ m :=
    Nat.xor_lt_two_pow (by omega) (Nat.pow_lt_pow_right (by decide) ht)
  rw [Nat.xor_assoc, Nat.xor_self, Nat.xor_zero] at hlt
  omega

/-- Flipping bit `t` leaves bit `u ≠ t`. -/
theorem testBit_xor_two_pow_of_ne {t u : Nat} (h : t ≠ u) (x : Nat) :
    (x ^^^ 2 ^ t).testBit u = x.testBit u := by
  rw [Nat.testBit_xor, Nat.testBit_two_pow, decide_eq_false h, Bool.xor_false]

end Bits


/-! ## 0-1 sequences -/

section ZeroOne

/-- A 0-1 sequence of positions `[0, L)` whose `true`s, or whose `false`s, form one interval: a
bitonic 0-1 sequence. -/
def Window (L : Nat) (f : Nat → Bool) : Prop :=
  ∃ l h, (∀ x < L, f x = true ↔ l ≤ x ∧ x < h) ∨ (∀ x < L, f x = false ↔ l ≤ x ∧ x < h)

/-- Positions `[0, L)` of a 0-1 sequence in order: ascending for `d`, descending otherwise. -/
def SortedIn (d : Bool) (L : Nat) (f : Nat → Bool) : Prop :=
  ∀ x y, x ≤ y → y < L → if d then f x ≤ f y else f y ≤ f x

variable {L H : Nat} {f g : Nat → Bool}

theorem Window.congr (hw : Window L f) (h : ∀ x < L, f x = g x) : Window L g := by
  obtain ⟨l, hi, hw | hw⟩ := hw
  · exact ⟨l, hi, .inl fun x hx => by rw [← h x hx]; exact hw x hx⟩
  · exact ⟨l, hi, .inr fun x hx => by rw [← h x hx]; exact hw x hx⟩

theorem Window.not (hw : Window L f) : Window L fun x => !f x := by
  obtain ⟨l, hi, hw | hw⟩ := hw
  · exact ⟨l, hi, .inr fun x hx => by rw [Bool.not_eq_false']; exact hw x hx⟩
  · exact ⟨l, hi, .inl fun x hx => by rw [Bool.not_eq_true']; exact hw x hx⟩

theorem SortedIn.congr {d : Bool} (hs : SortedIn d L f) (h : ∀ x < L, f x = g x) :
    SortedIn d L g := by
  intro x y hxy hy
  rw [← h x (by omega), ← h y hy]
  exact hs x y hxy hy

/-- The half-cleaner on a sequence whose `true`s form an interval: the pairwise minima of the two
halves and their pairwise maxima are bitonic, and the minima are all `false` or the maxima all
`true`. -/
theorem halfClean_of_interval {w : Nat → Bool} {l h : Nat}
    (hw : ∀ x < 2 * H, w x = true ↔ l ≤ x ∧ x < h) :
    Window H (fun x => w x && w (x + H)) ∧ Window H (fun x => w x || w (x + H)) ∧
      ((∀ x < H, (w x && w (x + H)) = false) ∨ (∀ x < H, (w x || w (x + H)) = true)) := by
  have hlo : ∀ x < H, (w x && w (x + H)) = true ↔ l ≤ x ∧ x + H < h := by
    intro x hx
    rw [Bool.and_eq_true, hw x (by omega), hw (x + H) (by omega)]
    omega
  have hhi : ∀ x < H, (w x || w (x + H)) = true ↔ (l ≤ x ∧ x < h) ∨ (l ≤ x + H ∧ x + H < h) := by
    intro x hx
    rw [Bool.or_eq_true, hw x (by omega), hw (x + H) (by omega)]
  refine ⟨⟨l, h - H, .inl fun x hx => by rw [hlo x hx]; omega⟩, ?_, ?_⟩
  · -- the maxima: the interval, its shift down by `H`, or both, cut to `[0, H)`
    by_cases h1 : h ≤ H
    · exact ⟨l, h, .inl fun x hx => by rw [hhi x hx]; omega⟩
    by_cases h2 : H ≤ l
    · exact ⟨l - H, h - H, .inl fun x hx => by rw [hhi x hx]; omega⟩
    by_cases h3 : l ≤ h - H
    · exact ⟨0, H, .inl fun x hx => by rw [hhi x hx]; omega⟩
    · refine ⟨h - H, l, .inr fun x hx => ?_⟩
      rw [← Bool.not_eq_true, hhi x hx]
      omega
  · by_contra hc
    push Not at hc
    obtain ⟨⟨x, hx, hxlo⟩, ⟨y, hy, hyhi⟩⟩ := hc
    have hx' := (hlo x hx).1 (by simpa using hxlo)
    have hy' : ¬ ((l ≤ y ∧ y < h) ∨ (l ≤ y + H ∧ y + H < h)) := by
      rw [← hhi y hy]; simpa using hyhi
    omega

/-- The half-cleaner: on a bitonic sequence of `2 H` positions the pairwise minima and maxima of
its two halves are bitonic, and the minima are all `false` or the maxima all `true`. -/
theorem Window.halfClean {w : Nat → Bool} (hw : Window (2 * H) w) :
    Window H (fun x => w x && w (x + H)) ∧ Window H (fun x => w x || w (x + H)) ∧
      ((∀ x < H, (w x && w (x + H)) = false) ∨ (∀ x < H, (w x || w (x + H)) = true)) := by
  obtain ⟨l, h, hw | hw⟩ := hw
  · exact halfClean_of_interval hw
  · -- the `false`s form the interval: clean the complement and negate
    have hn : ∀ x < 2 * H, (!w x) = true ↔ l ≤ x ∧ x < h := fun x hx => by
      rw [Bool.not_eq_true']; exact hw x hx
    obtain ⟨hmin, hmax, hclean⟩ := halfClean_of_interval hn
    refine ⟨hmax.not.congr fun x _ => by simp, hmin.not.congr fun x _ => by simp, ?_⟩
    rcases hclean with h | h
    · exact .inr fun x hx => by
        rw [← Bool.not_not (w x || w (x + H)), Bool.not_or, h x hx, Bool.not_false]
    · exact .inl fun x hx => by
        rw [← Bool.not_not (w x && w (x + H)), Bool.not_and, h x hx, Bool.not_true]

/-- Two sorted halves of `2 H` positions make one sorted sequence when the half that comes first
holds only the first value or the other only the last. -/
theorem SortedIn.glue {d : Bool} (h0 : SortedIn d H f) (h1 : SortedIn d H fun x => f (H + x))
    (hc : if d then (∀ x < H, f x = false) ∨ (∀ x < H, f (H + x) = true)
      else (∀ x < H, f x = true) ∨ (∀ x < H, f (H + x) = false)) :
    SortedIn d (2 * H) f := by
  intro x y hxy hy
  by_cases hyl : y < H
  · exact h0 x y hxy hyl
  by_cases hxl : x < H
  · -- `x` in the first half, `y` in the second
    have hy' : f y = f (H + (y - H)) := by congr 1; omega
    cases d with
    | true =>
      rcases hc with h | h
      · simp [h x hxl]
      · simp [hy', h (y - H) (by omega)]
    | false =>
      rcases hc with h | h
      · simp [h x hxl]
      · simp [hy', h (y - H) (by omega)]
  · have := h1 (x - H) (y - H) (by omega) (by omega)
    dsimp only at this
    rwa [show H + (x - H) = x by omega, show H + (y - H) = y by omega] at this

/-- An ascending half followed by a descending half is bitonic. -/
theorem window_of_sorted_halves (h0 : SortedIn true H f) (h1 : SortedIn false H fun x => f (H + x)) :
    Window (2 * H) f := by
  classical
  -- the first `true` of the ascending half, and the end of the `true`s of the descending one
  let a := if hx : ∃ x < H, f x = true then Nat.find hx else H
  let c := if hx : ∃ x < H, f (H + x) = false then Nat.find hx else H
  have ha : ∀ x < H, f x = true ↔ a ≤ x := by
    intro x hx
    by_cases he : ∃ x < H, f x = true
    · simp only [a, dif_pos he]
      constructor
      · intro hfx
        exact Nat.find_min' he ⟨hx, hfx⟩
      · intro hle
        obtain ⟨hlt, hfa⟩ := Nat.find_spec he
        have := h0 _ x hle hx
        simp only [if_true, hfa] at this
        exact top_unique this
    · simp only [a, dif_neg he]
      constructor
      · intro hfx; exact absurd ⟨x, hx, hfx⟩ he
      · intro hle; omega
  have hc : ∀ x < H, f (H + x) = true ↔ x < c := by
    intro x hx
    by_cases he : ∃ x < H, f (H + x) = false
    · simp only [c, dif_pos he]
      constructor
      · intro hfx
        by_contra hge
        obtain ⟨hlt, hfc⟩ := Nat.find_spec he
        have := h1 (Nat.find he) x (by omega) hx
        simp only [Bool.false_eq_true, if_false, hfc, hfx] at this
        exact absurd this (by decide)
      · intro hlt
        have := Nat.find_min he hlt
        push Not at this
        simpa using this hx
    · simp only [c, dif_neg he]
      push Not at he
      constructor
      · intro _; exact hx
      · intro _; simpa using he x hx
  refine ⟨a, H + c, .inl fun x hx => ?_⟩
  have haH : a ≤ H := by
    simp only [a]; split
    · exact (Nat.find_spec ‹∃ x < H, f x = true›).1.le
    · exact le_rfl
  by_cases hxl : x < H
  · rw [ha x hxl]; omega
  · have := hc (x - H) (by omega)
    rw [show H + (x - H) = x by omega] at this
    rw [this]; omega

end ZeroOne


/-! ## The bitonic network on 0-1 sequences -/

section Stages

/-- One stage of compare-exchanges on a 0-1 sequence, all pairs at once: position `x` and its
partner `x xor 2^t` hold the lesser value at the one that the direction `asc` puts first and the
greater at the other. -/
def cmpStage (asc : Nat → Bool) (t : Nat) (w : Nat → Bool) (x : Nat) : Bool :=
  if asc x = decide (x < x ^^^ 2 ^ t) then w x && w (x ^^^ 2 ^ t) else w x || w (x ^^^ 2 ^ t)

/-- The stages of strides `2^(t-1), …, 2, 1`: a bitonic merge of blocks of `2^t` positions. -/
def mergeRun (asc : Nat → Bool) : Nat → (Nat → Bool) → Nat → Bool
  | 0, w => w
  | t + 1, w => mergeRun asc t (cmpStage asc t w)

/-- The direction of the merges of blocks of `2^u` positions: ascending where bit `u` is clear. -/
def ascAt (u x : Nat) : Bool := decide (x &&& 2 ^ u = 0)

/-- The merges of blocks of `2, 4, …, 2^s` positions, each ascending or descending by the next
bit of its position: the bitonic sorter. -/
def sortRun : Nat → (Nat → Bool) → Nat → Bool
  | 0, w => w
  | s + 1, w => mergeRun (ascAt (s + 1)) (s + 1) (sortRun s w)

variable {asc : Nat → Bool} {t q o : Nat} {w : Nat → Bool}

theorem cmpStage_lower (ho : o < 2 ^ t) :
    cmpStage asc t w (2 ^ (t + 1) * q + o) =
      if asc (2 ^ (t + 1) * q + o) then w (2 ^ (t + 1) * q + o) && w (2 ^ (t + 1) * q + (o + 2 ^ t))
      else w (2 ^ (t + 1) * q + o) || w (2 ^ (t + 1) * q + (o + 2 ^ t)) := by
  have hlt : 2 ^ (t + 1) * q + o < 2 ^ (t + 1) * q + (o + 2 ^ t) := by
    have := Nat.two_pow_pos t; omega
  unfold cmpStage
  rw [xor_two_pow_lower ho, decide_eq_true hlt]

theorem cmpStage_upper (ho : o < 2 ^ t) :
    cmpStage asc t w (2 ^ (t + 1) * q + (o + 2 ^ t)) =
      if asc (2 ^ (t + 1) * q + (o + 2 ^ t)) then
        w (2 ^ (t + 1) * q + o) || w (2 ^ (t + 1) * q + (o + 2 ^ t))
      else w (2 ^ (t + 1) * q + o) && w (2 ^ (t + 1) * q + (o + 2 ^ t)) := by
  have hlt : ¬ 2 ^ (t + 1) * q + (o + 2 ^ t) < 2 ^ (t + 1) * q + o := by omega
  unfold cmpStage
  rw [xor_two_pow_upper ho, decide_eq_false hlt]
  cases asc (2 ^ (t + 1) * q + (o + 2 ^ t)) <;> simp [Bool.and_comm, Bool.or_comm]

/-- A merge keeps a block that holds one value. -/
theorem mergeRun_const (t : Nat) :
    ∀ (w : Nat → Bool) (b : Nat) (c : Bool), 2 ^ t ∣ b → (∀ o < 2 ^ t, w (b + o) = c) →
      ∀ o < 2 ^ t, mergeRun asc t w (b + o) = c := by
  induction t with
  | zero => intro w b c _ hc o ho; exact hc o ho
  | succ t ih =>
    intro w b c hb hc
    obtain ⟨q, rfl⟩ := hb
    -- the first stage pairs positions of the block, so it keeps the block's value
    have hstage : ∀ o < 2 ^ (t + 1), cmpStage asc t w (2 ^ (t + 1) * q + o) = c := by
      intro o ho
      by_cases hlo : o < 2 ^ t
      · rw [cmpStage_lower hlo, hc o ho, hc (o + 2 ^ t) (by rw [Nat.pow_succ]; omega)]
        cases c <;> simp
      · have ho' : o - 2 ^ t < 2 ^ t := by rw [Nat.pow_succ] at ho; omega
        have he : o = o - 2 ^ t + 2 ^ t := by omega
        rw [he, cmpStage_upper ho', hc _ (by rw [Nat.pow_succ]; omega), ← he, hc o ho]
        cases c <;> simp
    have hdvd : 2 ^ t ∣ 2 ^ (t + 1) * q := Dvd.dvd.mul_right (Nat.pow_dvd_pow 2 (by omega)) q
    intro o ho
    show mergeRun asc t (cmpStage asc t w) (2 ^ (t + 1) * q + o) = c
    by_cases hlo : o < 2 ^ t
    · exact ih _ _ c hdvd (fun o' ho' => hstage o' (by rw [Nat.pow_succ]; omega)) o hlo
    · have hup := ih (cmpStage asc t w) (2 ^ (t + 1) * q + 2 ^ t) c
        (Nat.dvd_add hdvd dvd_rfl)
        (fun o' ho' => by rw [Nat.add_assoc]; exact hstage _ (by rw [Nat.pow_succ]; omega))
        (o - 2 ^ t) (by rw [Nat.pow_succ] at ho; omega)
      rwa [show 2 ^ (t + 1) * q + 2 ^ t + (o - 2 ^ t) = 2 ^ (t + 1) * q + o by omega] at hup

/-- A bitonic merge sorts every block of `2^t` bitonic positions in the direction of the block. -/
theorem mergeRun_sorted (t : Nat) :
    ∀ (w : Nat → Bool) (b : Nat) (d : Bool), 2 ^ t ∣ b → (∀ o < 2 ^ t, asc (b + o) = d) →
      Window (2 ^ t) (fun o => w (b + o)) → SortedIn d (2 ^ t) (fun o => mergeRun asc t w (b + o)) := by
  induction t with
  | zero =>
    intro w b d _ _ _ x y hxy hy
    obtain rfl : y = 0 := by simp at hy; omega
    obtain rfl : x = 0 := by omega
    split <;> exact le_rfl
  | succ t ih =>
    intro w b d hb hasc hw
    obtain ⟨q, rfl⟩ := hb
    set B := 2 ^ (t + 1) * q with hB
    have hH : 2 ^ (t + 1) = 2 * 2 ^ t := by rw [Nat.pow_succ]; ring
    have hdvd : 2 ^ t ∣ B := Dvd.dvd.mul_right (Nat.pow_dvd_pow 2 (by omega)) q
    have hdvd' : 2 ^ t ∣ B + 2 ^ t := Nat.dvd_add hdvd dvd_rfl
    have hascl : ∀ o < 2 ^ t, asc (B + o) = d := fun o ho => hasc o (by omega)
    have hascu : ∀ o < 2 ^ t, asc (B + 2 ^ t + o) = d := fun o ho => by
      rw [Nat.add_assoc]; exact hasc _ (by omega)
    -- the first stage is the half-cleaner of the block
    have hlow : ∀ o < 2 ^ t, cmpStage asc t w (B + o) =
        if d then w (B + o) && w (B + (o + 2 ^ t)) else w (B + o) || w (B + (o + 2 ^ t)) := by
      intro o ho
      rw [cmpStage_lower ho, hascl o ho]
    have hup : ∀ o < 2 ^ t, cmpStage asc t w (B + 2 ^ t + o) =
        if d then w (B + o) || w (B + (o + 2 ^ t)) else w (B + o) && w (B + (o + 2 ^ t)) := by
      intro o ho
      rw [Nat.add_assoc, Nat.add_comm (2 ^ t) o, cmpStage_upper ho, ← Nat.add_comm (2 ^ t) o,
        ← Nat.add_assoc, hascu o ho]
    obtain ⟨hmin, hmax, hclean⟩ := Window.halfClean (H := 2 ^ t) (w := fun o => w (B + o))
      (by rw [← hH]; exact hw)
    have hwl : Window (2 ^ t) (fun o => cmpStage asc t w (B + o)) := by
      cases d
      · exact hmax.congr fun o ho => by rw [hlow o ho]; rfl
      · exact hmin.congr fun o ho => by rw [hlow o ho]; rfl
    have hwu : Window (2 ^ t) (fun o => cmpStage asc t w (B + 2 ^ t + o)) := by
      cases d
      · exact hmin.congr fun o ho => by rw [hup o ho]; rfl
      · exact hmax.congr fun o ho => by rw [hup o ho]; rfl
    -- then the two halves are merged on their own
    have hs0 := ih (cmpStage asc t w) B d hdvd hascl hwl
    have hs1 := ih (cmpStage asc t w) (B + 2 ^ t) d hdvd' hascu hwu
    show SortedIn d (2 ^ (t + 1)) fun o => mergeRun asc t (cmpStage asc t w) (B + o)
    rw [hH]
    refine SortedIn.glue hs0 (hs1.congr fun o _ => by rw [Nat.add_assoc]) ?_
    -- one half of the cleaned block holds one value, which its merge keeps
    have hkeep0 := @mergeRun_const asc t (cmpStage asc t w) B
    have hkeep1 := @mergeRun_const asc t (cmpStage asc t w) (B + 2 ^ t)
    cases d
    · rcases hclean with h | h
      · refine .inr fun o ho => ?_
        rw [← Nat.add_assoc]
        exact hkeep1 false hdvd' (fun o' ho' => by rw [hup o' ho']; exact h o' ho') o ho
      · exact .inl (hkeep0 true hdvd fun o' ho' => by rw [hlow o' ho']; exact h o' ho')
    · rcases hclean with h | h
      · exact .inl (hkeep0 false hdvd fun o' ho' => by rw [hlow o' ho']; exact h o' ho')
      · refine .inr fun o ho => ?_
        rw [← Nat.add_assoc]
        exact hkeep1 true hdvd' (fun o' ho' => by rw [hup o' ho']; exact h o' ho') o ho

theorem ascAt_eq (u x : Nat) : ascAt u x = !x.testBit u := by
  unfold ascAt
  cases h : x.testBit u
  · exact decide_eq_true ((and_two_pow_eq_zero x u).2 h)
  · exact decide_eq_false fun h' => absurd ((and_two_pow_eq_zero x u).1 h') (by simp [h])

/-- The bitonic sorter sorts every aligned block of `2^s` positions, ascending where bit `s` of
the block is clear and descending where it is set. -/
theorem sortRun_sorted (s : Nat) :
    ∀ (w : Nat → Bool) (b : Nat), 2 ^ s ∣ b →
      SortedIn (ascAt s b) (2 ^ s) (fun o => sortRun s w (b + o)) := by
  induction s with
  | zero =>
    intro w b _ x y hxy hy
    obtain rfl : y = 0 := by simp at hy; omega
    obtain rfl : x = 0 := by omega
    split <;> exact le_rfl
  | succ s ih =>
    intro w b hb
    obtain ⟨q, rfl⟩ := hb
    set B := 2 ^ (s + 1) * q with hB
    have hH : 2 ^ (s + 1) = 2 * 2 ^ s := by rw [Nat.pow_succ]; ring
    have hs : 2 ^ s < 2 ^ (s + 1) := Nat.pow_lt_pow_right (by decide) (by omega)
    have hdvd : 2 ^ s ∣ B := Dvd.dvd.mul_right (Nat.pow_dvd_pow 2 (by omega)) q
    -- the lower half of the block is sorted up and the upper half down
    have hlow : ascAt s B = true := by
      rw [ascAt_eq, ← Nat.add_zero B, hB, Nat.testBit_two_pow_mul_add _ (Nat.two_pow_pos _),
        if_pos (by omega), Nat.zero_testBit]
      rfl
    have hup : ascAt s (B + 2 ^ s) = false := by
      rw [ascAt_eq, hB, Nat.testBit_two_pow_mul_add _ hs, if_pos (by omega), Nat.testBit_two_pow_self]
      rfl
    have hs0 := ih w B hdvd
    have hs1 := ih w (B + 2 ^ s) (Nat.dvd_add hdvd dvd_rfl)
    rw [hlow] at hs0
    rw [hup] at hs1
    have hwin : Window (2 ^ (s + 1)) (fun o => sortRun s w (B + o)) := by
      rw [hH]
      exact window_of_sorted_halves hs0 (hs1.congr fun o _ => by rw [Nat.add_assoc])
    -- the block's direction is the bit above it, the same at every position of the block
    have hasc : ∀ o < 2 ^ (s + 1), ascAt (s + 1) (B + o) = ascAt (s + 1) B := by
      intro o ho
      rw [ascAt_eq, ascAt_eq, hB, testBit_block ho le_rfl, ← Nat.add_zero (2 ^ (s + 1) * q),
        testBit_block (Nat.two_pow_pos _) le_rfl]
    exact mergeRun_sorted (s + 1) (sortRun s w) B _ (dvd_mul_right _ _) hasc hwin

end Stages


/-! ## Networks on 0-1 arrays -/

section BoolArrays

/-- The strict order of `Bool`: `false` before `true`. -/
def bitLt (a b : Bool) : Bool := !a && b

theorem comparesBy_bitLt : ComparesBy id bitLt := by
  intro a b
  cases a <;> cases b <;> decide

/-- A 0-1 array as a sequence, `false` past its end. -/
def bits (a : Array Bool) (x : Nat) : Bool := a.getD x false

theorem bits_eq (a : Array Bool) (x : Nat) : bits a x = (a[x]?).getD false :=
  Array.getD_eq_getD_getElem? ..

theorem runPairs_append {β : Type} [Inhabited β] (lt : β → β → Bool) (l l' : List (Nat × Nat))
    (v : Array β) : runPairs lt (l ++ l') v = runPairs lt l' (runPairs lt l v) :=
  List.foldl_append

/-- A compare-exchange of two positions of a 0-1 array puts their minimum first and their maximum
second. -/
theorem bits_exchange (a : Array Bool) {p q : Nat} (hp : p < a.size) (hq : q < a.size)
    (hpq : p ≠ q) (x : Nat) :
    bits (exchange bitLt a (p, q)) x =
      if x = p then bits a p && bits a q else if x = q then bits a p || bits a q else bits a x := by
  by_cases hxp : x = p
  · subst hxp
    rw [if_pos rfl, bits_eq, getElem?_exchange_fst comparesBy_bitLt a hp hq, bits_eq, bits_eq,
      Array.getElem?_eq_getElem hp, Array.getElem?_eq_getElem hq]
    cases a[x] <;> cases a[q] <;> rfl
  by_cases hxq : x = q
  · subst hxq
    rw [if_neg hxp, if_pos rfl, bits_eq, getElem?_exchange_snd comparesBy_bitLt a hp hq hpq,
      bits_eq, bits_eq, Array.getElem?_eq_getElem hp, Array.getElem?_eq_getElem hq]
    cases a[p] <;> cases a[x] <;> rfl
  · rw [if_neg hxp, if_neg hxq, bits_eq, bits_eq, getElem?_exchange_of_ne a _ hxp hxq]

theorem stagePairs_succ (c size stride : Nat) :
    stagePairs (c + 1) size stride = stagePairs c size stride ++
      (if c ^^^ stride ≤ c then [] else if c &&& size = 0 then [(c, c ^^^ stride)]
        else [(c ^^^ stride, c)]) := by
  simp only [stagePairs, List.range_succ, List.filterMap_append, List.filterMap_cons,
    List.filterMap_nil]
  split_ifs <;> rfl

/-- The pairs of a stage from the positions below `c`: a position whose pair starts below `c`
holds the value the whole stage gives it, any other its first value. -/
theorem bits_runPairs_stagePairs_below {m t u : Nat} (a : Array Bool) (ha : a.size = 2 ^ m)
    (ht : t < m) (hu : t ≠ u) :
    ∀ c ≤ 2 ^ m, ∀ x, bits (runPairs bitLt (stagePairs c (2 ^ u) (2 ^ t)) a) x =
      if min x (x ^^^ 2 ^ t) < c then cmpStage (ascAt u) t (bits a) x else bits a x := by
  have hs : 2 ^ t < 2 ^ m := Nat.pow_lt_pow_right (by decide) ht
  intro c
  induction c with
  | zero => intro _ x; rfl
  | succ c ih =>
    intro hc x
    set j := c ^^^ 2 ^ t with hj
    have hjc : j ^^^ 2 ^ t = c := by rw [hj, Nat.xor_assoc, Nat.xor_self, Nat.xor_zero]
    have hjne : j ≠ c := by
      intro h
      have hbit : j.testBit t = !c.testBit t := by
        rw [hj, Nat.testBit_xor, Nat.testBit_two_pow_self]
        cases c.testBit t <;> rfl
      rw [h] at hbit
      cases hct : c.testBit t <;> simp [hct] at hbit
    have hjlt : j < 2 ^ m := Nat.xor_lt_two_pow (by omega) hs
    have hdir : ascAt u j = ascAt u c := by
      rw [ascAt_eq, ascAt_eq, hj, testBit_xor_two_pow_of_ne hu]
    have hprev := ih (by omega)
    -- the pair of `c` and its partner, if `c` is the smaller of them, is the one new pair
    have hother : ∀ y, y ≠ c → y ≠ j → (min y (y ^^^ 2 ^ t) < c + 1 ↔ min y (y ^^^ 2 ^ t) < c) := by
      intro y hyc hyj
      have : y ^^^ 2 ^ t ≠ c := fun h =>
        hyj (by rw [hj, ← h, Nat.xor_assoc, Nat.xor_self, Nat.xor_zero])
      omega
    set r := runPairs bitLt (stagePairs c (2 ^ u) (2 ^ t)) a with hrdef
    have hr : r.size = 2 ^ m := by rw [hrdef, size_runPairs, ha]
    rw [stagePairs_succ]
    by_cases h1 : j ≤ c
    · -- `c` is the larger of its pair, whose stage is done
      rw [if_pos h1, List.append_nil, hprev x]
      by_cases hxc : x = c
      · subst hxc
        rw [if_pos (by omega), if_pos (by omega)]
      by_cases hxj : x = j
      · subst hxj
        rw [hjc, if_pos (by omega), if_pos (by omega)]
      · simp only [hother x hxc hxj]
    -- `c` is the smaller of its pair: both still hold their first values
    have hrc : bits r c = bits a c := by rw [hprev c, if_neg (by omega)]
    have hrj : bits r j = bits a j := by rw [hprev j, hjc, if_neg (by omega)]
    rw [if_neg h1, runPairs_append]
    by_cases h2 : c &&& 2 ^ u = 0
    · -- an ascending pair: the minimum goes to `c`
      rw [if_pos h2]
      show bits (exchange bitLt r (c, j)) x = _
      have hac : ascAt u c = true := decide_eq_true h2
      rw [bits_exchange _ (by omega) (by omega) (Ne.symm hjne), hrc, hrj]
      by_cases hxc : x = c
      · subst hxc
        rw [if_pos rfl, if_pos (by omega), cmpStage, hac, decide_eq_true (by omega : x < j)]
        rfl
      by_cases hxj : x = j
      · subst hxj
        rw [if_neg hxc, if_pos rfl, if_pos (by omega), cmpStage, hjc, hdir, hac,
          decide_eq_false (by omega : ¬ j < c), Bool.or_comm]
        rfl
      · rw [if_neg hxc, if_neg hxj, hprev x]
        simp only [hother x hxc hxj]
    · -- a descending pair: the minimum goes to the partner
      rw [if_neg h2]
      show bits (exchange bitLt r (j, c)) x = _
      have hac : ascAt u c = false := decide_eq_false h2
      rw [bits_exchange _ (by omega) (by omega) hjne, hrc, hrj]
      by_cases hxj : x = j
      · subst hxj
        rw [if_pos rfl, if_pos (by omega), cmpStage, hjc, hdir, hac,
          decide_eq_false (by omega : ¬ j < c)]
        rfl
      by_cases hxc : x = c
      · subst hxc
        rw [if_neg hxj, if_pos rfl, if_pos (by omega), cmpStage, hac,
          decide_eq_true (by omega : x < j), Bool.or_comm]
        rfl
      · rw [if_neg hxj, if_neg hxc, hprev x]
        simp only [hother x hxc hxj]

/-- A whole stage of the network on a 0-1 array of `2^m` positions is `cmpStage`. -/
theorem bits_runPairs_stagePairs {m t u : Nat} (a : Array Bool) (ha : a.size = 2 ^ m)
    (ht : t < m) (hu : t ≠ u) :
    bits (runPairs bitLt (stagePairs (2 ^ m) (2 ^ u) (2 ^ t)) a) = cmpStage (ascAt u) t (bits a) := by
  funext x
  rw [bits_runPairs_stagePairs_below a ha ht hu _ le_rfl x]
  split
  · rfl
  · -- past the end a position and its partner hold `false`
    rename_i hx
    have hx : 2 ^ m ≤ x := by omega
    have hxy : 2 ^ m ≤ x ^^^ 2 ^ t := two_pow_le_xor ht hx
    have h0 : ∀ y, 2 ^ m ≤ y → bits a y = false := fun y hy => by
      rw [bits_eq, Array.getElem?_eq_none (by omega)]; rfl
    unfold cmpStage
    rw [h0 x hx, h0 _ hxy]
    split <;> rfl

/-- The pairs of the bitonic network on `2^m` positions, level by level and stage by stage. -/
theorem bitonicPairs_two_pow (m : Nat) :
    bitonicPairs (2 ^ m) = (List.range m).flatMap fun s =>
      (List.range (s + 1)).reverse.flatMap fun t => stagePairs (2 ^ m) (2 ^ (s + 1)) (2 ^ t) := by
  simp only [bitonicPairs, bitonicStages, Nat.log2_two_pow, List.flatMap_assoc, List.flatMap_map,
    Nat.pow_eq]

/-- The stages of one level of the network, on a 0-1 array, are a bitonic merge. -/
theorem bits_runPairs_level {m s : Nat} (hs : s < m) :
    ∀ k ≤ s + 1, ∀ r : Array Bool, r.size = 2 ^ m →
      bits (runPairs bitLt ((List.range k).reverse.flatMap fun t =>
        stagePairs (2 ^ m) (2 ^ (s + 1)) (2 ^ t)) r) = mergeRun (ascAt (s + 1)) k (bits r) := by
  intro k
  induction k with
  | zero => intro _ r _; rfl
  | succ k ih =>
    intro hk r hr
    rw [List.range_succ, List.reverse_append, List.reverse_singleton, List.singleton_append,
      List.flatMap_cons, runPairs_append, ih (by omega) _ (by rw [size_runPairs, hr]),
      bits_runPairs_stagePairs r hr (by omega) (by omega)]
    rfl

/-- The bitonic network on a 0-1 array of `2^m` positions is the bitonic sorter. -/
theorem bits_runPairs_bitonicPairs {m : Nat} (a : Array Bool) (ha : a.size = 2 ^ m) :
    bits (runPairs bitLt (bitonicPairs (2 ^ m)) a) = sortRun m (bits a) := by
  -- the first `n` levels of the network sort blocks of `2^n`
  have hlevels : ∀ n ≤ m, bits (runPairs bitLt ((List.range n).flatMap fun s =>
      (List.range (s + 1)).reverse.flatMap fun t => stagePairs (2 ^ m) (2 ^ (s + 1)) (2 ^ t)) a) =
        sortRun n (bits a) := by
    intro n
    induction n with
    | zero => intro _; rfl
    | succ n ih =>
      intro hn
      rw [List.range_succ, List.flatMap_append, List.flatMap_singleton, runPairs_append,
        bits_runPairs_level (by omega) _ le_rfl _ (by rw [size_runPairs, ha]), ih (by omega)]
      rfl
  rw [bitonicPairs_two_pow]
  exact hlevels m le_rfl

end BoolArrays


/-! ## The 0-1 principle -/

section ZeroOnePrinciple

open List

variable {β K : Type} [LinearOrder K] [Inhabited β] {key : β → K} {lt : β → β → Bool}

/-- A compare-exchange only moves the elements of an array. -/
theorem runPairs_perm (pairs : List (Nat × Nat)) (v : Array β) :
    (runPairs lt pairs v).toList ~ v.toList := by
  induction pairs generalizing v with
  | nil => exact List.Perm.refl _
  | cons p ps ih => exact (ih (exchange lt v p)).trans (exchange_perm v p)

variable (hlt : ComparesBy key lt) {f : β → Bool} (hf : ∀ a b, key a ≤ key b → f a ≤ f b)
include hlt hf

/-- A map to `Bool` that keeps the order of the keys commutes with a compare-exchange: both
orders put the lesser first. -/
theorem exchange_map (v : Array β) {p q : Nat} (hp : p < v.size) (hq : q < v.size) :
    (exchange lt v (p, q)).map f = exchange bitLt (v.map f) (p, q) := by
  have hp' : p < (v.map f).size := by simpa using hp
  have hq' : q < (v.map f).size := by simpa using hq
  apply Array.ext_getElem?
  intro i
  rw [Array.getElem?_map]
  by_cases hip : i = p
  · rw [hip, getElem?_exchange_fst hlt v hp hq, getElem?_exchange_fst comparesBy_bitLt _ hp' hq',
      Option.map_some, Array.getElem_map, Array.getElem_map]
    simp only [id_eq]
    congr 1
    by_cases h : key v[q] < key v[p]
    · have hle := hf _ _ h.le
      rw [if_pos h]
      by_cases h' : f v[q] < f v[p]
      · rw [if_pos h']
      · rw [if_neg h']; exact le_antisymm hle (not_lt.1 h')
    · rw [if_neg h, if_neg (not_lt.2 (hf _ _ (not_lt.1 h)))]
  by_cases hiq : i = q
  · rw [hiq, getElem?_exchange_snd hlt v hp hq (Ne.symm (hiq ▸ hip)),
      getElem?_exchange_snd comparesBy_bitLt _ hp' hq' (Ne.symm (hiq ▸ hip)), Option.map_some,
      Array.getElem_map, Array.getElem_map]
    simp only [id_eq]
    congr 1
    by_cases h : key v[q] < key v[p]
    · have hle := hf _ _ h.le
      rw [if_pos h]
      by_cases h' : f v[q] < f v[p]
      · rw [if_pos h']
      · rw [if_neg h']; exact (le_antisymm hle (not_lt.1 h')).symm
    · rw [if_neg h, if_neg (not_lt.2 (hf _ _ (not_lt.1 h)))]
  · rw [getElem?_exchange_of_ne v _ hip hiq, getElem?_exchange_of_ne _ _ hip hiq,
      Array.getElem?_map]

/-- Such a map commutes with a whole run of compare-exchanges inside the array. -/
theorem runPairs_map (pairs : List (Nat × Nat)) :
    ∀ v : Array β, (∀ p ∈ pairs, p.1 < v.size ∧ p.2 < v.size) →
      (runPairs lt pairs v).map f = runPairs bitLt pairs (v.map f) := by
  induction pairs with
  | nil => intro v _; rfl
  | cons p ps ih =>
    intro v hin
    have hp := hin p (List.mem_cons_self ..)
    have hrest : ∀ p' ∈ ps, p'.1 < (exchange lt v p).size ∧ p'.2 < (exchange lt v p).size := by
      intro p' hp'
      rw [size_exchange]
      exact hin p' (List.mem_cons_of_mem _ hp')
    show (runPairs lt ps (exchange lt v p)).map f = runPairs bitLt ps (exchange bitLt (v.map f) p)
    rw [ih _ hrest, exchange_map hlt hf v hp.1 hp.2]

end ZeroOnePrinciple

section Sorts

open List

variable {β K : Type} [LinearOrder K] [Inhabited β] {key : β → K} {lt : β → β → Bool}

/-- The bitonic network on `2^m` positions sorts every array of `2^m` elements by its keys. -/
theorem ascending_runPairs_bitonicPairs (hlt : ComparesBy key lt) {m : Nat} (v : Array β)
    (hv : v.size = 2 ^ m) : Ascending key (runPairs lt (bitonicPairs (2 ^ m)) v).toList := by
  set r := runPairs lt (bitonicPairs (2 ^ m)) v with hr
  have hrs : r.size = 2 ^ m := by rw [hr, size_runPairs, hv]
  unfold Ascending
  rw [List.pairwise_iff_getElem]
  intro i j hi hj hij
  simp only [Array.length_toList] at hi hj
  by_contra hij'
  have hji : key r[j] < key r[i] := by simpa [KeyLE] using hij'
  -- the threshold at the later element maps the run to a 0-1 array that is out of order
  let f : β → Bool := fun x => decide (key r[j] < key x)
  have hf : ∀ a b, key a ≤ key b → f a ≤ f b := by
    intro a b hab
    by_cases ha : key r[j] < key a
    · simp only [f, decide_eq_true ha, decide_eq_true (lt_of_lt_of_le ha hab), le_refl]
    · simp only [f, decide_eq_false ha, Bool.false_le]
  have hmap := runPairs_map hlt hf (bitonicPairs (2 ^ m)) v
    (fun p hp => by rw [hv]; exact bitonicPairs_lt rfl p hp)
  have hsorted := sortRun_sorted m (bits (v.map f)) 0 (dvd_zero _) i j hij.le (by omega)
  have hasc : ascAt m 0 = true := by rw [ascAt_eq, Nat.zero_testBit]; rfl
  rw [hasc, if_pos rfl] at hsorted
  simp only [Nat.zero_add] at hsorted
  rw [← bits_runPairs_bitonicPairs _ (by rw [Array.size_map, hv]), ← hmap, ← hr, bits_eq, bits_eq,
    Array.getElem?_map, Array.getElem?_map, Array.getElem?_eq_getElem hi,
    Array.getElem?_eq_getElem hj] at hsorted
  simp only [Option.map_some, Option.getD_some, f, decide_eq_true hji, lt_irrefl,
    decide_false] at hsorted
  exact absurd hsorted (by decide)

/-- The bitonic network on `2^m` positions gives the sorted list of an array of `2^m` elements
whose keys tell them apart. -/
theorem runPairs_bitonicPairs_eq (hlt : ComparesBy key lt) {m : Nat} (v : Array β)
    (hv : v.size = 2 ^ m) (hd : KeysDistinct key v.toList) :
    (runPairs lt (bitonicPairs (2 ^ m)) v).toList = sortByKey key v.toList :=
  eq_sortByKey (runPairs_perm _ v) (ascending_runPairs_bitonicPairs hlt v hv) hd

end Sorts

/-- The bitonic network on `2^m` positions sorts every array of `2^m` elements of a strict total
order `lt`: it rearranges them so that no element comes before one on its left. -/
theorem runPairs_bitonicPairs_sorted {β : Type} [Inhabited β] (lt : β → β → Bool)
    [IsStrictTotalOrder β fun a b => lt a b = true] {m : Nat} (v : Array β) (hv : v.size = 2 ^ m) :
    (runPairs lt (bitonicPairs (2 ^ m)) v).toList.Perm v.toList ∧
      (runPairs lt (bitonicPairs (2 ^ m)) v).toList.Pairwise fun a b => lt b a = false := by
  -- the order is its own key: `a ≤ b` when `a = b` or `lt a b`
  let _ : LinearOrder β := linearOrderOfSTO fun a b => lt a b = true
  have hlt : ComparesBy id lt := fun _ _ => Iff.rfl
  refine ⟨runPairs_perm _ v, (ascending_runPairs_bitonicPairs hlt v hv).imp ?_⟩
  intro a b hab
  rcases hab with rfl | hab
  · simpa using irrefl_of (fun a b => lt a b = true) a
  · simpa using asymm_of (fun a b => lt a b = true) hab

end Select

end TensorSelect
