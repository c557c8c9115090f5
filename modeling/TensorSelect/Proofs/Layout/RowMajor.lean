import Mathlib
import TensorSelect.Proofs.Layout.Addressing

/-!
# Row-major numbering

A position of a tensor is a list of indices, one for each axis; it lies within dimensions
(`Within`) when each index lies in `[0, dim)`. Row-major order numbers the positions within
dimensions `0, 1, …, product - 1`: the number of a position (`rowMajor`) weighs each index by
the product of the dimensions after its axis, the stride of the axis (`rowMajor_eq_sum`). The
number lies below the product (`Within.rowMajor_mem`), tells the position apart
(`Within.rowMajor_inj`), numbers every position (`exists_within_rowMajor`), and splits at any
axis (`rowMajor_append`, `rowMajor_set`).

The odometer of `Shape.positions` counts in this numbering: a step from a position within the
dimensions leads to the next number, and past the last one back to zero
(`Shape.advance_rowMajor`). So the positions of a static shape with positive dimensions are, in
order, the positions numbered `0, 1, …` (`Shape.positions_rowMajor`). This holds even when the
size wraps, since a wrapped size never exceeds the product.

The number is also the sum of the indices weighted by the shape's strides, which are machine
integers: a stride that wraps is a product of at least `2^63`, and every position numbered below
the size has index zero on its axis (`Shape.sum_getD_mul_stridesOf`). A consumer that stops
after `n` positions is given the first `n` of the whole run (`Shape.positions_eq_take`).
-/

namespace TensorSelect

/-- The number of a position in row-major order: each index weighted by the product of the
dimensions after its axis. -/
def rowMajor : List Int → List Int → Int
  | _ :: ds, i :: is => i * ds.prod + rowMajor ds is
  | _, _ => 0

/-- A position within dimensions: one index for each axis, each in `[0, dim)`. -/
inductive Within : List Int → List Int → Prop
  | nil : Within [] []
  | cons {d i : Int} {ds is : List Int} : 0 ≤ i → i < d → Within ds is → Within (d :: ds) (i :: is)

@[simp]
theorem rowMajor_cons (d i : Int) (ds is : List Int) :
    rowMajor (d :: ds) (i :: is) = i * ds.prod + rowMajor ds is := rfl

@[simp]
theorem rowMajor_nil (idx : List Int) : rowMajor [] idx = 0 := rfl

@[simp]
theorem within_nil : Within [] [] := .nil

/-- A wrapped product of positive dimensions is at most the product. -/
theorem wrapWord_le {x : Int} (hx : 0 ≤ x) : wrapWord x ≤ x := by
  unfold wrapWord
  rw [Int.bmod_def]
  have h := Int.emod_emod_of_dvd x (dvd_refl (wordModulus : Int))
  have hle : x % (wordModulus : Int) ≤ x := by
    rw [Int.emod_def]
    have : 0 ≤ (wordModulus : Int) * (x / wordModulus) :=
      mul_nonneg (by simp [wordModulus]) (Int.ediv_nonneg hx (by simp [wordModulus]))
    omega
  split <;> simp [wordModulus] at * <;> omega

/-- A machine integer lies below `2^63`. -/
theorem wrapWord_lt (x : Int) : wrapWord x < 2 ^ 63 := by
  have h := Int.bmod_lt (x := x) (m := wordModulus) (by simp [wordModulus])
  simp only [wrapWord, wordModulus] at h ⊢
  norm_num at h ⊢
  omega

/-- Setting an entry of a list to itself leaves the list. -/
theorem set_getD_self {l : List Int} {a : Nat} (h : a < l.length) : l.set a (l.getD a 0) = l := by
  simp [List.getD_eq_getElem?_getD, h]

namespace Within

variable {dims idx : List Int}

theorem length_eq (h : Within dims idx) : idx.length = dims.length := by
  induction h with
  | nil => rfl
  | cons _ _ _ ih => simp [ih]

@[simp]
theorem cons_iff {d i : Int} {ds is : List Int} :
    Within (d :: ds) (i :: is) ↔ (0 ≤ i ∧ i < d) ∧ Within ds is := by
  constructor
  · rintro (_ | ⟨h0, h1, h⟩)
    exact ⟨⟨h0, h1⟩, h⟩
  · rintro ⟨⟨h0, h1⟩, h⟩
    exact cons h0 h1 h

/-- The number of a position within dimensions lies in `[0, product)`. -/
theorem rowMajor_mem (h : Within dims idx) : 0 ≤ rowMajor dims idx ∧ rowMajor dims idx < dims.prod := by
  induction h with
  | nil => simp
  | cons h0 h1 _ ih =>
    rw [rowMajor_cons, List.prod_cons]
    exact mul_add_mem h0 h1 ih.1 ih.2

/-- Positions within the same dimensions with the same number are the same. -/
theorem rowMajor_inj (h : Within dims idx) {idx' : List Int} (h' : Within dims idx')
    (heq : rowMajor dims idx = rowMajor dims idx') : idx = idx' := by
  induction h generalizing idx' with
  | nil => cases h'; rfl
  | cons _ _ hrest ih =>
    cases h' with
    | cons _ _ hrest' =>
      rw [rowMajor_cons, rowMajor_cons] at heq
      -- the first index is the number's leading digit, the rest its remainder
      obtain ⟨rfl, htail⟩ := mul_add_inj hrest.rowMajor_mem.1 hrest.rowMajor_mem.2
        hrest'.rowMajor_mem.1 hrest'.rowMajor_mem.2 heq
      rw [ih hrest' htail]

theorem append {dims₂ idx₂ : List Int} (h₁ : Within dims idx) (h₂ : Within dims₂ idx₂) :
    Within (dims ++ dims₂) (idx ++ idx₂) := by
  induction h₁ with
  | nil => exact h₂
  | cons h0 h1 _ ih => exact cons h0 h1 ih

theorem take (h : Within dims idx) (n : Nat) : Within (dims.take n) (idx.take n) := by
  induction h generalizing n with
  | nil => simp
  | cons h0 h1 _ ih =>
    cases n with
    | zero => exact nil
    | succ n => exact cons h0 h1 (ih n)

theorem drop (h : Within dims idx) (n : Nat) : Within (dims.drop n) (idx.drop n) := by
  induction h generalizing n with
  | nil => simp
  | cons h0 h1 hrest ih =>
    cases n with
    | zero => exact cons h0 h1 hrest
    | succ n => exact ih n

/-- Changing the extent of one axis and its index keeps a position within the dimensions, when
the new index lies within the new extent. -/
theorem set (h : Within dims idx) (a : Nat) {A j : Int} (hj0 : 0 ≤ j) (hj : j < A) :
    Within (dims.set a A) (idx.set a j) := by
  induction h generalizing a with
  | nil => exact nil
  | cons h0 h1 hrest ih =>
    cases a with
    | zero => exact cons hj0 hj hrest
    | succ a => exact cons h0 h1 (ih a)

/-- A position within dimensions with one axis changed, moved along that axis, lies within the
original dimensions. -/
theorem set_set {a : Nat} {A j : Int} (h : Within (dims.set a A) idx) (ha : a < dims.length)
    (hj0 : 0 ≤ j) (hj : j < dims.getD a 0) : Within dims (idx.set a j) := by
  have := h.set a hj0 hj
  rwa [List.set_set, set_getD_self ha] at this

/-- The index of a position within dimensions on one of their axes. -/
theorem getD_mem (h : Within dims idx) {a : Nat} (ha : a < dims.length) :
    0 ≤ idx.getD a 0 ∧ idx.getD a 0 < dims.getD a 0 := by
  induction h generalizing a with
  | nil => simp at ha
  | cons h0 h1 _ ih =>
    cases a with
    | zero => exact ⟨h0, h1⟩
    | succ a => simpa using ih (by simpa using ha)

/-- Each index of a position within dimensions, weighted by the product of the dimensions after
its axis, is at most the position's number. -/
theorem getD_mul_prod_drop_le (h : Within dims idx) {a : Nat} (ha : a < dims.length) :
    idx.getD a 0 * (dims.drop (a + 1)).prod ≤ rowMajor dims idx := by
  induction h generalizing a with
  | nil => simp at ha
  | @cons d i ds is h0 _ hrest ih =>
    have hr := hrest.rowMajor_mem
    rw [rowMajor_cons]
    cases a with
    | zero => simp only [List.getD_cons_zero, zero_add, List.drop_one, List.tail_cons]; omega
    | succ a =>
      have hi : 0 ≤ i * ds.prod := mul_nonneg h0 (by omega)
      simpa using (ih (by simpa using ha)).trans (le_add_of_nonneg_left hi)

end Within

/-- The first position, all indices zero, lies within positive dimensions and is numbered zero. -/
theorem within_zeros {dims : List Int} (hpos : ∀ d ∈ dims, 1 ≤ d) :
    Within dims (dims.map fun _ => 0) ∧ rowMajor dims (dims.map fun _ => 0) = 0 := by
  induction dims with
  | nil => exact ⟨.nil, rfl⟩
  | cons d ds ih =>
    obtain ⟨hw, hr⟩ := ih fun x hx => hpos x (List.mem_cons_of_mem d hx)
    have hd := hpos d List.mem_cons_self
    exact ⟨.cons le_rfl (show (0 : Int) < d by omega) hw, by simp only [List.map_cons, rowMajor_cons, hr]; ring⟩

/-- Every number in `[0, product)` of positive dimensions numbers a position within them. -/
theorem exists_within_rowMajor {dims : List Int} (hpos : ∀ d ∈ dims, 1 ≤ d) {f : Int}
    (h0 : 0 ≤ f) (hf : f < dims.prod) : ∃ idx, Within dims idx ∧ rowMajor dims idx = f := by
  induction dims generalizing f with
  | nil => exact ⟨[], .nil, by simp at hf; simp; omega⟩
  | cons d ds ih =>
    have hds : ∀ x ∈ ds, 1 ≤ x := fun x hx => hpos x (List.mem_cons_of_mem d hx)
    have hP := one_le_prod hds
    -- the leading index is the quotient by the product of the rest, the rest the remainder
    obtain ⟨idx, hw, hr⟩ := ih hds (Int.emod_nonneg f (by omega)) (Int.emod_lt_of_pos f (by omega))
    rw [List.prod_cons] at hf
    refine ⟨f / ds.prod :: idx, .cons (Int.ediv_nonneg h0 (by omega))
      ((Int.ediv_lt_iff_lt_mul (by omega)).2 hf) hw, ?_⟩
    rw [rowMajor_cons, hr]
    exact Int.ediv_mul_add_emod f ds.prod

/-- Two arrays of the size of a shape that agree at the number of every position within it are
equal. -/
theorem ext_rowMajor {β : Type} {dims : List Int} (hpos : ∀ d ∈ dims, 1 ≤ d) {xs ys : Array β}
    (hxs : (xs.size : Int) = dims.prod) (hys : (ys.size : Int) = dims.prod)
    (h : ∀ idx, Within dims idx → xs[(rowMajor dims idx).toNat]? = ys[(rowMajor dims idx).toNat]?) :
    xs = ys := by
  refine Array.ext_getElem? fun f => ?_
  by_cases hf : (f : Int) < dims.prod
  · obtain ⟨idx, hidx, hnum⟩ := exists_within_rowMajor hpos (Int.natCast_nonneg f) hf
    simpa [hnum] using h idx hidx
  · rw [Array.getElem?_eq_none (by omega), Array.getElem?_eq_none (by omega)]

/-- The number of a position joined from two splits into the number of the first part, scaled
by the product of the second part's dimensions, plus the number of the second part. -/
theorem rowMajor_append {dims₁ idx₁ : List Int} (h : idx₁.length = dims₁.length)
    (dims₂ idx₂ : List Int) :
    rowMajor (dims₁ ++ dims₂) (idx₁ ++ idx₂) = rowMajor dims₁ idx₁ * dims₂.prod + rowMajor dims₂ idx₂ := by
  induction dims₁ generalizing idx₁ with
  | nil =>
    rw [List.length_nil, List.length_eq_zero_iff] at h
    subst h
    simp
  | cons d ds ih =>
    cases idx₁ with
    | nil => simp at h
    | cons i is =>
      simp only [List.cons_append, rowMajor_cons, List.prod_append]
      rw [ih (by simpa using h)]
      ring

/-- Around one axis `p`, the number of a position is the number of the axes before it, then the
index on `p`, then the number of the axes after it, in mixed radix; the extent of `p` itself
only scales the axes before it. -/
theorem rowMajor_set {dims idx : List Int} (h : idx.length = dims.length) {p : Nat}
    (hp : p < dims.length) (A j : Int) :
    rowMajor (dims.set p A) (idx.set p j) =
      (rowMajor (dims.take p) (idx.take p) * A + j) * (dims.drop (p + 1)).prod +
        rowMajor (dims.drop (p + 1)) (idx.drop (p + 1)) := by
  rw [List.set_eq_take_append_cons_drop, if_pos hp, List.set_eq_take_append_cons_drop,
    if_pos (h ▸ hp), rowMajor_append (by simp [h]), rowMajor_cons, List.prod_cons]
  ring

/-- The number of a position is the sum of its indices, each weighted by the product of the
dimensions after its axis. -/
theorem rowMajor_eq_sum {dims idx : List Int} (h : idx.length = dims.length) :
    rowMajor dims idx = ∑ a ∈ Finset.range idx.length, idx.getD a 0 * (dims.drop (a + 1)).prod := by
  induction dims generalizing idx with
  | nil =>
    rw [List.length_nil, List.length_eq_zero_iff] at h
    subst h
    simp
  | cons d ds ih =>
    cases idx with
    | nil => simp at h
    | cons i is =>
      rw [rowMajor_cons, ih (by simpa using h), List.length_cons, Finset.sum_range_succ']
      simp only [List.getD_cons_succ, List.getD_cons_zero, List.drop_succ_cons, List.drop_zero]
      ring

namespace Shape

/-- The stride of an axis is the wrapped product of the dimensions after it. -/
theorem stridesOf_getD {dims : List Int} {a : Nat} (ha : a < dims.length) :
    (stridesOf dims).getD a 0 = wrapWord (dims.drop (a + 1)).prod := by
  induction dims generalizing a with
  | nil => simp at ha
  | cons d ds ih =>
    cases a with
    | zero => simp [stridesOf, List.prod_eq_foldl]
    | succ a => simpa [stridesOf] using ih (by simpa using ha)

/-- The strides of a static shape. -/
theorem strides_of_isStatic {s : Shape} (hs : s.isStatic = true) :
    s.strides = .ok (stridesOf s.dims) := by
  unfold strides
  split
  · next h => rw [List.isEmpty_iff.1 h]; rfl
  · rfl

/-- Indices weighted by the strides sum to the row-major number of a position numbered below
`2^63`, even where a stride wraps: an axis whose stride wraps has index zero in such a
position. -/
theorem sum_getD_mul_stridesOf {dims idx : List Int} (h : Within dims idx)
    (hfit : rowMajor dims idx < 2 ^ 63) :
    ∑ a ∈ Finset.range dims.length, idx.getD a 0 * (stridesOf dims).getD a 0 =
      rowMajor dims idx := by
  rw [rowMajor_eq_sum h.length_eq, h.length_eq]
  refine Finset.sum_congr rfl fun a ha => ?_
  have ha' := Finset.mem_range.1 ha
  rw [stridesOf_getD ha']
  have hP := (h.drop (a + 1)).rowMajor_mem
  rcases (h.getD_mem ha').1.eq_or_lt with hz | hi
  · rw [← hz, zero_mul, zero_mul]
  · have hle := h.getD_mul_prod_drop_le ha'
    have hPle : (dims.drop (a + 1)).prod ≤ idx.getD a 0 * (dims.drop (a + 1)).prod :=
      le_mul_of_one_le_left (by omega) hi
    rw [wrapWord_eq_self (by omega) (by omega)]

/-- One step of the odometer from a position within the dimensions: a position within them
again, numbered one more, less the whole product when the first axis carries out. -/
theorem advance_rowMajor {dims idx : List Int} (h : Within dims idx) :
    Within dims (advance dims idx).1 ∧
      rowMajor dims (advance dims idx).1 + (if (advance dims idx).2 then dims.prod else 0) =
        rowMajor dims idx + 1 := by
  induction h with
  | nil => simp [advance]
  | cons h0 h1 hrest ih =>
    rename_i d i ds is
    obtain ⟨hw, hv⟩ := ih
    rcases hadv : advance ds is with ⟨rest, carry⟩
    rw [hadv] at hw hv
    -- the axes after the first carry into it exactly when they wrap to zero
    cases carry with
    | false =>
      simp only [Bool.false_eq_true, if_false, add_zero] at hv
      simp only [advance, hadv, Bool.false_eq_true, if_false, add_zero, rowMajor_cons]
      exact ⟨.cons h0 h1 hw, by rw [hv]; ring⟩
    | true =>
      simp only [if_true] at hv
      by_cases hlt : i + 1 < d
      · simp only [advance, hadv, if_true, hlt, Bool.false_eq_true, if_false, add_zero,
          rowMajor_cons]
        exact ⟨.cons (by omega) hlt hw, by linear_combination hv⟩
      · have hd : d = i + 1 := by omega
        simp only [advance, hadv, if_true, hlt, if_false, rowMajor_cons, List.prod_cons]
        refine ⟨.cons le_rfl (by omega) hw, ?_⟩
        subst hd
        linear_combination hv

/-- From a position within the dimensions, the odometer lists, while the numbers stay below
the product, the positions within them numbered one after the other. -/
theorem steps_rowMajor {dims : List Int} (n : Nat) {idx : List Int} (h : Within dims idx)
    (hn : rowMajor dims idx + n ≤ dims.prod) :
    ∀ j < n, ∃ q, (steps dims n idx)[j]? = some q ∧ Within dims q ∧
      rowMajor dims q = rowMajor dims idx + j := by
  induction n generalizing idx with
  | zero => intro j hj; omega
  | succ n ih =>
    intro j hj
    cases j with
    | zero => exact ⟨idx, rfl, h, by simp⟩
    | succ j =>
      obtain ⟨hw, hv⟩ := advance_rowMajor h
      -- the step does not carry out: the next number is still below the product
      have hcarry : (advance dims idx).2 = false := by
        by_contra hc
        rw [Bool.not_eq_false] at hc
        rw [hc, if_pos rfl] at hv
        have := hw.rowMajor_mem.1
        push_cast at hn
        omega
      rw [hcarry] at hv
      simp only [Bool.false_eq_true, if_false, add_zero] at hv
      obtain ⟨q, hq, hqw, hqv⟩ := ih hw (by rw [hv]; push_cast at hn ⊢; omega) j (by omega)
      exact ⟨q, by simpa [steps] using hq, hqw, by rw [hqv, hv]; push_cast; ring⟩

/-- The positions of a static shape with an element type and positive dimensions are, in
order, the positions within its dimensions numbered `0, 1, …`: as many as its size, or the
limit if that is smaller. -/
theorem positions_rowMajor (s : Shape) (limit : Nat) (hs : s.isStatic = true) (hok : s.ok = true)
    (hpos : ∀ d ∈ s.dims, 1 ≤ d) :
    ∃ L, s.positions limit = .ok L ∧ L.length = min limit s.size.toNat ∧
      ∀ f < L.length, ∃ q, L[f]? = some q ∧ Within s.dims q ∧ rowMajor s.dims q = f := by
  obtain ⟨hw, hr⟩ := within_zeros hpos
  have hprod : 0 ≤ s.dims.prod := by linarith [one_le_prod hpos]
  -- the size, wrapped or not, is at most the product
  have hsize : (s.size.toNat : Int) ≤ s.dims.prod := by
    have hle := wrapWord_le hprod
    simp only [size, hs, if_true, ← List.prod_eq_foldl]
    omega
  refine ⟨steps s.dims (min limit s.size.toNat) (s.dims.map fun _ => 0),
    by simp [positions, hs, hok], length_steps _ _ _, ?_⟩
  intro f hf
  rw [length_steps] at hf
  obtain ⟨q, hq, hqw, hqv⟩ := steps_rowMajor (min limit s.size.toNat) hw
    (by rw [hr]; omega) f hf
  exact ⟨q, hq, hqw, by rw [hqv, hr]; simp⟩

/-- A run of the odometer cut after `n` steps is the run of `n` steps. -/
theorem steps_min (dims : List Int) (m n : Nat) (idx : List Int) :
    steps dims (min n m) idx = (steps dims m idx).take n := by
  induction m generalizing n idx with
  | zero => simp [steps]
  | succ m ih =>
    cases n with
    | zero => simp [steps]
    | succ n => simp [steps, Nat.succ_min_succ, ih]

/-- The positions of a static shape with an element type, up to a limit, are the first ones of
the whole run of the odometer. -/
theorem positions_eq_take {s : Shape} (hs : s.isStatic = true) (hok : s.ok = true) (n : Nat) :
    s.positions n = .ok ((steps s.dims s.size.toNat (s.dims.map fun _ => 0)).take n) := by
  simp [positions, hs, hok, steps_min]

/-- A static shape with an element type and positive dimensions has `size` positions, `0` when
the size wraps below zero: the one at place `f` lies within the dimensions, and its indices
weighted by the strides sum to `f`. A consumer that stops after `n` positions is given the first
`n` of them. -/
theorem positions_enumerate (s : Shape) (hs : s.isStatic = true) (hok : s.ok = true)
    (hpos : ∀ d ∈ s.dims, 1 ≤ d) :
    ∃ (strides : List Int) (E : List (List Int)), s.strides = .ok strides ∧
      E.length = s.size.toNat ∧
      (∀ f < E.length, ∃ idx, E[f]? = some idx ∧ Within s.dims idx ∧
        ∑ a ∈ Finset.range s.rank, idx.getD a 0 * strides.getD a 0 = f) ∧
      ∀ n, s.positions n = .ok (E.take n) := by
  obtain ⟨L, hL, hlen, hLq⟩ := positions_rowMajor s s.size.toNat hs hok hpos
  -- the run that is never stopped is the whole run
  have hwhole : L = steps s.dims s.size.toNat (s.dims.map fun _ => 0) := by
    rw [positions_eq_take hs hok, List.take_of_length_le (by rw [length_steps])] at hL
    exact (Except.ok.inj hL).symm
  subst hwhole
  refine ⟨stridesOf s.dims, _, strides_of_isStatic hs, by simpa using hlen,
    fun f hf => ?_, positions_eq_take hs hok⟩
  obtain ⟨q, hq, hqw, hqv⟩ := hLq f hf
  -- a place below the size is below `2^63`, so no stride that wraps weighs a nonzero index
  have hfit : rowMajor s.dims q < 2 ^ 63 := by
    have := wrapWord_lt (s.dims.foldl (· * ·) 1)
    simp only [size, hs, if_true] at hlen hf
    omega
  exact ⟨q, hq, hqw, by rw [← hqv]; exact sum_getD_mul_stridesOf hqw hfit⟩

/-- The shape `[3, 1, 2]`, with an axis of extent one: six positions and strides `[2, 2, 1]`. -/
theorem positions_enumerate_three_one_two :
    Shape.isStatic ⟨ElemType.float64.toDType, [3, 1, 2]⟩ = true ∧
    Shape.ok ⟨ElemType.float64.toDType, [3, 1, 2]⟩ = true ∧
    (∀ d ∈ Shape.dims ⟨ElemType.float64.toDType, [3, 1, 2]⟩, 1 ≤ d) ∧
    ∃ (strides : List Int) (E : List (List Int)),
      Shape.strides ⟨ElemType.float64.toDType, [3, 1, 2]⟩ = .ok strides ∧
      E.length = (Shape.size ⟨ElemType.float64.toDType, [3, 1, 2]⟩).toNat ∧
      (∀ f < E.length, ∃ idx, E[f]? = some idx ∧
        Within (Shape.dims ⟨ElemType.float64.toDType, [3, 1, 2]⟩) idx ∧
        ∑ a ∈ Finset.range (Shape.rank ⟨ElemType.float64.toDType, [3, 1, 2]⟩),
          idx.getD a 0 * strides.getD a 0 = f) ∧
      ∀ n, Shape.positions ⟨ElemType.float64.toDType, [3, 1, 2]⟩ n = .ok (E.take n) := by
  have hs : Shape.isStatic ⟨ElemType.float64.toDType, [3, 1, 2]⟩ = true := rfl
  have hok : Shape.ok ⟨ElemType.float64.toDType, [3, 1, 2]⟩ = true := rfl
  have hpos : ∀ d ∈ Shape.dims ⟨ElemType.float64.toDType, [3, 1, 2]⟩, 1 ≤ d := by decide
  exact ⟨hs, hok, hpos, positions_enumerate _ hs hok hpos⟩

-- the axis of extent one wraps at every step and carries at once into the first axis
example : Shape.positions ⟨ElemType.float64.toDType, [3, 1, 2]⟩ 6 =
    .ok [[0, 0, 0], [0, 0, 1], [1, 0, 0], [1, 0, 1], [2, 0, 0], [2, 0, 1]] := rfl

end Shape

end TensorSelect
