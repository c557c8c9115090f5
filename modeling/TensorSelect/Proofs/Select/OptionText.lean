import TensorSelect.Select.Options

/-!
# Reading the options back

`Options.parse` reads an option text item by item, starting from the host's defaults, and
`Options.text` writes the four integers and, when it is set, the flag. Main statement
(`Options.parse_round_trip`): options read from any text keep every key's least value, the
text written from them reads back as the same options, and every failure of reading is a
configuration failure.

The proof rests on three facts:

* one item can only set one integer to a 64-bit value at least its key's least value, or set
  the flag (`Options.assign_ok`), and every failure of an item is a configuration failure
  (`Options.assign_error`), so the bounds of the defaults (`Options.default_inRange`) hold of
  every text read (`Options.parse_inRange`);
* the items of the written text are the five it was written from (`Options.items_text`);
* a 64-bit integer written in decimal reads back as itself (`Text.readDecimal?_toString`).

The bounds need the host's register count and core count to be 64-bit integers, as the
platform's are (`Host.WordSized`): the defaults are printed too.
-/

namespace TensorSelect

namespace Text

/-! ## Decimal integers -/

theorem digitValue_of_isDigit {c : Char} (h : c.isDigit = true) :
    digitValue 10 c = some (c.toNat - '0'.toNat) := by
  have hc : c.isDigit = true := h
  simp only [Char.isDigit, Bool.and_eq_true, decide_eq_true_eq] at h
  have h1 : (48 : Nat) ≤ c.toNat := h.1
  have h2 : c.toNat ≤ 57 := h.2
  simp only [digitValue, hc, if_true]
  exact if_pos (by simp only [Char.reduceToNat]; omega)

/-- Decimal digits read left to right onto `init` give the number they extend it to. -/
theorem foldlM_digitValue {cs : List Char} (h : ∀ c ∈ cs, c.isDigit = true) (init : Nat) :
    cs.foldlM (fun n c => (digitValue 10 c).map (10 * n + ·)) init =
      some (Nat.ofDigitChars 10 cs init) := by
  induction cs generalizing init with
  | nil => rfl
  | cons c cs ih =>
    rw [List.foldlM_cons, digitValue_of_isDigit (h c List.mem_cons_self), Nat.ofDigitChars_cons]
    exact ih (fun c' hc' => h c' (List.mem_cons_of_mem c hc')) _

theorem isDigit_of_mem_toDigits {n : Nat} {c : Char} (h : c ∈ Nat.toDigits 10 n) :
    c.isDigit = true :=
  Nat.isDigit_of_mem_toDigits (by decide) (by decide) h

theorem digitsIn_toDigits (n : Nat) : digitsIn 10 (Nat.toDigits 10 n) = some n := by
  have hne : (Nat.toDigits 10 n).isEmpty = false := List.isEmpty_eq_false_iff.2 Nat.toDigits_ne_nil
  simp only [digitsIn, hne, Bool.false_eq_true, if_false]
  rw [foldlM_digitValue (fun c hc => isDigit_of_mem_toDigits hc), Nat.ofDigitChars_ten_toDigits]

/-- Digits carry no sign. -/
theorem splitSign_toDigits (n : Nat) : splitSign (Nat.toDigits 10 n) = (false, Nat.toDigits 10 n) := by
  have hd := fun c hc => isDigit_of_mem_toDigits (n := n) (c := c) hc
  unfold splitSign
  split
  · next r h => exact absurd (hd '+' (h ▸ List.mem_cons_self)) (by decide)
  · next r h => exact absurd (hd '-' (h ▸ List.mem_cons_self)) (by decide)
  · rfl

/-- The decimal text of a 64-bit integer reads back as the integer. -/
theorem readDecimal?_toString {v : Int} (h1 : int64Min ≤ v) (h2 : v ≤ int64Max) :
    readDecimal? (toString v) = some v := by
  rw [Int.toString_eq_repr, Int.repr_eq_if]
  split
  · next hv =>
    simp only [readDecimal?, Nat.toList_repr, splitSign_toDigits, digitsIn_toDigits,
      Option.bind_some, inInt64]
    simp only [int64Min, int64Max] at h1 h2
    simp [int64Min, int64Max]
    omega
  · next hv =>
    simp only [readDecimal?, String.toList_append, Nat.toList_repr]
    simp [splitSign, digitsIn_toDigits, inInt64]
    simp only [int64Min, int64Max] at h1 h2
    simp [int64Min, int64Max]
    omega

theorem inInt64_mem {neg : Bool} {n : Nat} {v : Int} (h : inInt64 neg n = some v) :
    int64Min ≤ v ∧ v ≤ int64Max := by
  simp only [inInt64] at h
  obtain ⟨hr, hv⟩ := Option.ite_none_right_eq_some.1 h
  rw [← Option.some.inj hv]
  simpa only [Bool.and_eq_true, decide_eq_true_eq] using hr

/-- What `readDecimal?` reads is a 64-bit integer. -/
theorem readDecimal?_mem {s : String} {v : Int} (h : readDecimal? s = some v) :
    int64Min ≤ v ∧ v ≤ int64Max := by
  simp only [readDecimal?, Option.bind_eq_some_iff] at h
  obtain ⟨n, -, hn⟩ := h
  exact inInt64_mem hn

/-! ## Characters of decimal integers and of items -/

/-- A decimal integer is written with digits and a minus sign only. -/
theorem mem_toString {v : Int} {c : Char} (h : c ∈ (toString v).toList) :
    c = '-' ∨ c.isDigit = true := by
  rw [Int.toString_eq_repr, Int.repr_eq_if] at h
  split at h
  · rw [Nat.toList_repr] at h
    exact .inr (isDigit_of_mem_toDigits h)
  · rw [String.toList_append, Nat.toList_repr] at h
    rcases List.mem_append.1 h with h | h
    · exact .inl (by simpa using h)
    · exact .inr (isDigit_of_mem_toDigits h)

theorem isBlank_of_isDigit {c : Char} (h : c.isDigit = true) : isBlank c = false := by
  simp only [Char.isDigit, Bool.and_eq_true, decide_eq_true_eq] at h
  have h1 : (48 : Nat) ≤ c.toNat := h.1
  have h2 : c.toNat ≤ 57 := h.2
  simp only [isBlank, Bool.or_eq_false_iff, Bool.and_eq_false_iff, decide_eq_false_iff_not,
    beq_eq_false_iff_ne]
  omega

/-- A text without blanks is its own trimmed text. -/
theorem trimBlanks_of_forall {s : String} (h : ∀ c ∈ s.toList, isBlank c = false) :
    trimBlanks s = s := by
  have hdrop : ∀ l : List Char, (∀ c ∈ l, isBlank c = false) → l.dropWhile isBlank = l := by
    intro l hl
    cases l with
    | nil => rfl
    | cons c r => exact List.dropWhile_cons_of_neg (by simp [hl c List.mem_cons_self])
  have hrev : ∀ c ∈ s.toList.reverse, isBlank c = false := fun c hc => h c (List.mem_reverse.1 hc)
  rw [trimBlanks, hdrop _ h, hdrop _ hrev, List.reverse_reverse, String.ofList_toList]

end Text

namespace Select

/-- A host whose register count and core count are 64-bit integers, as a platform's are. -/
structure Host.WordSized (h : Host) : Prop where
  registers : h.platform.registers ≤ Text.int64Max
  cores : h.cores ≤ Text.int64Max

namespace Options

/-- Options whose integers are 64-bit integers, each at least its key's least value. -/
structure InRange (o : Options) : Prop where
  bubbleMaxAxis : 1 ≤ o.bubbleMaxAxis ∧ o.bubbleMaxAxis ≤ Text.int64Max
  bubbleMaxK : 0 ≤ o.bubbleMaxK ∧ o.bubbleMaxK ≤ Text.int64Max
  parallelism : -1 ≤ o.parallelism ∧ o.parallelism ≤ Text.int64Max
  minParallelUnits : 0 ≤ o.minParallelUnits ∧ o.minParallelUnits ≤ Text.int64Max

/-- The defaults of a host are in range: the bubble bound is at least one, and the count of
cores is no negative number. -/
theorem default_inRange {h : Host} (hh : h.WordSized) : (default h).InRange := by
  have hr : h.platform.registers.tdiv 2 ≤ Text.int64Max.tdiv 2 :=
    Int.tdiv_le_tdiv (by decide) hh.registers
  have hhalf : Text.int64Max.tdiv 2 = 4611686018427387903 := by decide
  have hc := hh.cores
  rw [hhalf] at hr
  simp only [Text.int64Max] at hc
  refine ⟨?_, ?_, ?_, ?_⟩ <;>
    simp only [default, Platform.defaultBubbleMaxK, Text.int64Max] <;> omega

/-! ## One item -/

section Item

variable {key value : String} {least v : Int}

theorem readCount_ok (h : readCount key value least = .ok v) : least ≤ v ∧ v ≤ Text.int64Max := by
  unfold readCount at h
  split at h
  · cases h
  · next v' hv' =>
    split at h
    · cases h
    · next hle =>
      cases h
      exact ⟨by omega, (Text.readDecimal?_mem hv').2⟩

theorem readCount_error {e : Error} (h : readCount key value least = .error e) :
    e.kind = .configuration := by
  unfold readCount at h
  split at h
  · cases h; rfl
  · split at h
    · cases h; rfl
    · cases h

theorem readCount_toString (hl : Text.int64Min ≤ least) (h1 : least ≤ v) (h2 : v ≤ Text.int64Max) :
    readCount key (toString v) least = .ok v := by
  simp only [readCount, Text.readDecimal?_toString (by omega) h2]
  exact if_neg (by omega)

/-- A count read into one field of the options is a 64-bit integer at least the least value. -/
theorem map_readCount_ok {g : Int → Options} {o' : Options}
    (h : (readCount key value least).map g = .ok o') :
    ∃ v, least ≤ v ∧ v ≤ Text.int64Max ∧ o' = g v := by
  cases hr : readCount key value least with
  | error e => rw [hr] at h; cases h
  | ok v =>
    rw [hr] at h
    cases h
    exact ⟨v, (readCount_ok hr).1, (readCount_ok hr).2, rfl⟩

theorem map_readCount_error {g : Int → Options} {e : Error}
    (h : (readCount key value least).map g = .error e) : e.kind = .configuration := by
  cases hr : readCount key value least with
  | error e' => rw [hr] at h; cases h; exact readCount_error hr
  | ok v => rw [hr] at h; cases h

end Item

section Assign

variable {c key : String} {value? : Option String} {o o' : Options}

/-- What one item can do to the options: set one integer to a 64-bit value at least its key's
least value, or set the flag. -/
theorem assign_ok (h : assign c o key value? = .ok o') :
    (∃ v, 1 ≤ v ∧ v ≤ Text.int64Max ∧ o' = { o with bubbleMaxAxis := v }) ∨
    (∃ v, 0 ≤ v ∧ v ≤ Text.int64Max ∧ o' = { o with bubbleMaxK := v }) ∨
    (∃ v, -1 ≤ v ∧ v ≤ Text.int64Max ∧ o' = { o with parallelism := v }) ∨
    (∃ v, 0 ≤ v ∧ v ≤ Text.int64Max ∧ o' = { o with minParallelUnits := v }) ∨
    ∃ b, o' = { o with reference := b } := by
  unfold assign at h
  split at h
  · exact .inl (map_readCount_ok h)
  · exact .inr (.inl (map_readCount_ok h))
  · exact .inr (.inr (.inl (map_readCount_ok h)))
  · exact .inr (.inr (.inr (.inl (map_readCount_ok h))))
  · -- the flag, set bare or to a truth value
    refine .inr (.inr (.inr (.inr ?_)))
    split at h
    · exact ⟨true, (Except.ok.inj h).symm⟩
    · split at h
      · next b _ => exact ⟨b, (Except.ok.inj h).symm⟩
      · cases h
  · cases h

/-- Every failure of an item is a configuration failure. -/
theorem assign_error {e : Error} (h : assign c o key value? = .error e) :
    e.kind = .configuration := by
  unfold assign at h
  split at h
  · exact map_readCount_error h
  · exact map_readCount_error h
  · exact map_readCount_error h
  · exact map_readCount_error h
  · split at h
    · cases h
    · split at h
      · cases h
      · cases h; rfl
  · cases h; rfl

theorem InRange.assign (hi : o.InRange) (h : assign c o key value? = .ok o') : o'.InRange := by
  rcases assign_ok h with ⟨v, h1, h2, rfl⟩ | ⟨v, h1, h2, rfl⟩ | ⟨v, h1, h2, rfl⟩ |
    ⟨v, h1, h2, rfl⟩ | ⟨b, rfl⟩
  · exact ⟨⟨h1, h2⟩, hi.bubbleMaxK, hi.parallelism, hi.minParallelUnits⟩
  · exact ⟨hi.bubbleMaxAxis, ⟨h1, h2⟩, hi.parallelism, hi.minParallelUnits⟩
  · exact ⟨hi.bubbleMaxAxis, hi.bubbleMaxK, ⟨h1, h2⟩, hi.minParallelUnits⟩
  · exact ⟨hi.bubbleMaxAxis, hi.bubbleMaxK, hi.parallelism, ⟨h1, h2⟩⟩
  · exact ⟨hi.bubbleMaxAxis, hi.bubbleMaxK, hi.parallelism, hi.minParallelUnits⟩

/-- An item is blank, and changes nothing, or is a key and maybe a value, assigned. -/
theorem setItem_cases (item : String) :
    setItem c o item = .ok o ∨ ∃ key value?, setItem c o item = assign c o key value? := by
  simp only [setItem]
  split
  · exact .inl rfl
  · exact .inr ⟨_, _, rfl⟩

theorem InRange.setItem (hi : o.InRange) {item : String} (h : setItem c o item = .ok o') :
    o'.InRange := by
  rcases setItem_cases (c := c) (o := o) item with he | ⟨key, value?, he⟩
  · rw [he] at h
    exact Except.ok.inj h ▸ hi
  · rw [he] at h
    exact hi.assign h

theorem setItem_error {item : String} {e : Error} (h : setItem c o item = .error e) :
    e.kind = .configuration := by
  rcases setItem_cases (c := c) (o := o) item with he | ⟨key, value?, he⟩
  · rw [he] at h; cases h
  · rw [he] at h; exact assign_error h

end Assign

/-! ## A whole text -/

/-- A fold of steps that each keep `Q` and fail only with errors of `P` keeps `Q`, and fails
only with errors of `P`. -/
theorem foldlM_inv {α β ε : Type} {f : β → α → Except ε β} (Q : β → Prop) (P : ε → Prop)
    (hok : ∀ b a b', Q b → f b a = .ok b' → Q b') (herr : ∀ b a e, Q b → f b a = .error e → P e) :
    ∀ (l : List α) (b : β), Q b →
      (∀ r, l.foldlM f b = .ok r → Q r) ∧ ∀ e, l.foldlM f b = .error e → P e := by
  intro l
  induction l with
  | nil =>
    intro b hb
    exact ⟨fun r h => Except.ok.inj h ▸ hb, fun e h => by cases h⟩
  | cons a l ih =>
    intro b hb
    rw [List.foldlM_cons]
    cases hf : f b a with
    | error e' =>
      refine ⟨fun r h => (nomatch h), fun e h => ?_⟩
      injection h with he
      exact he ▸ herr b a e' hb hf
    | ok b' => exact ih b' (hok b a b' hb hf)

section Parse

variable {h : Host} {c : String}

/-- Options read from a text are in range. -/
theorem parse_inRange (hh : h.WordSized) {o : Options} (hp : parse h c = .ok o) : o.InRange :=
  (foldlM_inv InRange (fun e => e.kind = .configuration) (fun _ _ _ hi hs => hi.setItem hs)
    (fun _ _ _ _ hs => setItem_error hs) (items c) (default h) (default_inRange hh)).1 o hp

/-- Every failure of reading a text is a configuration failure. -/
theorem parse_error {e : Error} (hp : parse h c = .error e) : e.kind = .configuration :=
  (foldlM_inv (fun _ => True) (fun e => e.kind = .configuration) (fun _ _ _ _ _ => trivial)
    (fun _ _ _ _ hs => setItem_error hs) (items c) (default h) trivial).2 e hp

end Parse

/-! ## The written text -/

/-- The items of a text joined by commas, none of which has a comma, are the items it joins. -/
theorem items_intercalate {L : List String} (hc : ∀ s ∈ L, ',' ∉ s.toList) (hL : L ≠ []) :
    items (",".intercalate L) = L := by
  have hsep : ",".toList = [','] := rfl
  rw [items, String.toList_intercalate, hsep,
    List.splitOn_intercalate ',' (by simpa using hc) (by simpa using hL)]
  simp

theorem text_eq_intercalate (o : Options) : o.text = ",".intercalate
    (["bubble_max_axis=" ++ toString o.bubbleMaxAxis, "bubble_max_k=" ++ toString o.bubbleMaxK,
      "parallelism=" ++ toString o.parallelism,
      "min_parallel_units=" ++ toString o.minParallelUnits] ++
      if o.reference then ["reference"] else []) := by
  apply String.toList_inj.1
  unfold text
  -- both sides as lists of characters, with the flag's item present or not
  cases o.reference
  all_goals simp only [Bool.false_eq_true, if_false, if_true, String.toList_append,
    String.toList_intercalate, List.append_nil, List.map_cons, List.map_nil,
    List.intercalate_cons_cons, List.intercalate_singleton, List.append_assoc]
  all_goals simp

theorem comma_not_mem_toString (v : Int) : ',' ∉ (toString v).toList := fun h => by
  rcases Text.mem_toString h with h | h <;> revert h <;> decide

/-- The written text has the five items it is written from. -/
theorem items_text (o : Options) : items o.text =
    ["bubble_max_axis=" ++ toString o.bubbleMaxAxis, "bubble_max_k=" ++ toString o.bubbleMaxK,
      "parallelism=" ++ toString o.parallelism,
      "min_parallel_units=" ++ toString o.minParallelUnits] ++
      (if o.reference then ["reference"] else []) := by
  rw [text_eq_intercalate]
  refine items_intercalate (fun s hs => ?_) (by simp)
  have hkey : ∀ (k : String) (v : Int), ',' ∉ k.toList → ',' ∉ (k ++ toString v).toList :=
    fun k v hk => by
      rw [String.toList_append, List.mem_append, not_or]
      exact ⟨hk, comma_not_mem_toString v⟩
  simp only [List.cons_append, List.nil_append, List.mem_cons] at hs
  rcases hs with rfl | rfl | rfl | rfl | hs
  any_goals exact hkey _ _ (by simp)
  split at hs
  · rw [List.mem_singleton.1 hs]; simp
  · cases hs

/-- An item `key=value` with no `=` in the key and no blanks sets `key` to `value`. -/
theorem setItem_keyValue (c : String) (o : Options) (key value : String)
    (hk : ∀ ch ∈ key.toList, ch ≠ '=' ∧ Text.isBlank ch = false)
    (hv : ∀ ch ∈ value.toList, Text.isBlank ch = false) :
    setItem c o (key ++ "=" ++ value) = assign c o key (some value) := by
  have hl : (key ++ "=" ++ value).toList = key.toList ++ '=' :: value.toList := by simp
  have hblank : ∀ ch ∈ (key ++ "=" ++ value).toList, Text.isBlank ch = false := by
    intro ch hch
    rw [hl, List.mem_append, List.mem_cons] at hch
    rcases hch with hch | rfl | hch
    · exact (hk ch hch).2
    · decide
    · exact hv ch hch
  have hne : (key ++ "=" ++ value).isEmpty = false := String.isEmpty_eq_false_iff.2 fun he => by
    have := congrArg String.toList he
    simp at this
  have hsplit : splitItem (key ++ "=" ++ value) = (key, some value) := by
    have hkey : ∀ ch ∈ key.toList, (ch != '=') = true := fun ch hch => by
      simpa using (hk ch hch).1
    simp only [splitItem, hl, List.takeWhile_append_of_pos hkey,
      List.dropWhile_append_of_pos hkey]
    simp only [List.takeWhile_cons, List.dropWhile_cons, bne_self_eq_false, Bool.false_eq_true,
      if_false, List.append_nil, String.ofList_toList]
    rw [Text.trimBlanks_of_forall (fun ch hch => (hk ch hch).2),
      Text.trimBlanks_of_forall hv]
  simp only [setItem, Text.trimBlanks_of_forall hblank, hne, hsplit, Bool.false_eq_true, if_false]

theorem isBlank_toString {v : Int} {ch : Char} (h : ch ∈ (toString v).toList) :
    Text.isBlank ch = false := by
  rcases Text.mem_toString h with rfl | hd
  · decide
  · exact Text.isBlank_of_isDigit hd

/-- A count written after its key sets that key. -/
theorem setItem_count (c : String) (o : Options) (key : String)
    (hk : ∀ ch ∈ key.toList, ch ≠ '=' ∧ Text.isBlank ch = false) (v : Int) :
    setItem c o (key ++ "=" ++ toString v) = assign c o key (some (toString v)) :=
  setItem_keyValue c o key (toString v) hk fun _ => isBlank_toString

/-- The text written from options in range reads back as the same options, whatever the
defaults it starts from: it sets every integer, and sets the flag when the flag is set. -/
theorem parse_text (h : Host) {o : Options} (hi : o.InRange) : parse h o.text = .ok o := by
  have hmin : ∀ least : Int, -1 ≤ least → Text.int64Min ≤ least := fun _ hl => by
    simp only [Text.int64Min]; omega
  -- each item sets its own field, whatever the options before it
  have h1 : ∀ o', setItem o.text o' ("bubble_max_axis=" ++ toString o.bubbleMaxAxis) =
      .ok { o' with bubbleMaxAxis := o.bubbleMaxAxis } := fun o' => by
    rw [show "bubble_max_axis=" = "bubble_max_axis" ++ "=" by decide,
      setItem_count _ _ _ (by simp [Text.isBlank])]
    exact congrArg (Except.map _)
      (readCount_toString (hmin 1 (by decide)) hi.bubbleMaxAxis.1 hi.bubbleMaxAxis.2)
  have h2 : ∀ o', setItem o.text o' ("bubble_max_k=" ++ toString o.bubbleMaxK) =
      .ok { o' with bubbleMaxK := o.bubbleMaxK } := fun o' => by
    rw [show "bubble_max_k=" = "bubble_max_k" ++ "=" by decide,
      setItem_count _ _ _ (by simp [Text.isBlank])]
    exact congrArg (Except.map _)
      (readCount_toString (hmin 0 (by decide)) hi.bubbleMaxK.1 hi.bubbleMaxK.2)
  have h3 : ∀ o', setItem o.text o' ("parallelism=" ++ toString o.parallelism) =
      .ok { o' with parallelism := o.parallelism } := fun o' => by
    rw [show "parallelism=" = "parallelism" ++ "=" by decide,
      setItem_count _ _ _ (by simp [Text.isBlank])]
    exact congrArg (Except.map _)
      (readCount_toString (hmin (-1) (by decide)) hi.parallelism.1 hi.parallelism.2)
  have h4 : ∀ o', setItem o.text o' ("min_parallel_units=" ++ toString o.minParallelUnits) =
      .ok { o' with minParallelUnits := o.minParallelUnits } := fun o' => by
    rw [show "min_parallel_units=" = "min_parallel_units" ++ "=" by decide,
      setItem_count _ _ _ (by simp [Text.isBlank])]
    exact congrArg (Except.map _)
      (readCount_toString (hmin 0 (by decide)) hi.minParallelUnits.1 hi.minParallelUnits.2)
  have h5 : ∀ o', setItem o.text o' "reference" = .ok { o' with reference := true } :=
    fun o' => rfl
  unfold parse
  rw [items_text]
  -- the fold sets the four integers, then the flag if it is set; the defaults' flag is unset
  obtain ⟨a, k, p, m, r⟩ := o
  cases r <;>
    simp only [if_true, if_false, Bool.false_eq_true, List.cons_append, List.nil_append,
      List.append_nil, List.foldlM_cons, List.foldlM_nil, h1, h2, h3, h4, h5] <;> rfl

/-- Options read from any text keep every key's least value and read back from their own text,
and every failure of reading is a configuration failure. -/
theorem parse_round_trip (h : Host) (hh : h.WordSized) (c : String) :
    (∀ o, parse h c = .ok o →
      1 ≤ o.bubbleMaxAxis ∧ 0 ≤ o.bubbleMaxK ∧ -1 ≤ o.parallelism ∧ 0 ≤ o.minParallelUnits ∧
        parse h o.text = .ok o) ∧
    ∀ e, parse h c = .error e → e.kind = .configuration := by
  refine ⟨fun o hp => ?_, fun e hp => parse_error hp⟩
  have hi := parse_inRange hh hp
  exact ⟨hi.bubbleMaxAxis.1, hi.bubbleMaxK.1, hi.parallelism.1, hi.minParallelUnits.1,
    parse_text h hi⟩

/-- On a host with sixteen vector registers and eight cores, a text that sets the parallelism
and forces the reference. -/
theorem parse_round_trip_avx2 :
    Host.WordSized { platform := ⟨"avx2", 32, 16⟩, cores := 8 } ∧
    ((∀ o, parse { platform := ⟨"avx2", 32, 16⟩, cores := 8 } " parallelism = 4 ,reference" =
        .ok o →
      1 ≤ o.bubbleMaxAxis ∧ 0 ≤ o.bubbleMaxK ∧ -1 ≤ o.parallelism ∧ 0 ≤ o.minParallelUnits ∧
        parse { platform := ⟨"avx2", 32, 16⟩, cores := 8 } o.text = .ok o) ∧
    ∀ e, parse { platform := ⟨"avx2", 32, 16⟩, cores := 8 } " parallelism = 4 ,reference" =
        .error e → e.kind = .configuration) :=
  ⟨⟨by decide, by decide⟩, parse_round_trip _ ⟨by decide, by decide⟩ _⟩

example : parse { platform := ⟨"avx2", 32, 16⟩, cores := 8 } " parallelism = 4 ,reference" =
    .ok ⟨32, 6, 4, 16, true⟩ := by rfl

end Options

end Select

end TensorSelect
