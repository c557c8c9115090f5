import Mathlib
import TensorSelect.Proofs.Layout.Addressing
import TensorSelect.Proofs.Select.OptionText

/-!
# Reading the text of a tag back

`Tag.text` prints a tag as `planar`, `channel-last` or `blocked(b)`, and `Tag.parse` reads such a
text, with aliases, any case, surrounding blanks and several spellings of the block size. This
module proves how the two fit (`Tag.text_parses_back`):

* a tag read from any text is valid, and its text reads back as the same tag;
* the text of a valid tag reads back as the tag with its block size kept only when the tag is
  blocked: planar and channel-last tags ignore their block size, and print none;
* every failure of reading is an unsupported layout.

The printed text is already trimmed and in lower case (`Text.toLower_trimBlanks_of_plain`), so
reading it comes down to the lists of names and, for a blocked tag, to stripping the brackets and
reading the decimal block size (`Tag.parse_blocked_text`). A block size the program holds is a
64-bit integer, which is what lets its decimal text read back (`Text.readDecimal?_toString`).
-/

namespace TensorSelect

namespace Text

/-- Whether a character is its own lower case because it lies below the capitals, or between
them and the Latin-1 letters. -/
def isPlain (c : Char) : Bool := c.toNat < 0x41 || (0x5B ≤ c.toNat && c.toNat < 0xC0)

theorem lowerCode_below_capitals : ∀ n < 0x41, Unicode.lowerCode n = n := by decide +kernel

theorem lowerCode_between_capitals : ∀ n < 0xC0, 0x5B ≤ n → Unicode.lowerCode n = n := by
  decide +kernel

theorem toLowerChar_of_plain {c : Char} (h : isPlain c = true) : toLowerChar c = c := by
  simp only [isPlain, Bool.or_eq_true, Bool.and_eq_true, decide_eq_true_eq] at h
  have hcode : Unicode.lowerCode c.toNat = c.toNat := by
    rcases h with h | ⟨h1, h2⟩
    · exact lowerCode_below_capitals _ h
    · exact lowerCode_between_capitals _ h2 h1
  rw [toLowerChar, hcode, Char.ofNat_toNat]

/-- A text of plain characters without blanks is unchanged by trimming and lower-casing. -/
theorem toLower_trimBlanks_of_plain {s : String} (hb : ∀ c ∈ s.toList, isBlank c = false)
    (hp : ∀ c ∈ s.toList, isPlain c = true) : toLower (trimBlanks s) = s := by
  rw [trimBlanks_of_forall hb, toLower]
  conv_rhs => rw [← String.ofList_toList (s := s)]
  congr 1
  exact List.map_congr_left (fun c hc => toLowerChar_of_plain (hp c hc)) |>.trans (List.map_id _)

end Text

namespace Tag

open Text

/-! ## The printed texts -/

/-- The characters that bracket the block size, which reading strips. -/
def isBracket (c : Char) : Bool := c == '(' || c == ')' || c == ':'

theorem isBracket_of_isDigit {c : Char} (h : c.isDigit = true) : isBracket c = false := by
  simp only [Char.isDigit, Bool.and_eq_true, decide_eq_true_eq] at h
  have h1 : (48 : Nat) ≤ c.toNat := h.1
  have h2 : c.toNat ≤ 57 := h.2
  simp only [isBracket, Bool.or_eq_false_iff, beq_eq_false_iff_ne]
  refine ⟨⟨?_, ?_⟩, ?_⟩ <;> intro hc <;> subst hc <;> simp at h1 h2

/-- The decimal text of a positive block size is a nonempty run of digits. -/
theorem toString_digits {b : Int} (hb : 0 < b) :
    (toString b).toList ≠ [] ∧ ∀ c ∈ (toString b).toList, c.isDigit = true := by
  rw [Int.toString_eq_repr, Int.repr_eq_if, if_pos hb.le, Nat.toList_repr]
  exact ⟨Nat.toDigits_ne_nil, fun c hc => isDigit_of_mem_toDigits hc⟩

/-- Stripping brackets leaves a run of digits as it is. -/
theorem dropWhile_isBracket_digits {ds : List Char} (hne : ds ≠ [])
    (hd : ∀ c ∈ ds, c.isDigit = true) (rest : List Char) :
    (ds ++ rest).dropWhile isBracket = ds ++ rest := by
  obtain ⟨c, cs, rfl⟩ := List.exists_cons_of_ne_nil hne
  rw [List.cons_append, List.dropWhile_cons_of_neg]
  simp [isBracket_of_isDigit (hd c List.mem_cons_self)]

/-- The block size that reading finds between the brackets of `blocked(b)`. -/
theorem strip_blocked_text {ds : List Char} (hne : ds ≠ []) (hd : ∀ c ∈ ds, c.isDigit = true) :
    ((('(' :: ds ++ [')']).dropWhile isBracket).reverse.dropWhile isBracket).reverse = ds := by
  have hrev : ∀ c ∈ ds.reverse, c.isDigit = true := fun c hc => hd c (List.mem_reverse.1 hc)
  rw [List.cons_append, List.dropWhile_cons_of_pos (by rfl), dropWhile_isBracket_digits hne hd,
    List.reverse_append, List.reverse_singleton, List.singleton_append,
    List.dropWhile_cons_of_pos (by rfl), ← List.append_nil ds.reverse,
    dropWhile_isBracket_digits (List.reverse_ne_nil_iff.2 hne) hrev, List.append_nil,
    List.reverse_reverse]

/-- The text of a blocked tag. -/
theorem text_blockedBy (b : Int) : (blockedBy b).text = "blocked(" ++ toString b ++ ")" := rfl

theorem plain_blocked_text {b : Int} (hb : 0 < b) :
    ∀ c ∈ ("blocked(" ++ toString b ++ ")").toList, isBlank c = false ∧ isPlain c = true := by
  intro c hc
  simp only [String.toList_append, List.mem_append] at hc
  rcases hc with (hc | hc) | hc
  · simp only [show "blocked(".toList = ['b', 'l', 'o', 'c', 'k', 'e', 'd', '('] from rfl,
      List.mem_cons, List.not_mem_nil, or_false] at hc
    rcases hc with rfl | rfl | rfl | rfl | rfl | rfl | rfl | rfl <;> decide
  · have hdig := (toString_digits hb).2 c hc
    refine ⟨isBlank_of_isDigit hdig, ?_⟩
    simp only [Char.isDigit, Bool.and_eq_true, decide_eq_true_eq] at hdig
    have : c.toNat ≤ 57 := hdig.2
    simp only [isPlain, Bool.or_eq_true, decide_eq_true_eq]
    omega
  · simp only [show ")".toList = [')'] from rfl, List.mem_singleton] at hc
    subst hc
    decide

/-! ## Reading the printed texts -/

theorem parse_planar_text : parse "planar" = .ok planar := by
  have hl : "planar".toList = ['p', 'l', 'a', 'n', 'a', 'r'] := rfl
  have h : toLower (trimBlanks "planar") = "planar" :=
    toLower_trimBlanks_of_plain (by rw [hl]; simp [isBlank]) (by rw [hl]; simp [isPlain])
  simp only [parse, h]
  rfl

theorem parse_channelLast_text : parse "channel-last" = .ok channelLast := by
  have hl : "channel-last".toList = ['c', 'h', 'a', 'n', 'n', 'e', 'l', '-', 'l', 'a', 's', 't'] :=
    rfl
  have h : toLower (trimBlanks "channel-last") = "channel-last" :=
    toLower_trimBlanks_of_plain (by rw [hl]; simp [isBlank]) (by rw [hl]; simp [isPlain])
  simp only [parse, h]
  rfl

/-- A blocked text names none of the other layouts. -/
theorem blocked_text_not_mem {s : String} (hs : s.toList.head? = some 'b') (names : List String)
    (hn : ∀ n ∈ names, n.toList.head? ≠ some 'b') : s ∉ names := by
  intro hmem
  exact hn s hmem hs

/-- The text of a block size that is a 64-bit power of two reads back as that block size. -/
theorem parse_blocked_text {b : Int} (hb : ∃ n : Nat, b = 2 ^ n) (hmax : b ≤ int64Max) :
    parse ("blocked(" ++ toString b ++ ")") = .ok (blockedBy b) := by
  have hpos : 0 < b := by obtain ⟨n, rfl⟩ := hb; positivity
  obtain ⟨hne, hdig⟩ := toString_digits hpos
  have hplain := plain_blocked_text hpos
  have hnorm := toLower_trimBlanks_of_plain (fun c hc => (hplain c hc).1) (fun c hc => (hplain c hc).2)
  have hlist : ("blocked(" ++ toString b ++ ")").toList =
      ['b', 'l', 'o', 'c', 'k', 'e', 'd'] ++ ('(' :: (toString b).toList ++ [')']) := by
    simp [String.toList_append]
  have hhead : ("blocked(" ++ toString b ++ ")").toList.head? = some 'b' := by rw [hlist]; rfl
  have hstrip := strip_blocked_text hne hdig
  have hread : readDecimal? (toString b) = some b :=
    readDecimal?_toString (by simp only [int64Min]; omega) hmax
  have hvalid : (blockedBy b).validate = .ok () := by
    simp only [validate, blockedBy, (isPowerOfTwo_iff b).2 hb, if_true]
  simp only [parse, hnorm]
  rw [if_neg (blocked_text_not_mem hhead _ (by decide)),
    if_neg (blocked_text_not_mem hhead _ (by decide))]
  simp only [hlist, List.take_left' (show ['b', 'l', 'o', 'c', 'k', 'e', 'd'].length = 7 from rfl),
    List.drop_left' (show ['b', 'l', 'o', 'c', 'k', 'e', 'd'].length = 7 from rfl)]
  unfold isBracket at hstrip
  have hprefix : (['b', 'l', 'o', 'c', 'k', 'e', 'd'] == "blocked".toList) = true := rfl
  rw [if_pos hprefix, hstrip, String.ofList_toList, hread]
  simp only [hvalid]
  rfl

/-- The tag that the text of a tag stands for: its kind, and its block size when it is blocked. -/
def canonical (t : Tag) : Tag := { t with blockSize := if t.isBlocked then t.blockSize else 0 }

/-- The text of a valid tag whose block size is a 64-bit integer reads back as the tag it
stands for. -/
theorem parse_text_of_validate {t : Tag} (hv : t.validate = .ok ()) (hmax : t.blockSize ≤ int64Max) :
    parse t.text = .ok t.canonical := by
  rcases t with ⟨kind, b⟩
  cases kind with
  | planar => exact parse_planar_text
  | channelLast => exact parse_channelLast_text
  | blocked =>
    have hb : ∃ n : Nat, b = 2 ^ n := by simpa [validate_eq] using hv
    exact parse_blocked_text hb hmax
  | unnamed n => simp [validate] at hv

/-! ## What reading accepts -/

/-- Reading gives planar, channel-last, or a blocked tag whose block size is a 64-bit power of
two. -/
theorem parse_ok_cases {s : String} {t : Tag} (h : parse s = .ok t) :
    t = planar ∨ t = channelLast ∨
      ∃ b, (∃ n : Nat, b = 2 ^ n) ∧ b ≤ int64Max ∧ t = blockedBy b := by
  simp only [parse] at h
  split at h
  · exact .inl (Except.ok.inj h).symm
  split at h
  · exact .inr (.inl (Except.ok.inj h).symm)
  split at h
  · split at h
    · cases h
    · rename_i b hread
      cases hv : (blockedBy b).validate with
      | error e => simp [hv] at h; cases h
      | ok u =>
        simp only [hv] at h
        refine .inr (.inr ⟨b, ?_, (readDecimal?_mem hread).2, (Except.ok.inj h).symm⟩)
        simpa [validate_eq, blockedBy] using hv
  · cases h

/-- Every failure of reading is an unsupported layout: an unknown name, a block size that is no
integer, or one that is no power of two. -/
theorem parse_error_kind {s : String} {e : Layout.Error} (h : parse s = .error e) :
    e.kind = .unsupportedLayout := by
  simp only [parse] at h
  split at h
  · cases h
  split at h
  · cases h
  split at h
  · split at h
    · cases h
      rfl
    · rename_i b _
      cases hv : (blockedBy b).validate with
      | error e' =>
        simp only [hv] at h
        cases h
        simp only [validate, blockedBy] at hv
        by_cases hp : isPowerOfTwo b = true
        · simp [hp] at hv
        · simp only [hp, Bool.false_eq_true, if_false] at hv
          cases hv
          rfl
      | ok u => simp [hv] at h; cases h
  · cases h
    rfl

theorem canonical_of_parse {s : String} {t : Tag} (h : parse s = .ok t) :
    t.validate = .ok () ∧ t.blockSize ≤ int64Max ∧ t.canonical = t := by
  rcases parse_ok_cases h with rfl | rfl | ⟨b, hb, hmax, rfl⟩
  · exact ⟨rfl, by decide, rfl⟩
  · exact ⟨rfl, by decide, rfl⟩
  · refine ⟨?_, hmax, rfl⟩
    simp [validate, blockedBy, (isPowerOfTwo_iff b).2 hb]

/-- Reading and printing tags: a tag read from any text is valid and its text reads back as
itself; the text of any valid tag (a block size the program holds is a 64-bit integer) reads
back as the tag with the block size kept only for a blocked tag; every failure of reading is an
unsupported layout. -/
theorem text_parses_back (s : String) (t : Tag) :
    (parse s = .ok t → t.validate = .ok () ∧ parse t.text = .ok t) ∧
    (t.validate = .ok () → t.blockSize ≤ int64Max → parse t.text = .ok t.canonical) ∧
    (∀ e, parse s = .error e → e.kind = .unsupportedLayout) := by
  refine ⟨fun h => ?_, parse_text_of_validate, fun e h => parse_error_kind h⟩
  obtain ⟨hv, hmax, hcanon⟩ := canonical_of_parse h
  refine ⟨hv, ?_⟩
  rw [parse_text_of_validate hv hmax, hcanon]

/-- A text with a capital, another spelling of the block size and surrounding blanks reads as
the tag of blocks of sixteen, which prints and reads back as itself. -/
theorem text_parses_back_blocked :
    parse " Blocked:16 " = .ok (blockedBy 16) ∧
      (blockedBy 16).validate = .ok () ∧ parse (blockedBy 16).text = .ok (blockedBy 16) := by
  have hread : parse " Blocked:16 " = .ok (blockedBy 16) := by
    set_option maxRecDepth 4000 in rfl
  exact ⟨hread, (text_parses_back " Blocked:16 " (blockedBy 16)).1 hread⟩

/-- A planar tag that holds a block size is valid, and its text reads back as the planar tag
without one. -/
theorem text_forgets_unused_block_size :
    (⟨.planar, 5⟩ : Tag).validate = .ok () ∧
      parse (⟨.planar, 5⟩ : Tag).text ≠ .ok ⟨.planar, 5⟩ := by
  refine ⟨rfl, ?_⟩
  rw [show (⟨.planar, 5⟩ : Tag).text = "planar" from rfl, parse_planar_text]
  intro h
  cases h

end Tag

end TensorSelect
