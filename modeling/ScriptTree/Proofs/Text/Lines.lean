import Mathlib.Data.Nat.Count
import ScriptTree.Proofs.Search
import ScriptTree.Proofs.Text.Cut
import ScriptTree.Text.LineMap

/-!
# Places in a text

A line map is made by looking at single bytes, and a place is found in it by halving. Both come to
what a reader of the text would say. Line breaks are sequences of characters, of which a carriage
return with its line feed is one (`ScriptTree.Text.EndsLine`); the bytes say where they end
(`ScriptTree.Text.mem_lineStartsFrom_bytes`). So the line of an offset is the number of line breaks
that end at or before it, and its column counts the UTF-16 code units behind the last of them
(`ScriptTree.LineMap.position_append`). Offsets that come one after the other have places that do
(`ScriptTree.LineMap.places`).
-/

namespace ScriptTree

namespace Text

/-! ### Line breaks -/

/-- The sequences of characters that break a line. -/
def lineBreaks : List Text := [['\r', '\n'], ['\n'], ['\r'], ['\u2028'], ['\u2029']]

/-- **A line break ends at an offset.** A carriage return in front of a line feed is only the first
half of one. -/
def EndsLine (text : Text) (n : Nat) : Prop :=
  ∃ u t v, text = u ++ t ++ v ∧ t ∈ lineBreaks ∧ byteLength (u ++ t) = n ∧
    ¬ (t = ['\r'] ∧ v.head? = some '\n')

/-- A character is the last one of a line break, in front of what follows it. -/
def breaksBefore (c : Char) (cs : Text) : Bool :=
  c == '\n' || c == '\u2028' || c == '\u2029' || (c == '\r' && cs.head? != some '\n')

/-- A line break ends behind its last character. -/
theorem endsLine_iff {text : Text} {n : Nat} :
    text.EndsLine n ↔ ∃ u c v, text = u ++ c :: v ∧ breaksBefore c v = true ∧
      byteLength u + c.utf8Size = n := by
  constructor
  · rintro ⟨u, t, v, rfl, ht, rfl, hfirst⟩
    simp only [lineBreaks, List.mem_cons, List.not_mem_nil, or_false] at ht
    rcases ht with rfl | rfl | rfl | rfl | rfl
    · exact ⟨u ++ ['\r'], '\n', v, by simp, rfl, by simp [Nat.add_assoc]⟩
    · exact ⟨u, '\n', v, by simp, rfl, by simp⟩
    · refine ⟨u, '\r', v, by simp, ?_, by simp⟩
      simpa [breaksBefore] using hfirst
    · exact ⟨u, '\u2028', v, by simp, rfl, by simp⟩
    · exact ⟨u, '\u2029', v, by simp, rfl, by simp⟩
  · rintro ⟨u, c, v, rfl, hc, rfl⟩
    simp only [breaksBefore, Bool.or_eq_true, beq_iff_eq, Bool.and_eq_true, bne_iff_ne] at hc
    refine ⟨u, [c], v, by simp, ?_, by simp, ?_⟩
    · rcases hc with ((rfl | rfl) | rfl) | ⟨rfl, -⟩ <;> simp [lineBreaks]
    · rintro ⟨hcr, hlf⟩
      rcases hc with ((rfl | rfl) | rfl) | ⟨-, hne⟩
      · cases hcr
      · cases hcr
      · cases hcr
      · exact hne hlf

/-! ### Bytes -/

@[simp] theorem bytes_cons (c : Char) (cs : Text) :
    bytes (c :: cs) = String.utf8EncodeChar c ++ bytes cs := List.flatMap_cons

/-- A number below 256 and the byte that it is. -/
theorem ofNat_eq_iff {n : Nat} (hn : n < 0x100) (b : UInt8) : UInt8.ofNat n = b ↔ n = b.toNat := by
  rw [UInt8.ofNat_eq_iff_mod_eq_toNat, Nat.mod_eq_of_lt hn]

/-- What the first of some bytes does, by its number. -/
theorem lineStartsFrom_ofNat {n : Nat} (hn : n < 0x100) (offset : Nat) (bs : List UInt8) :
    lineStartsFrom offset (UInt8.ofNat n :: bs) =
      if n = 0x0A then (offset + 1) :: lineStartsFrom (offset + 1) bs
      else if n = 0x0D then
        if bs.head? = some 0x0A then lineStartsFrom (offset + 1) bs
        else (offset + 1) :: lineStartsFrom (offset + 1) bs
      else if n = 0xE2 ∧ bs[0]? = some 0x80 ∧ (bs[1]? = some 0xA8 ∨ bs[1]? = some 0xA9) then
        (offset + 3) :: lineStartsFrom (offset + 1) bs
      else lineStartsFrom (offset + 1) bs := by
  rw [lineStartsFrom]
  simp only [ofNat_eq_iff hn]
  rfl

/-- A byte of a longer character, which is not the first one of a separator, breaks no line. -/
theorem lineStartsFrom_of_le {n : Nat} (hn : 0x80 ≤ n) (hlt : n < 0x100) (hne : n ≠ 0xE2)
    (offset : Nat) (bs : List UInt8) :
    lineStartsFrom offset (UInt8.ofNat n :: bs) = lineStartsFrom (offset + 1) bs := by
  rw [lineStartsFrom_ofNat hlt, if_neg (by omega), if_neg (by omega), if_neg fun h => hne h.1]

/-- The bytes of a character, by how many there are. -/
theorem utf8EncodeChar_cases (c : Char) :
    (c.toNat < 0x80 ∧ String.utf8EncodeChar c = [UInt8.ofNat c.toNat]) ∨
    (0x80 ≤ c.toNat ∧ c.toNat < 0x800 ∧ String.utf8EncodeChar c =
      [UInt8.ofNat (c.toNat / 64 % 32 + 192), UInt8.ofNat (c.toNat % 64 + 128)]) ∨
    (0x800 ≤ c.toNat ∧ c.toNat < 0x10000 ∧ String.utf8EncodeChar c =
      [UInt8.ofNat (c.toNat / 4096 % 16 + 224), UInt8.ofNat (c.toNat / 64 % 64 + 128),
        UInt8.ofNat (c.toNat % 64 + 128)]) ∨
    (0x10000 ≤ c.toNat ∧ String.utf8EncodeChar c =
      [UInt8.ofNat (c.toNat / 262144 % 8 + 240), UInt8.ofNat (c.toNat / 4096 % 64 + 128),
        UInt8.ofNat (c.toNat / 64 % 64 + 128), UInt8.ofNat (c.toNat % 64 + 128)]) := by
  have hval : c.toNat = c.val.toNat := rfl
  simp only [String.utf8EncodeChar, hval]
  split
  · exact .inl ⟨by omega, rfl⟩
  · split
    · exact .inr (.inl ⟨by omega, by omega, rfl⟩)
    · split
      · exact .inr (.inr (.inl ⟨by omega, by omega, rfl⟩))
      · exact .inr (.inr (.inr ⟨by omega, rfl⟩))

/-- A character breaks a line, by its number. -/
theorem breaksBefore_iff {c : Char} {cs : Text} : breaksBefore c cs = true ↔
    c.toNat = 0x0A ∨ c.toNat = 0x2028 ∨ c.toNat = 0x2029 ∨
      c.toNat = 0x0D ∧ cs.head? ≠ some '\n' := by
  have hchar (d : Char) : c = d ↔ c.toNat = d.toNat :=
    ⟨congrArg _, fun h => Char.ext (UInt32.toNat_inj.mp h)⟩
  simp only [breaksBefore, Bool.or_eq_true, Bool.and_eq_true, beq_iff_eq, bne_iff_ne, hchar]
  simp [or_assoc]

/-- Only a line feed starts with the byte of a line feed. -/
theorem head?_bytes_eq_some_iff {cs : Text} :
    (bytes cs).head? = some 0x0A ↔ cs.head? = some '\n' := by
  cases cs with
  | nil => simp [bytes]
  | cons c cs =>
    have hchar : c = '\n' ↔ c.toNat = 0x0A := ⟨congrArg _, fun h => Char.ext (UInt32.toNat_inj.mp h)⟩
    rw [bytes_cons, List.head?_cons, Option.some.injEq, hchar]
    obtain ⟨hlt, hbytes⟩ | ⟨hle, hlt, hbytes⟩ | ⟨hle, hlt, hbytes⟩ | ⟨hle, hbytes⟩ :=
      utf8EncodeChar_cases c <;>
        rw [hbytes, List.cons_append, List.head?_cons, Option.some.injEq, ofNat_eq_iff (by omega)] <;>
          change _ = 0x0A ↔ _ <;> omega

/-- **The bytes of a character start a line if the character breaks one.** -/
theorem lineStartsFrom_bytes_cons (offset : Nat) (c : Char) (cs : Text) :
    lineStartsFrom offset (bytes (c :: cs)) =
      if breaksBefore c cs = true then
        (offset + c.utf8Size) :: lineStartsFrom (offset + c.utf8Size) (bytes cs)
      else lineStartsFrom (offset + c.utf8Size) (bytes cs) := by
  rw [bytes_cons, ← String.length_utf8EncodeChar]
  simp only [breaksBefore_iff, ne_eq, ← head?_bytes_eq_some_iff]
  -- The breaks of ASCII are single bytes, and only characters of three bytes may be separators.
  obtain ⟨hlt, hbytes⟩ | ⟨hle, hlt, hbytes⟩ | ⟨hle, hlt, hbytes⟩ | ⟨hle, hbytes⟩ :=
    utf8EncodeChar_cases c <;> rw [hbytes]
  · rw [List.cons_append, List.nil_append, List.length_singleton, lineStartsFrom_ofNat (by omega)]
    split
    · next hlf => rw [if_pos (.inl hlf)]
    · next hlf =>
      have hsep : ¬ (c.toNat = 0xE2 ∧ (bytes cs)[0]? = some 0x80 ∧
        ((bytes cs)[1]? = some 0xA8 ∨ (bytes cs)[1]? = some 0xA9)) := fun h => by omega
      rw [if_neg hsep]
      split
      · next hcr =>
        split
        · next hhead => rw [if_neg (by simp [hcr, hhead])]
        · next hhead => rw [if_pos (.inr (.inr (.inr ⟨hcr, hhead⟩)))]
      · rw [if_neg (by omega)]
  · rw [if_neg (by omega)]
    change lineStartsFrom offset (_ :: _ :: bytes cs) = _
    rw [lineStartsFrom_of_le (by omega) (by omega) (by omega),
      lineStartsFrom_of_le (by omega) (by omega) (by omega)]
    rfl
  · change lineStartsFrom offset (_ :: _ :: _ :: bytes cs) = _
    have hsecond : UInt8.ofNat (c.toNat / 64 % 64 + 128) = 0x80 ↔ c.toNat / 64 % 64 = 0 := by
      rw [ofNat_eq_iff (by omega)]
      change _ = 0x80 ↔ _
      omega
    have hthird (b : UInt8) :
        UInt8.ofNat (c.toNat % 64 + 128) = b ↔ c.toNat % 64 + 128 = b.toNat :=
      ofNat_eq_iff (by omega) b
    rw [lineStartsFrom_ofNat (by omega), if_neg (by omega), if_neg (by omega),
      lineStartsFrom_of_le (n := c.toNat / 64 % 64 + 128) (by omega) (by omega) (by omega),
      lineStartsFrom_of_le (by omega) (by omega) (by omega)]
    refine if_congr ?_ rfl rfl
    simp only [List.getElem?_cons_zero, List.getElem?_cons_succ, Option.some.injEq, hsecond, hthird]
    change _ ∧ _ ∧ (_ = 0xA8 ∨ _ = 0xA9) ↔ _
    omega
  · rw [if_neg (by omega)]
    change lineStartsFrom offset (_ :: _ :: _ :: _ :: bytes cs) = _
    rw [lineStartsFrom_of_le (by omega) (by omega) (by omega),
      lineStartsFrom_of_le (by omega) (by omega) (by omega),
      lineStartsFrom_of_le (by omega) (by omega) (by omega),
      lineStartsFrom_of_le (by omega) (by omega) (by omega)]
    rfl

/-- **Lines start where line breaks end.** -/
theorem mem_lineStartsFrom_bytes {offset n : Nat} {text : Text} :
    n ∈ lineStartsFrom offset (bytes text) ↔ ∃ u c v, text = u ++ c :: v ∧
      breaksBefore c v = true ∧ offset + (byteLength u + c.utf8Size) = n := by
  induction text generalizing offset with
  | nil => simp [bytes, lineStartsFrom]
  | cons d cs ih =>
    have hrest : n ∈ lineStartsFrom (offset + d.utf8Size) (bytes cs) ↔ ∃ u c v,
        d :: cs = d :: u ++ c :: v ∧ breaksBefore c v = true ∧
          offset + (byteLength (d :: u) + c.utf8Size) = n := by
      rw [ih]
      simp only [List.cons_append, List.cons.injEq, true_and, byteLength_cons, Nat.add_assoc]
    -- A line break is at the first character, or it is one of the rest.
    have hsplit : (∃ u c v, d :: cs = u ++ c :: v ∧ breaksBefore c v = true ∧
        offset + (byteLength u + c.utf8Size) = n) ↔
          (breaksBefore d cs = true ∧ offset + d.utf8Size = n) ∨
            n ∈ lineStartsFrom (offset + d.utf8Size) (bytes cs) := by
      rw [hrest]
      constructor
      · rintro ⟨_ | ⟨e, u⟩, c, v, htext, hc, hn⟩
        · cases htext
          exact .inl ⟨hc, by simpa using hn⟩
        · obtain ⟨rfl, -⟩ := List.cons.inj htext
          exact .inr ⟨u, c, v, htext, hc, hn⟩
      · rintro (⟨hc, hn⟩ | ⟨u, c, v, htext, hc, hn⟩)
        · exact ⟨[], d, cs, rfl, hc, by simpa using hn⟩
        · exact ⟨d :: u, c, v, htext, hc, hn⟩
    rw [hsplit, lineStartsFrom_bytes_cons]
    split
    · next hc => simp [hc, eq_comm]
    · next hc => simp [hc]

theorem mem_lineStarts {n : Nat} {text : Text} :
    n ∈ lineStartsFrom 0 (bytes text) ↔ text.EndsLine n := by
  rw [mem_lineStartsFrom_bytes, endsLine_iff]
  simp only [Nat.zero_add]

instance (text : Text) : DecidablePred text.EndsLine :=
  fun _ => decidable_of_iff _ mem_lineStarts

/-- Lines start in the order of the text, behind what is before them. -/
theorem pairwise_lineStarts (offset : Nat) (text : Text) :
    (offset :: lineStartsFrom offset (bytes text)).Pairwise (· < ·) := by
  induction text generalizing offset with
  | nil => simp [bytes, lineStartsFrom]
  | cons c cs ih =>
    have hpos := c.utf8Size_pos
    obtain ⟨hbehind, hrest⟩ := List.pairwise_cons.mp (ih (offset + c.utf8Size))
    rw [lineStartsFrom_bytes_cons]
    split
    · refine List.pairwise_cons.mpr ⟨fun n hn => ?_, List.pairwise_cons.mpr ⟨hbehind, hrest⟩⟩
      rcases List.mem_cons.mp hn with rfl | hn
      · omega
      · exact Nat.lt_of_le_of_lt (Nat.le_add_right _ _) (hbehind n hn)
    · exact List.pairwise_cons.mpr
        ⟨fun n hn => Nat.lt_of_le_of_lt (Nat.le_add_right _ _) (hbehind n hn), hrest⟩

/-- Of two first parts of a text, the one that is not longer is a first part of the other. -/
theorem isPrefix_of_byteLength_le {u v cs : Text} (hu : u <+: cs) (hv : v <+: cs)
    (h : byteLength u ≤ byteLength v) : u <+: v := by
  rcases List.prefix_or_prefix_of_prefix hu hv with huv | ⟨w, rfl⟩
  · exact huv
  · have hw : w = [] := by
      rw [byteLength_append] at h
      exact byteLength_eq_zero.mp (by omega)
    rw [hw, List.append_nil]

/-! ### Columns -/

/-- A character that takes one byte takes one code unit. -/
theorem utf8Size_eq_unitsOf {c : Char} (h : c.toNat < 0x80) : c.utf8Size = unitsOf c := by
  have hsize : c.utf8Size = 1 := Char.utf8Size_eq_one_iff.mpr
    (UInt32.le_iff_toNat_le.mpr (Nat.le_of_lt_succ h))
  rw [hsize, unitsOf, if_pos (by omega)]

/-- **Columns are UTF-16 code units**, however they are counted. -/
theorem columns_eq_unitLength (text : Text) : text.columns = text.unitLength := by
  rw [columns]
  split
  · next hascii =>
    induction text with
    | nil => rfl
    | cons c cs ih =>
      rw [isAscii, List.all_cons, Bool.and_eq_true, decide_eq_true_eq] at hascii
      rw [byteLength_cons, unitLength, ih hascii.2, utf8Size_eq_unitsOf hascii.1]
  · rfl

theorem unitLength_append (s t : Text) :
    unitLength (s ++ t) = unitLength s + unitLength t := by
  induction s with
  | nil => simp [unitLength]
  | cons c cs ih => rw [List.cons_append, unitLength, unitLength, ih, Nat.add_assoc]

theorem unitLength_pos {text : Text} (h : text ≠ []) : 0 < text.unitLength := by
  cases text with
  | nil => exact absurd rfl h
  | cons c cs =>
    rw [unitLength, unitsOf]
    split <;> omega

end Text

namespace LineMap

open Text (EndsLine)

/-! ### Lines -/

/-- The lines that start at or before an offset are counted by the line breaks that end there. -/
theorem length_eq_count {text : Text} {n : Nat} {xs ys : List Nat}
    (h : Text.lineStartsFrom 0 text.bytes = xs ++ ys) (hxs : ∀ x ∈ xs, x ≤ n)
    (hys : ∀ y ∈ ys, n < y) : xs.length = Nat.count text.EndsLine (n + 1) := by
  have hpairwise := (List.pairwise_cons.mp (Text.pairwise_lineStarts 0 text)).2
  rw [h, List.pairwise_append] at hpairwise
  have hnodup : xs.Nodup := hpairwise.1.imp Nat.ne_of_lt
  rw [Nat.count_eq_card_filter_range, ← List.toFinset_card_of_nodup hnodup]
  congr 1
  ext x
  rw [List.mem_toFinset, Finset.mem_filter, Finset.mem_range, ← Text.mem_lineStarts, h,
    List.mem_append]
  constructor
  · exact fun hx => ⟨Nat.lt_succ_of_le (hxs x hx), .inl hx⟩
  · rintro ⟨hle, hx | hx⟩
    · exact hx
    · exact absurd (hys x hx) (by omega)

/-- The starts of the lines, divided by an offset. -/
theorem exists_starts (text : Text) (n : Nat) : ∃ xs ys,
    Text.lineStartsFrom 0 text.bytes = xs ++ ys ∧ (∀ x ∈ xs, x ≤ n) ∧ ∀ y ∈ ys, n < y := by
  have hpairwise := (List.pairwise_cons.mp (Text.pairwise_lineStarts 0 text)).2
  generalize Text.lineStartsFrom 0 text.bytes = starts at hpairwise
  induction starts with
  | nil => exact ⟨[], [], rfl, nofun, nofun⟩
  | cons x starts ih =>
    obtain ⟨hx, hrest⟩ := List.pairwise_cons.mp hpairwise
    by_cases hle : x ≤ n
    · obtain ⟨xs, ys, rfl, hxs, hys⟩ := ih hrest
      exact ⟨x :: xs, ys, rfl, List.forall_mem_cons.mpr ⟨hle, hxs⟩, hys⟩
    · refine ⟨[], x :: starts, rfl, fun y hy => absurd hy List.not_mem_nil,
        List.forall_mem_cons.mpr ⟨by omega, fun y hy => ?_⟩⟩
      have hlt := hx y hy
      omega

/-- **The line of an offset, and where it starts.** -/
theorem exists_lineOf (text : Text) (n : Nat) :
    (ofText text).lineOf n = Nat.count text.EndsLine (n + 1) ∧
    ∃ start, (ofText text).starts[(ofText text).lineOf n]? = some start ∧ start ≤ n ∧
      (start = 0 ∨ text.EndsLine start) ∧ ∀ k, start < k → k ≤ n → ¬ text.EndsLine k := by
  obtain ⟨xs, ys, hstarts, hxs, hys⟩ := exists_starts text n
  have hpairwise := Text.pairwise_lineStarts 0 text
  -- The search counts the starts up to the offset, and that of the first line.
  have hpoint : Search.partitionPoint ((0 :: xs) ++ ys).toArray (fun x => decide (x ≤ n)) =
      (0 :: xs).length := by
    refine Search.partitionPoint_append (fun x hx => ?_) fun y hy => ?_
    · rcases List.mem_cons.mp hx with rfl | hx
      · exact decide_eq_true (Nat.zero_le n)
      · exact decide_eq_true (hxs x hx)
    · exact decide_eq_false (Nat.not_le_of_lt (hys y hy))
  have hline : (ofText text).lineOf n = xs.length := by
    rw [lineOf, ofText, Text.lineStarts, hstarts, ← List.cons_append, hpoint, List.length_cons,
      Nat.add_sub_cancel]
  refine ⟨by rw [hline, length_eq_count hstarts hxs hys], ?_⟩
  rw [hline, ofText, Text.lineStarts, hstarts, ← List.cons_append, List.getElem?_toArray,
    List.getElem?_append_left (by simp)]
  rw [hstarts, ← List.cons_append, List.pairwise_append] at hpairwise
  have hmem {k : Nat} : text.EndsLine k ↔ k ∈ xs ∨ k ∈ ys := by
    rw [← Text.mem_lineStarts, hstarts, List.mem_append]
  -- The line starts at the last of these starts, or with the text if there are none.
  rcases List.eq_nil_or_concat xs with rfl | ⟨init, last, rfl⟩
  · refine ⟨0, rfl, Nat.zero_le n, .inl rfl, fun k _ hk hends => ?_⟩
    rcases hmem.mp hends with hk' | hk'
    · exact absurd hk' List.not_mem_nil
    · exact absurd (hys k hk') (Nat.not_lt_of_le hk)
  · have hlast : last ∈ init.concat last := by simp
    refine ⟨last, by simp, hxs last hlast, .inr (hmem.mpr (.inl hlast)), fun k hlt hk hends => ?_⟩
    rcases hmem.mp hends with hk' | hk'
    · rw [List.concat_eq_append, ← List.cons_append, List.pairwise_append] at hpairwise
      rw [List.concat_eq_append, List.mem_append, List.mem_singleton] at hk'
      rcases hk' with hk' | rfl
      · have := hpairwise.1.2.2 k (List.mem_cons_of_mem 0 hk') last (List.mem_singleton.mpr rfl)
        omega
      · omega
    · exact absurd (hys k hk') (Nat.not_lt_of_le hk)

/-! ### Places -/

/-- The first part of a text that is behind the last line break in front of an offset. -/
theorem exists_lines {text before after : Text} (htext : text = before ++ after) {start : Nat}
    (hle : start ≤ before.byteLength) (hstart : start = 0 ∨ text.EndsLine start) :
    ∃ lines rest, before = lines ++ rest ∧ lines.byteLength = start ∧
      (lines = [] ∨ text.EndsLine lines.byteLength) := by
  rcases hstart with rfl | hends
  · exact ⟨[], before, rfl, rfl, .inl rfl⟩
  · obtain ⟨u, t, v, huv, -, hlength, -⟩ := id hends
    have hprefix : u ++ t <+: before :=
      Text.isPrefix_of_byteLength_le ⟨v, huv.symm⟩ ⟨after, htext.symm⟩ (hlength ▸ hle)
    obtain ⟨rest, rfl⟩ := hprefix
    exact ⟨u ++ t, rest, rfl, hlength, .inr (hlength ▸ hends)⟩

/-- **The place of an offset**: the line breaks that end at or before it are counted, and then the
code units behind the last of them. -/
theorem position_append {text before after : Text} (htext : text = before ++ after) :
    ∃ lines rest, before = lines ++ rest ∧ (lines = [] ∨ text.EndsLine lines.byteLength) ∧
      (∀ k, lines.byteLength < k → k ≤ before.byteLength → ¬ text.EndsLine k) ∧
      (ofText text).position before.byteLength =
        ⟨Nat.count text.EndsLine (before.byteLength + 1), rest.unitLength⟩ := by
  obtain ⟨hline, start, hstart, hle, hends, hlast⟩ := exists_lineOf text before.byteLength
  obtain ⟨lines, rest, rfl, rfl, hlines⟩ := exists_lines htext hle hends
  refine ⟨lines, rest, rfl, hlines, hlast, ?_⟩
  have hstop : min (lines ++ rest).byteLength (ofText text).size = (lines ++ rest).byteLength := by
    rw [ofText_size, htext, Text.byteLength_append (lines ++ rest)]
    exact Nat.min_eq_left (Nat.le_add_right _ _)
  have hslice : text.slice? lines.byteLength (lines ++ rest).byteLength = some rest := by
    rw [htext, Text.byteLength_append, Text.slice?_append]
  rw [position, hstart, Option.getD_some, hstop, Nat.min_eq_left hle, ofText_text, hslice,
    Option.map_some, Option.getD_some, Text.columns_eq_unitLength, hline]

/-- No line break ends between two offsets on the same line. -/
theorem not_endsLine_of_count_eq {text : Text} {m n : Nat}
    (hcount : Nat.count text.EndsLine (m + 1) = Nat.count text.EndsLine (n + 1)) {k : Nat}
    (hmk : m < k) (hkn : k ≤ n) : ¬ text.EndsLine k := by
  intro hends
  have hlow : Nat.count text.EndsLine (m + 1) ≤ Nat.count text.EndsLine k :=
    Nat.count_monotone _ hmk
  have hhigh : Nat.count text.EndsLine (k + 1) ≤ Nat.count text.EndsLine (n + 1) :=
    Nat.count_monotone _ (Nat.succ_le_succ hkn)
  rw [Nat.count_succ, if_pos hends] at hhigh
  omega

/-- The same line break is the last one for both. -/
theorem eq_of_count_eq {text : Text} {i j m n : Nat} (hmn : m ≤ n)
    (hcount : Nat.count text.EndsLine (m + 1) = Nat.count text.EndsLine (n + 1))
    (hi : i = 0 ∨ text.EndsLine i) (him : i ≤ m) (hlast : ∀ k, i < k → k ≤ m → ¬ text.EndsLine k)
    (hj : j = 0 ∨ text.EndsLine j) (hjn : j ≤ n) (hlast' : ∀ k, j < k → k ≤ n → ¬ text.EndsLine k) :
    j = i := by
  rcases Nat.lt_trichotomy j i with hlt | heq | hlt
  · rcases hi with rfl | hends
    · exact absurd hlt (Nat.not_lt_zero _)
    · exact absurd hends (hlast' i hlt (him.trans hmn))
  · exact heq
  · rcases hj with rfl | hends
    · exact absurd hlt (Nat.not_lt_zero _)
    · rcases Nat.lt_or_ge m j with hmj | hjm
      · exact absurd hends (not_endsLine_of_count_eq hcount hmj hjn)
      · exact absurd hends (hlast j hlt hjm)

/-- **Places come in the order of the offsets.** -/
theorem lineColumn_lt {text : Text} {m n : Nat} (hm : text.isBoundary m = true)
    (hn : text.isBoundary n = true) (hlt : m < n) :
    let p := (ofText text).lineColumn m
    let q := (ofText text).lineColumn n
    p.line < q.line ∨ p.line = q.line ∧ p.column < q.column := by
  obtain ⟨after, hafter⟩ := Text.isBoundary_iff.mp hm
  obtain ⟨before, htext, rfl⟩ := Text.exists_append_of_dropBytes? hafter
  obtain ⟨after', hafter'⟩ := Text.isBoundary_iff.mp hn
  obtain ⟨before', htext', rfl⟩ := Text.exists_append_of_dropBytes? hafter'
  obtain ⟨lines, rest, rfl, hlines, hlast, hposition⟩ := position_append htext
  obtain ⟨lines', rest', rfl, hlines', hlast', hposition'⟩ := position_append htext'
  simp only [lineColumn, hposition, hposition', Nat.add_lt_add_iff_right, Nat.add_right_cancel_iff]
  have hmono : Nat.count text.EndsLine ((lines ++ rest).byteLength + 1) ≤
      Nat.count text.EndsLine ((lines' ++ rest').byteLength + 1) :=
    Nat.count_monotone _ (Nat.succ_le_succ hlt.le)
  -- Otherwise both are in the same line, and the second is behind a longer part of it.
  refine (Nat.lt_or_eq_of_le hmono).imp_right fun hcount => ⟨hcount, ?_⟩
  have hle (u v : Text) : u.byteLength ≤ (u ++ v).byteLength := by
    rw [Text.byteLength_append]
    exact Nat.le_add_right _ _
  have hempty (u : Text) (hu : u = []) : u.byteLength = 0 := hu ▸ rfl
  have hsame : lines'.byteLength = lines.byteLength :=
    eq_of_count_eq hlt.le hcount (hlines.imp_left (hempty lines)) (hle lines rest) hlast
      (hlines'.imp_left (hempty lines')) (hle lines' rest') hlast'
  have hfirst : lines <+: text := ⟨rest ++ after, by rw [htext, List.append_assoc]⟩
  have hfirst' : lines' <+: text := ⟨rest' ++ after', by rw [htext', List.append_assoc]⟩
  obtain rfl : lines' = lines := Text.eq_of_isPrefix hfirst' hfirst hsame
  rw [List.append_assoc] at htext htext'
  have hbehind : rest' ++ after' = rest ++ after :=
    List.append_cancel_left (htext'.symm.trans htext)
  have hshorter : rest.byteLength ≤ rest'.byteLength := by
    rw [Text.byteLength_append, Text.byteLength_append] at hlt
    omega
  obtain ⟨more, rfl⟩ : rest <+: rest' :=
    Text.isPrefix_of_byteLength_le ⟨after, rfl⟩ ⟨after', hbehind⟩ hshorter
  have hmore : more ≠ [] := by
    rintro rfl
    rw [List.append_nil] at hlt
    exact absurd hlt (Nat.lt_irrefl _)
  rw [Text.unitLength_append]
  exact Nat.lt_add_of_pos_right (Text.unitLength_pos hmore)

/-- **Every place is the one that a reader would give.** The line of an offset between characters
is the number of line breaks that end at or before it, and its column is the number of UTF-16 code
units behind the last of them. Places come in the order of their offsets, so no two offsets have the
same place. -/
theorem places (text : Text) :
    (∀ n, text.isBoundary n = true → ∃ lines rest after, text = lines ++ rest ++ after ∧
      (lines ++ rest).byteLength = n ∧ (lines = [] ∨ text.EndsLine lines.byteLength) ∧
      (∀ k, lines.byteLength < k → k ≤ n → ¬ text.EndsLine k) ∧
      (ofText text).position n = ⟨Nat.count text.EndsLine (n + 1), rest.unitLength⟩) ∧
    (∀ m n, text.isBoundary m = true → text.isBoundary n = true → m < n →
      ((ofText text).lineColumn m).line < ((ofText text).lineColumn n).line ∨
      ((ofText text).lineColumn m).line = ((ofText text).lineColumn n).line ∧
        ((ofText text).lineColumn m).column < ((ofText text).lineColumn n).column) ∧
    ∀ m n, text.isBoundary m = true → text.isBoundary n = true →
      (ofText text).lineColumn m = (ofText text).lineColumn n → m = n := by
  refine ⟨fun n hn => ?_, fun m n hm hn hlt => lineColumn_lt hm hn hlt, fun m n hm hn heq => ?_⟩
  · obtain ⟨after, hafter⟩ := Text.isBoundary_iff.mp hn
    obtain ⟨before, htext, rfl⟩ := Text.exists_append_of_dropBytes? hafter
    obtain ⟨lines, rest, rfl, hlines, hlast, hposition⟩ := position_append htext
    exact ⟨lines, rest, after, htext, rfl, hlines, hlast, hposition⟩
  · rcases Nat.lt_trichotomy m n with hlt | hmn | hlt
    · have := lineColumn_lt hm hn hlt
      rw [heq] at this
      omega
    · exact hmn
    · have := lineColumn_lt hn hm hlt
      rw [heq] at this
      omega

/-- Two line breaks, one of two characters and one of three bytes, end before the last character of a
text, which takes two columns. -/
theorem places_of_mixed :
    let text : Text := ['a', '\r', '\n', 'é', '\u2028', '😀']
    (∃ lines rest after, text = lines ++ rest ++ after ∧ (lines ++ rest).byteLength = 12 ∧
      (lines = [] ∨ text.EndsLine lines.byteLength) ∧
      (∀ k, lines.byteLength < k → k ≤ 12 → ¬ text.EndsLine k) ∧
      (ofText text).position 12 = ⟨Nat.count text.EndsLine 13, rest.unitLength⟩) ∧
    (ofText text).position 12 = ⟨2, 2⟩ ∧
    (((ofText text).lineColumn 2).line < ((ofText text).lineColumn 3).line ∨
      ((ofText text).lineColumn 2).line = ((ofText text).lineColumn 3).line ∧
        ((ofText text).lineColumn 2).column < ((ofText text).lineColumn 3).column) :=
  ⟨(places _).1 12 (by decide +kernel), by decide +kernel,
    (places _).2.1 2 3 (by decide +kernel) (by decide) (by decide)⟩

end LineMap

end ScriptTree
