import SlashLine.Proofs.Output.Blocks

/-!
# Texts that go on

If one text goes on where another ends, the first of the longest common blocks lies at the same
place of both: an earlier place in the longer text would lie in their common part, and so be an
earlier place of the shorter one. Extended it is the whole of the shorter text. This hangs neither
on the characters that a block may start from nor on the order of the two texts.

* `settled_of_isPrefix`: the search finds the block at one place of both texts.
* `matchedSize_of_isPrefix`: the blocks cover the shorter text and nothing else.
* `isNearDuplicate_of_extension`: which extensions are near duplicates.
-/

namespace SlashLine.Output

variable {p q : Char → Bool} {a b : List Char} {block : Block}

/-! ## The first block -/

theorem getElem?_of_isPrefix (h : a <+: b) {i : Nat} (hi : i < a.length) : b[i]? = a[i]? := by
  rw [List.prefix_iff_getElem?.mp h i hi, List.getElem?_eq_getElem hi]

/-- Where one text begins with the other, a common block is common at its first place in both. -/
theorem IsCommon.at_first (h : a <+: b) (hcommon : IsCommon p a b block) :
    IsCommon p a b ⟨block.first, block.first, block.size⟩ := by
  intro t ht
  obtain ⟨c, ha, -, hp⟩ := hcommon t ht
  have hplace : block.first + t < a.length := (List.getElem?_eq_some_iff.mp ha).1
  exact ⟨c, ha, (getElem?_of_isPrefix h hplace).trans ha, hp⟩

theorem IsCommon.at_second (h : a <+: b) (hcommon : IsCommon p a b block)
    (hplace : block.second + block.size ≤ a.length) :
    IsCommon p a b ⟨block.second, block.second, block.size⟩ := by
  intro t (ht : t < block.size)
  obtain ⟨c, -, hb, hp⟩ := hcommon t ht
  have hlt : block.second + t < a.length := by omega
  exact ⟨c, (getElem?_of_isPrefix h hlt).symm.trans hb, hb, hp⟩

/-- The leading block lies at one place in both texts, and it is settled. -/
theorem settled_of_isPrefix (h : a <+: b) (hleads : Leads (IsCommon p a b) block) :
    Settled p a b block ∧ block.second = block.first := by
  have hbounds := hleads.bounds.1
  obtain ⟨hcommon, hfirst⟩ := hleads
  -- What a block takes from the longer text before this place is in the shorter one as well, so
  -- there would be a block of the same length further on the left.
  have hearliest : ∀ other, IsCommon p a b other → other.size = block.size →
      block.first ≤ other.second := by
    intro other hother hsize
    refine Nat.le_of_not_lt fun hlt => ?_
    have haligned := hfirst _ (hother.at_second h (by omega))
    exact Nat.not_lt.mpr (haligned.first_le hsize) hlt
  have hsame : block.second = block.first := by
    have hle : block.second ≤ block.first :=
      (hfirst _ (hcommon.at_first h)).second_le rfl rfl
    exact Nat.le_antisymm hle (hearliest block hcommon rfl)
  refine ⟨⟨hcommon, fun other hother => ?_⟩, hsame⟩
  have hplace := hfirst other hother
  rcases Nat.lt_or_eq_of_le hplace.size_le with hshorter | hsize
  · exact Or.inl hshorter
  · exact Or.inr ⟨hsize, hplace.first_le hsize, hsame ▸ hearliest other hother hsize⟩

theorem commonStart_append (p : Char → Bool) (a rest : List Char) :
    commonStart a (marked p (a ++ rest)) = a.length := by
  induction a with
  | nil => cases rest <;> rfl
  | cons c a ih =>
    rw [List.cons_append, marked_cons, commonStart, if_pos (beq_self_eq_true c), ih,
      List.length_cons]

theorem commonStart_self (p : Char → Bool) (a : List Char) :
    commonStart a (marked p a) = a.length := by
  have happend := commonStart_append p a []
  rwa [List.append_nil] at happend

/-- It extends to the whole of the shorter text. -/
theorem extendBlock_of_isPrefix (h : a <+: b) (hsame : block.second = block.first)
    (hbounds : block.first + block.size ≤ a.length) :
    extendBlock a (marked p b) block = ⟨0, 0, a.length⟩ := by
  obtain ⟨first, second, size⟩ := block
  obtain ⟨rest, rfl⟩ := h
  obtain rfl : second = first := hsame
  dsimp only at hbounds
  have hback : ((marked p (a ++ rest)).take second).reverse = marked p (a.take second).reverse := by
    rw [take_marked, reverse_marked, List.take_append_of_le_length (by omega)]
  have hahead : (marked p (a ++ rest)).drop (second + size) =
      marked p (a.drop (second + size) ++ rest) := by
    rw [drop_marked, List.drop_append_of_le_length hbounds]
  simp only [extendBlock]
  rw [hback, hahead, commonStart_self, commonStart_append, List.length_reverse, List.length_take,
    List.length_drop]
  congr 1 <;> omega

/-- So the longest block is the shorter text, in both orders. -/
theorem longestBlock_of_isPrefix (p : Char → Bool) (h : a <+: b) :
    longestBlock a (marked p b) = ⟨0, 0, a.length⟩ ∧
      longestBlock b (marked p a) = ⟨0, 0, a.length⟩ := by
  have hleads := leads_firstLongest p a b
  obtain ⟨hsettled, hsame⟩ := settled_of_isPrefix h hleads
  have hblock := extendBlock_of_isPrefix (p := p) h hsame hleads.bounds.1
  constructor
  · rw [longestBlock_eq hleads, hblock]
  · rw [longestBlock_eq (hsettled.swap fun _ _ _ => rfl).leads, extendBlock_swap p, hblock]
    rfl

/-! ## What the blocks cover -/

section Covering

variable {b : List Seed} {i j k : Nat}

theorem matchedSize_of_no_block (h : longestBlock a b = ⟨i, j, 0⟩) : matchedSize a b = 0 := by
  rw [matchedSize, h]
  exact dif_neg fun hblock => Nat.lt_irrefl 0 hblock.1

theorem matchedSize_of_block (h : longestBlock a b = ⟨i, j, k⟩) (hpos : 0 < k)
    (hle : i + k ≤ a.length) : matchedSize a b =
      matchedSize (a.take i) (b.take j) + k + matchedSize (a.drop (i + k)) (b.drop (j + k)) := by
  rw [matchedSize, h]
  exact dif_pos ⟨hpos, hle⟩

end Covering

theorem matchedSize_nil (p : Char → Bool) (b : List Char) :
    matchedSize [] (marked p b) = 0 ∧ matchedSize b (marked p []) = 0 := by
  obtain ⟨hshort, hlong⟩ := longestBlock_of_isPrefix p (List.nil_prefix (l := b))
  exact ⟨matchedSize_of_no_block hshort, matchedSize_of_no_block hlong⟩

/-- All of the shorter text is matched, in both orders. -/
theorem matchedSize_of_isPrefix (p : Char → Bool) (h : a <+: b) :
    matchedSize a (marked p b) = a.length ∧ matchedSize b (marked p a) = a.length := by
  obtain ⟨hshort, hlong⟩ := longestBlock_of_isPrefix p h
  rcases Nat.eq_zero_or_pos a.length with hzero | hpos
  · obtain rfl := List.eq_nil_of_length_eq_zero hzero
    exact matchedSize_nil p b
  · constructor
    · rw [matchedSize_of_block hshort hpos (by omega), List.take_zero, take_marked, drop_marked,
        Nat.zero_add, List.drop_length, (matchedSize_nil p _).1, (matchedSize_nil p _).1]
      omega
    · rw [matchedSize_of_block hlong hpos (by rw [Nat.zero_add]; exact h.length_le), List.take_zero,
        take_marked, drop_marked, Nat.zero_add, List.drop_length, List.take_zero,
        (matchedSize_nil p _).2, (matchedSize_nil p _).2]
      omega

/-! ## Extensions -/

/-- A text that goes on where another ends, letter case and blanks aside, is a near duplicate of it
exactly if it does not go on at all or by less than half its length, whichever of the two comes
first and however long they are. -/
theorem isNearDuplicate_of_extension {x y : String} {suffix : List Char}
    (hextends : normalize y.toList = normalize x.toList ++ suffix) :
    (isNearDuplicate x y = true ↔
        suffix = [] ∨ 2 * suffix.length < (normalize x.toList).length) ∧
      (isNearDuplicate y x = true ↔
        suffix = [] ∨ 2 * suffix.length < (normalize x.toList).length) := by
  have hprefix : normalize x.toList <+: normalize y.toList := ⟨suffix, hextends.symm⟩
  have hlength : (normalize y.toList).length = (normalize x.toList).length + suffix.length := by
    rw [hextends, List.length_append]
  have hequal : normalize x.toList = normalize y.toList ↔ suffix = [] := by
    rw [hextends, List.self_eq_append_right]
  constructor
  · rw [isNearDuplicate, Bool.or_eq_true, beq_iff_eq, hequal, isSimilar, decide_eq_true_iff,
      seeds_eq_marked, (matchedSize_of_isPrefix _ hprefix).1, hlength]
    exact or_congr_right (by omega)
  · rw [isNearDuplicate, Bool.or_eq_true, beq_iff_eq, eq_comm, hequal, isSimilar,
      decide_eq_true_iff, seeds_eq_marked, (matchedSize_of_isPrefix _ hprefix).2, hlength]
    exact or_congr_right (by omega)

/-- Letters behind one other letter, too many of them for a block to start. -/
def letterRun (n : Nat) : String := String.ofList ('b' :: List.replicate n 'a')

/-- The search has no seed but the first letter, and still covers the whole shorter run. -/
theorem letterRun_extended :
    normalize (letterRun 260).toList =
        normalize (letterRun 200).toList ++ List.replicate 60 'a' ∧
      2 * (List.replicate 60 'a').length < (normalize (letterRun 200).toList).length ∧
      isNearDuplicate (letterRun 200) (letterRun 260) = true := by
  have hshorter : normalize (letterRun 200).toList = 'b' :: List.replicate 200 'a' := by
    rw [letterRun, String.toList_ofList]
    decide +kernel
  have hlonger : normalize (letterRun 260).toList = 'b' :: List.replicate 260 'a' := by
    rw [letterRun, String.toList_ofList]
    decide +kernel
  have hextends : normalize (letterRun 260).toList =
      normalize (letterRun 200).toList ++ List.replicate 60 'a' := by
    rw [hshorter, hlonger, List.cons_append, List.replicate_append_replicate]
  have hshort : 2 * (List.replicate 60 'a').length < (normalize (letterRun 200).toList).length := by
    rw [hshorter, List.length_cons, List.length_replicate, List.length_replicate]
    decide
  exact ⟨hextends, hshort, (isNearDuplicate_of_extension hextends).1.mpr (Or.inr hshort)⟩

end SlashLine.Output
