import SlashLine.Proofs.Output.Extension
import SlashLine.Proofs.Output.Feedback

/-!
# Near duplicates in either order

Whether one of two texts is a near duplicate of the other may hang on which of them comes first, for
two reasons. Of several longest blocks the search takes the one that is earliest in the first text,
and another choice leaves other texts before and after it. And only the frequent characters of a
long second text start no block. Where neither reason applies, the blocks of one order are those of
the other.

* `not_everyPairExchangeable`, `run_popular_in_one`: what either reason does to two texts.
* `Untied`: no step of the search has to choose between blocks.
* `matchedSize_swap`: then both orders find the same blocks.
* `isNearDuplicate_swap`: the texts for which the order does not matter, and what this means for
  feedback.
-/

namespace SlashLine.Output

/-! ## Ties -/

/-- At every step of the search for blocks, one of the longest blocks is the earliest in both
texts. -/
inductive Untied (p : Char → Bool) : List Char → List Char → Prop
  | apart {a b : List Char} {core : Block} {i j : Nat} (hcore : Settled p a b core)
      (hblock : extendBlock a (marked p b) core = ⟨i, j, 0⟩) : Untied p a b
  | along {a b : List Char} {core : Block} {i j k : Nat} (hcore : Settled p a b core)
      (hblock : extendBlock a (marked p b) core = ⟨i, j, k⟩) (hpos : 0 < k)
      (hbefore : Untied p (a.take i) (b.take j))
      (hafter : Untied p (a.drop (i + k)) (b.drop (j + k))) : Untied p a b

/-- No step has to choose between blocks, and no character that both texts have is too frequent in
one of them alone to start one. -/
structure Balanced (a b : List Char) : Prop where
  marks : SameMarks (starts b) (starts a) a b
  untied : Untied (starts b) a b

/-- One text goes on where the other ends, or neither reason applies to them. -/
def Exchangeable (a b : List Char) : Prop := a <+: b ∨ b <+: a ∨ Balanced a b

variable {p q : Char → Bool} {a b : List Char} {core : Block} {i j k : Nat}

/-- A block that grows from a settled one is the longest in both orders. -/
theorem Settled.longestBlock_eq (h : Settled p a b core) (hmarks : SameMarks p q a b)
    (hblock : extendBlock a (marked p b) core = ⟨i, j, k⟩) :
    longestBlock a (marked p b) = ⟨i, j, k⟩ ∧ longestBlock b (marked q a) = ⟨j, i, k⟩ ∧
      i + k ≤ a.length ∧ j + k ≤ b.length := by
  have hswap : extendBlock b (marked q a) core.swap = ⟨j, i, k⟩ := by
    rw [extendBlock_swap p q, hblock]
    rfl
  have hfirst := extendBlock_bounds (b := marked p b) h.leads.bounds.1
  have hsecond := extendBlock_bounds (b := marked q a) (h.swap hmarks).leads.bounds.1
  rw [hblock] at hfirst
  rw [hswap] at hsecond
  exact ⟨(Output.longestBlock_eq h.leads).trans hblock,
    (Output.longestBlock_eq (h.swap hmarks).leads).trans hswap, hfirst, hsecond⟩

/-- If all blocks on the way are settled, as much is matched in one order as in the other. -/
theorem matchedSize_swap (h : Untied p a b) (hmarks : SameMarks p q a b) :
    matchedSize b (marked q a) = matchedSize a (marked p b) := by
  -- Both orders find the same block, so what is before it and after it is the same two pairs.
  induction h with
  | apart hcore hblock =>
    obtain ⟨hthere, hback, -⟩ := hcore.longestBlock_eq hmarks hblock
    rw [matchedSize_of_no_block hthere, matchedSize_of_no_block hback]
  | @along a b core i j k hcore hblock hpos hbefore hafter ihbefore ihafter =>
    obtain ⟨hthere, hback, hfirst, hsecond⟩ := hcore.longestBlock_eq hmarks hblock
    rw [matchedSize_of_block hthere hpos hfirst, matchedSize_of_block hback hpos hsecond]
    simp only [take_marked, drop_marked]
    rw [ihbefore (hmarks.mono (List.take_subset i a) (List.take_subset j b)),
      ihafter (hmarks.mono (List.drop_subset _ a) (List.drop_subset _ b))]

theorem matchedSize_seeds_swap (h : Exchangeable a b) :
    matchedSize b (seeds a) = matchedSize a (seeds b) := by
  rw [seeds_eq_marked, seeds_eq_marked]
  rcases h with hprefix | hprefix | hbalanced
  · rw [(matchedSize_of_isPrefix _ hprefix).1, (matchedSize_of_isPrefix _ hprefix).2]
  · rw [(matchedSize_of_isPrefix _ hprefix).1, (matchedSize_of_isPrefix _ hprefix).2]
  · exact matchedSize_swap hbalanced.untied hbalanced.marks

/-- Then the two texts are similar in both orders or in none. -/
theorem isSimilar_swap (h : Exchangeable a b) : isSimilar a b = isSimilar b a := by
  rw [isSimilar, isSimilar, matchedSize_seeds_swap h, Nat.add_comm a.length]

/-! ## Feedback -/

section Feedback

variable {stage : Stage} {s t : String} {f g : Feedback}

theorem length_suppressed_addFeedback (stage : Stage) (s : String) (f : Feedback) :
    (stage.addFeedback s f).suppressed.length =
      stage.suppressed.length + (stage.repeats f).toNat := by
  cases hrepeats : stage.repeats f with
  | true => rw [Stage.addFeedback_of_repeats hrepeats, List.length_append]; rfl
  | false => rw [Stage.addFeedback_of_not_repeats hrepeats]; rfl

/-- Feedback of a new source is compared with all that comes after it. -/
theorem repeats_addFeedback (hs : s ∉ stage.feedback.keys) :
    (stage.addFeedback s f).repeats g =
      (stage.repeats g || !stage.repeats f && isNearDuplicate f.content g.content) := by
  cases hrepeats : stage.repeats f with
  | true =>
    rw [Stage.addFeedback_of_repeats hrepeats, Bool.not_true, Bool.false_and, Bool.or_false]
    rfl
  | false =>
    have hvalues : (stage.feedback.set s f).values = stage.feedback.values ++ [f] := by
      have hentries : (stage.feedback.set s f).entries = stage.feedback.entries ++ [(s, f)] :=
        Slots.put_of_not_mem hs f
      rw [Slots.values, hentries, List.map_append]
      rfl
    rw [Stage.addFeedback_of_not_repeats hrepeats, Stage.repeats, hvalues, List.any_append]
    simp [Stage.repeats]

/-- Of two pieces of feedback as many are suppressed in one order as in the other, if they repeat
each other in both orders or in none. -/
theorem length_suppressed_swap (hs : s ∉ stage.feedback.keys) (ht : t ∉ stage.feedback.keys)
    (hsame : isNearDuplicate f.content g.content = isNearDuplicate g.content f.content) :
    ((stage.addFeedback s f).addFeedback t g).suppressed.length =
      ((stage.addFeedback t g).addFeedback s f).suppressed.length := by
  simp only [length_suppressed_addFeedback, repeats_addFeedback hs, repeats_addFeedback ht, hsame]
  cases stage.repeats f <;> cases stage.repeats g <;> simp

end Feedback

/-! ## Frequent characters -/

/-- No common character starts a block. -/
theorem settled_empty (h : ∀ c ∈ a, c ∈ b → p c = false) : Settled p a b ⟨0, 0, 0⟩ := by
  refine ⟨isCommon_empty p a b, fun other hother => Or.inr ⟨?_, Nat.zero_le _, Nat.zero_le _⟩⟩
  refine Nat.eq_zero_of_not_pos fun hpos => ?_
  obtain ⟨c, ha, hb, hp⟩ := hother 0 hpos
  rw [h c (List.mem_of_getElem? ha) (List.mem_of_getElem? hb)] at hp
  cases hp

/-- No common block is longer than what is matched. -/
theorem size_le_matchedSize {block : Block} (h : IsCommon p a b block) :
    block.size ≤ matchedSize a (marked p b) := by
  have hleads := leads_firstLongest p a b
  have hle : block.size ≤ (firstLongest p a b).size := (hleads.2 block h).size_le
  rcases Nat.eq_zero_or_pos block.size with hzero | hpos
  · omega
  · have hbounds := extendBlock_bounds (b := marked p b) hleads.bounds.1
    have hgrown : (firstLongest p a b).size ≤
        (extendBlock a (marked p b) (firstLongest p a b)).size := by
      simp only [extendBlock]
      omega
    rw [matchedSize_of_block (longestBlock_eq hleads) (by omega) hbounds]
    omega

/-- Two runs of one letter, each behind a letter of its own, differ in little else than their first
letters. From 200 characters on the letter of the run is too frequent to start a block, and before
that it is not. There is no tie here. -/
theorem run_popular_in_one {c d e : Char} (hcd : c ≠ d) (hce : c ≠ e) :
    let shorter := c :: List.replicate 198 e
    let longer := d :: List.replicate 199 e
    Untied (starts longer) shorter longer ∧ isSimilar shorter longer = false ∧
      isSimilar longer shorter = true := by
  intro shorter longer
  have hshorter : shorter.length = 199 := by rw [List.length_cons, List.length_replicate]
  have hlonger : longer.length = 200 := by rw [List.length_cons, List.length_replicate]
  have hpopular : starts longer e = false := by
    have hcount : 199 ≤ longer.count e := by
      have hrun : (List.replicate 199 e).count e = 199 := List.count_replicate_self
      exact hrun ▸ List.count_le_count_cons
    exact starts_of_frequent (by omega) (by omega)
  have hno : ∀ x ∈ shorter, x ∈ longer → starts longer x = false := by
    intro x hx hx'
    rcases List.mem_cons.mp hx with rfl | hrun
    · rcases List.mem_cons.mp hx' with hd | hrun
      · exact absurd hd hcd
      · exact absurd (List.eq_of_mem_replicate hrun) hce
    · rwa [List.eq_of_mem_replicate hrun]
  have hblock : extendBlock shorter (marked (starts longer) longer) ⟨0, 0, 0⟩ = ⟨0, 0, 0⟩ := by
    have hstart : commonStart shorter (marked (starts longer) longer) = 0 :=
      if_neg (mt beq_iff_eq.mp hcd)
    simp only [extendBlock, List.take_zero, List.reverse_nil, Nat.add_zero, List.drop_zero, hstart]
    rfl
  have hcommon : IsCommon (starts shorter) longer shorter ⟨1, 1, 198⟩ := by
    intro t (ht : t < 198)
    refine ⟨e, ?_, ?_, starts_of_short (by omega) e⟩
    · rw [Nat.add_comm, List.getElem?_cons_succ, List.getElem?_replicate, if_pos (by omega)]
    · rw [Nat.add_comm, List.getElem?_cons_succ, List.getElem?_replicate, if_pos ht]
  have hsettled := settled_empty hno
  refine ⟨.apart hsettled hblock, ?_, ?_⟩
  · have hnone := matchedSize_of_no_block ((longestBlock_eq hsettled.leads).trans hblock)
    rw [isSimilar, seeds_eq_marked, hnone]
    exact decide_eq_false (by omega)
  · have hsize := size_le_matchedSize hcommon
    rw [isSimilar, seeds_eq_marked, hshorter, hlonger]
    exact decide_eq_true (by dsimp only at hsize; omega)

/-! ## The order of two texts -/

/-- The order of two texts never matters. -/
def EveryPairExchangeable : Prop :=
  ∀ x y : String, isNearDuplicate x y = isNearDuplicate y x

/-- After the block `aab` both `b` and `c` are longest blocks, and only `c` leaves another one. -/
theorem not_everyPairExchangeable :
    (isNearDuplicate "aabcb" "aabbcab" = true ∧ isNearDuplicate "aabbcab" "aabcb" = false) ∧
      ¬ EveryPairExchangeable := by
  have htie : isNearDuplicate "aabcb" "aabbcab" = true ∧
      isNearDuplicate "aabbcab" "aabcb" = false := by
    decide +kernel
  refine ⟨htie, fun h => ?_⟩
  have hsame := h "aabcb" "aabbcab"
  rw [htie.1, htie.2] at hsame
  cases hsame

/-- If, letter case and blanks aside, one text goes on where the other ends, or the search never has
to choose between blocks and the same of their common characters are too frequent to start one, then
the order of the texts does not matter for whether they are near duplicates. Nor does it for how
many of two pieces of feedback with these texts are left out on a stage where their sources are
new. -/
theorem isNearDuplicate_swap {x y : String}
    (h : Exchangeable (normalize x.toList) (normalize y.toList)) :
    isNearDuplicate x y = isNearDuplicate y x ∧
      ∀ (stage : Stage) (s t : String) (f g : Feedback), f.content = x → g.content = y →
        s ∉ stage.feedback.keys → t ∉ stage.feedback.keys →
          ((stage.addFeedback s f).addFeedback t g).suppressed.length =
            ((stage.addFeedback t g).addFeedback s f).suppressed.length := by
  have hsame : isNearDuplicate x y = isNearDuplicate y x := by
    rw [isNearDuplicate, isNearDuplicate, isSimilar_swap h, Bool.beq_comm]
  refine ⟨hsame, ?_⟩
  intro stage s t f g hf hg hs ht
  subst hf hg
  exact length_suppressed_swap hs ht hsame

/-- Two messages that end differently: behind their common block nothing is common. -/
theorem created_documents_swap :
    Exchangeable (normalize "Created document notes.md".toList)
        (normalize "Created document notes.txt".toList) ∧
      isNearDuplicate "Created document notes.md" "Created document notes.txt" =
        isNearDuplicate "Created document notes.txt" "Created document notes.md" ∧
      ((Stage.empty.addFeedback "new" ⟨.tip, "Created document notes.md", 0⟩).addFeedback "copy"
          ⟨.tip, "Created document notes.txt", 1⟩).suppressed.length =
        ((Stage.empty.addFeedback "copy" ⟨.tip, "Created document notes.txt", 1⟩).addFeedback "new"
          ⟨.tip, "Created document notes.md", 0⟩).suppressed.length := by
  have hfirst : normalize "Created document notes.md".toList = "created document notes.md".toList :=
    by decide +kernel
  have hsecond :
      normalize "Created document notes.txt".toList = "created document notes.txt".toList := by
    decide +kernel
  have hexchangeable : Exchangeable (normalize "Created document notes.md".toList)
      (normalize "Created document notes.txt".toList) := by
    rw [hfirst, hsecond]
    have hmarks : SameMarks (starts "created document notes.txt".toList)
        (starts "created document notes.md".toList) "created document notes.md".toList
        "created document notes.txt".toList := by
      intro c _ _
      rw [starts_of_short (by decide +kernel), starts_of_short (by decide +kernel)]
    have hnothing : Untied (starts "created document notes.txt".toList) [] [] :=
      .apart (settled_empty fun c hc => absurd hc List.not_mem_nil) rfl
    have hempty : Settled (starts "created document notes.txt".toList) "md".toList "txt".toList
        ⟨0, 0, 0⟩ := by
      decide +kernel
    have hendings : Untied (starts "created document notes.txt".toList) "md".toList "txt".toList :=
      .apart (i := 0) (j := 0) hempty (by decide +kernel)
    have hcore : Settled (starts "created document notes.txt".toList)
        "created document notes.md".toList "created document notes.txt".toList ⟨0, 0, 23⟩ := by
      decide +kernel
    have hblock : extendBlock "created document notes.md".toList
        (marked (starts "created document notes.txt".toList) "created document notes.txt".toList)
        ⟨0, 0, 23⟩ = ⟨0, 0, 23⟩ := by
      decide +kernel
    exact Or.inr (Or.inr ⟨hmarks, .along hcore hblock (by decide) hnothing hendings⟩)
  obtain ⟨hsame, hfeedback⟩ := isNearDuplicate_swap hexchangeable
  exact ⟨hexchangeable, hsame,
    hfeedback Stage.empty "new" "copy" _ _ rfl rfl List.not_mem_nil List.not_mem_nil⟩

end SlashLine.Output
