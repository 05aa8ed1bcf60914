import SlashLine.Output.Similarity

/-!
# Common blocks

The search for blocks fills a table row by row, with the length of the block that ends at each pair
of places. What it returns is described here without the table: of all common blocks of characters
that may start one, the longest, of those the earliest in the first text, and of those the earliest
in the second.

* `IsCommon`: the blocks that the search is about.
* `IsRow.runLengths`: one row of the table from the one before.
* `Leads.longestInRow`: what one row adds.
* `leads_firstLongest`: what the search finds, which is the only such block.
* `settled_iff`: what it finds in both orders of the two texts.
-/

namespace SlashLine.Output

/-! ## Marks -/

/-- A block of the second text may start from a character. -/
def starts (b : List Char) (c : Char) : Bool := b.length < 200 || b.count c ≤ b.length / 100 + 1

/-- A second text whose characters carry marks. -/
def marked (p : Char → Bool) (b : List Char) : List Seed := b.map fun c => (c, p c)

theorem seeds_eq_marked (b : List Char) : seeds b = marked (starts b) b := by
  unfold seeds starts marked
  by_cases hshort : b.length < 200
  · simp [hshort]
  · simp [hshort]

/-- In a short text every character is as good as any other to start from. -/
theorem starts_of_short {b : List Char} (h : b.length < 200) (c : Char) : starts b c = true := by
  simp [starts, h]

/-- A character that makes up too much of a long text. -/
theorem starts_of_frequent {b : List Char} {c : Char} (hlong : 200 ≤ b.length)
    (h : b.length / 100 + 1 < b.count c) : starts b c = false := by
  simp [starts, Nat.not_lt.mpr hlong, h]

section Marks

variable (p : Char → Bool) (b : List Char) (n : Nat)

theorem length_marked : (marked p b).length = b.length := List.length_map _

theorem marked_cons (c : Char) : marked p (c :: b) = (c, p c) :: marked p b := rfl

theorem take_marked : (marked p b).take n = marked p (b.take n) := List.map_take.symm

theorem drop_marked : (marked p b).drop n = marked p (b.drop n) := List.map_drop.symm

theorem reverse_marked : (marked p b).reverse = marked p b.reverse := List.map_reverse.symm

end Marks

/-! ## Blocks -/

/-- Two texts have a character in common at two places, and a block may start from it. -/
def Agree (p : Char → Bool) (a b : List Char) (i j : Nat) : Prop :=
  ∃ c, a[i]? = some c ∧ b[j]? = some c ∧ p c = true

/-- Two texts agree along a block. -/
def IsCommon (p : Char → Bool) (a b : List Char) (block : Block) : Prop :=
  ∀ t < block.size, Agree p a b (block.first + t) (block.second + t)

/-- A block is longer than another, or as long and earlier in the first text, or in both the same
and no later in the second. -/
def Block.Precedes (block other : Block) : Prop :=
  other.size < block.size ∨ other.size = block.size ∧
    (block.first < other.first ∨ block.first = other.first ∧ block.second ≤ other.second)

/-- A block is one of some blocks, and precedes them all. -/
def Leads (among : Block → Prop) (block : Block) : Prop :=
  among block ∧ ∀ other, among other → block.Precedes other

variable {p : Char → Bool} {a b : List Char} {i j n : Nat} {best block : Block}

theorem isCommon_empty (p : Char → Bool) (a b : List Char) : IsCommon p a b ⟨0, 0, 0⟩ :=
  fun t ht => absurd ht (Nat.not_lt_zero t)

theorem Agree.bounds (h : Agree p a b i j) : i < a.length ∧ j < b.length := by
  obtain ⟨c, ha, hb, -⟩ := h
  exact ⟨(List.getElem?_eq_some_iff.mp ha).1, (List.getElem?_eq_some_iff.mp hb).1⟩

theorem IsCommon.bounds (h : IsCommon p a b block) (hsize : 0 < block.size) :
    block.first + block.size ≤ a.length ∧ block.second + block.size ≤ b.length := by
  have hlast := (h (block.size - 1) (by omega)).bounds
  omega

namespace Block.Precedes

variable {other : Block}

theorem size_le (h : block.Precedes other) : other.size ≤ block.size := by
  unfold Block.Precedes at h
  omega

theorem first_le (h : block.Precedes other) (hsize : other.size = block.size) :
    block.first ≤ other.first := by
  unfold Block.Precedes at h
  omega

theorem second_le (h : block.Precedes other) (hsize : other.size = block.size)
    (hfirst : other.first = block.first) : block.second ≤ other.second := by
  unfold Block.Precedes at h
  omega

/-- No two blocks precede each other. -/
theorem antisymm (h : block.Precedes other) (h' : other.Precedes block) : block = other := by
  have hsize : other.size = block.size := Nat.le_antisymm h.size_le h'.size_le
  have hfirst : other.first = block.first :=
    Nat.le_antisymm (h'.first_le hsize.symm) (h.first_le hsize)
  have hsecond : other.second = block.second :=
    Nat.le_antisymm (h'.second_le hsize.symm hfirst.symm) (h.second_le hsize hfirst)
  obtain ⟨first, second, size⟩ := block
  cases hsize
  cases hfirst
  cases hsecond
  rfl

end Block.Precedes

/-- There is one block at most that precedes all others. -/
theorem Leads.unique {among : Block → Prop} (h : Leads among best) (h' : Leads among block) :
    best = block :=
  (h.2 block h'.1).antisymm (h'.2 best h.1)

/-- A block without a character that leads is at the start of both texts. -/
theorem Leads.eq_zero {among : Block → Prop} (h : Leads among best) (hempty : among ⟨0, 0, 0⟩)
    (hsize : best.size = 0) : best.first = 0 ∧ best.second = 0 := by
  have hplace := h.2 _ hempty
  have hfirst : best.first = 0 := Nat.le_zero.mp (hplace.first_le hsize.symm)
  exact ⟨hfirst, Nat.le_zero.mp (hplace.second_le hsize.symm hfirst.symm)⟩

/-- Blocks without a character come after the one at the start of both texts, so only the others
have to be looked at. -/
theorem Leads.of_positive {among others : Block → Prop} (h : Leads among best)
    (hempty : among ⟨0, 0, 0⟩) (hbest : others best)
    (hothers : ∀ block, 0 < block.size → others block → among block) : Leads others best := by
  refine ⟨hbest, fun block hblock => ?_⟩
  rcases Nat.eq_zero_or_pos block.size with hzero | hpos
  · rcases Nat.eq_zero_or_pos best.size with hnone | hlonger
    · obtain ⟨hfirst, hsecond⟩ := h.eq_zero hempty hnone
      unfold Block.Precedes
      omega
    · exact Or.inl (by omega)
  · exact h.2 block (hothers block hpos hblock)

/-- Both texts are long enough for the block that leads. -/
theorem Leads.bounds (h : Leads (IsCommon p a b) block) :
    block.first + block.size ≤ a.length ∧ block.second + block.size ≤ b.length := by
  rcases Nat.eq_zero_or_pos block.size with hzero | hpos
  · obtain ⟨hfirst, hsecond⟩ := h.eq_zero (isCommon_empty p a b) hzero
    omega
  · exact h.1.bounds hpos

/-! ## Rows of the table -/

/-- The length of the longest common block that ends before two places. -/
structure IsRun (p : Char → Bool) (a b : List Char) (i j n : Nat) : Prop where
  first_le : n ≤ i
  second_le : n ≤ j
  common : IsCommon p a b ⟨i - n, j - n, n⟩
  longest : ∀ block, IsCommon p a b block → block.first + block.size = i →
    block.second + block.size = j → block.size ≤ n

theorem IsRun.zero_first (p : Char → Bool) (a b : List Char) (j : Nat) : IsRun p a b 0 j 0 := by
  refine ⟨Nat.le_refl 0, Nat.zero_le j, fun t ht => absurd ht (Nat.not_lt_zero t), ?_⟩
  intro block _ hfirst _
  omega

theorem IsRun.zero_second (p : Char → Bool) (a b : List Char) (i : Nat) : IsRun p a b i 0 0 := by
  refine ⟨Nat.zero_le i, Nat.le_refl 0, fun t ht => absurd ht (Nat.not_lt_zero t), ?_⟩
  intro block _ _ hsecond
  omega

/-- A run grows by one where the next characters agree. -/
theorem IsRun.grow (h : IsRun p a b i j n) (hagree : Agree p a b i j) :
    IsRun p a b (i + 1) (j + 1) (n + 1) := by
  obtain ⟨hi, hj, hcommon, hlongest⟩ := h
  refine ⟨by omega, by omega, ?_, ?_⟩
  · intro t ht
    dsimp only at ht ⊢
    rcases Nat.lt_succ_iff_lt_or_eq.mp ht with hbefore | rfl
    · have hfirst : i + 1 - (n + 1) + t = i - n + t := by omega
      have hsecond : j + 1 - (n + 1) + t = j - n + t := by omega
      rw [hfirst, hsecond]
      exact hcommon t hbefore
    · have hfirst : i + 1 - (t + 1) + t = i := by omega
      have hsecond : j + 1 - (t + 1) + t = j := by omega
      rw [hfirst, hsecond]
      exact hagree
  · intro block hblock hfirst hsecond
    rcases Nat.eq_zero_or_pos block.size with hzero | hpos
    · omega
    · have hshorter : IsCommon p a b ⟨block.first, block.second, block.size - 1⟩ :=
        fun t ht => hblock t (Nat.lt_of_lt_of_le ht (Nat.sub_le _ _))
      have hle := hlongest _ hshorter (by dsimp only; omega) (by dsimp only; omega)
      dsimp only at hle
      omega

theorem IsRun.stop (hagree : ¬ Agree p a b i j) : IsRun p a b (i + 1) (j + 1) 0 := by
  refine ⟨Nat.zero_le _, Nat.zero_le _, fun t ht => absurd ht (Nat.not_lt_zero t), ?_⟩
  intro block hblock hfirst hsecond
  refine Nat.le_of_not_lt fun hsize => ?_
  have hlast := hblock (block.size - 1) (by omega)
  have hi : block.first + (block.size - 1) = i := by omega
  have hj : block.second + (block.size - 1) = j := by omega
  rw [hi, hj] at hlast
  exact hagree hlast

/-- A row of the table holds the lengths for one place of the first text. -/
structure IsRow (p : Char → Bool) (a b : List Char) (i : Nat) (row : List Nat) : Prop where
  length_eq : row.length = b.length
  run : ∀ j n, row[j]? = some n → IsRun p a b i (j + 1) n

theorem isRow_zero (p : Char → Bool) (a b : List Char) :
    IsRow p a b 0 ((marked p b).map fun _ => 0) := by
  refine ⟨by rw [List.length_map, length_marked], fun j n hn => ?_⟩
  obtain ⟨d, -, rfl⟩ := List.mem_map.mp (List.mem_of_getElem? hn)
  exact IsRun.zero_first p a b (j + 1)

/-- With a zero in front, a row tells the runs that end before each column. -/
theorem IsRow.before {row : List Nat} (h : IsRow p a b i row) (hn : (0 :: row)[j]? = some n) :
    IsRun p a b i j n := by
  cases j with
  | zero =>
    obtain rfl : 0 = n := Option.some.inj hn
    exact IsRun.zero_second p a b i
  | succ j => exact h.run j n hn

/-- The next row is made from the one before, and from that alone. -/
theorem IsRow.runLengths {row : List Nat} {c : Char} (h : IsRow p a b i row) (hc : a[i]? = some c) :
    IsRow p a b (i + 1) (runLengths c row (marked p b)) := by
  refine ⟨?_, fun j n hn => ?_⟩
  · rw [Output.runLengths, List.length_zipWith, List.length_cons, h.length_eq, length_marked]
    omega
  · obtain ⟨⟨d, isSeed⟩, m, hd, hm, rfl⟩ := List.getElem?_zipWith_eq_some.mp hn
    rw [marked, List.getElem?_map] at hd
    obtain ⟨d', hd', hpair⟩ := Option.map_eq_some_iff.mp hd
    obtain ⟨rfl, rfl⟩ := Prod.mk.inj hpair
    have hrun := h.before hm
    dsimp only
    split
    · next hseed =>
      obtain ⟨hp, hsame⟩ := Bool.and_eq_true_iff.mp hseed
      exact hrun.grow ⟨c, hc, beq_iff_eq.mp hsame ▸ hd', beq_iff_eq.mp hsame ▸ hp⟩
    · next hseed =>
      refine IsRun.stop ?_
      rintro ⟨e, he, he', hp⟩
      obtain rfl : c = e := Option.some.inj (hc.symm.trans he)
      obtain rfl : d' = c := Option.some.inj (hd'.symm.trans he')
      exact hseed (by simp [hp])

/-! ## The search -/

/-- The common blocks that the search has come past when it is at two places. -/
def Passed (p : Char → Bool) (a b : List Char) (i j : Nat) (block : Block) : Prop :=
  IsCommon p a b block ∧ (block.first + block.size ≤ i ∨
    block.first + block.size = i + 1 ∧ block.second + block.size ≤ j)

theorem passed_empty (p : Char → Bool) (a b : List Char) (i j : Nat) :
    Passed p a b i j ⟨0, 0, 0⟩ :=
  ⟨isCommon_empty p a b, Or.inl (Nat.zero_le i)⟩

theorem leads_passed_zero (p : Char → Bool) (a b : List Char) :
    Leads (Passed p a b 0 0) ⟨0, 0, 0⟩ := by
  refine ⟨passed_empty p a b 0 0, fun block hblock => ?_⟩
  obtain ⟨-, hplace⟩ := hblock
  unfold Block.Precedes
  dsimp only
  omega

/-- One cell of the table adds the blocks that end there, of which the longest is the only one that
can lead. -/
theorem Leads.cell (h : Leads (Passed p a b i j) best) (hn : IsRun p a b (i + 1) (j + 1) n) :
    Leads (Passed p a b i (j + 1))
      (if best.size < n then ⟨i + 1 - n, j + 1 - n, n⟩ else best) := by
  obtain ⟨⟨hcommon, hplace⟩, hleads⟩ := h
  obtain ⟨hi, hj, hrun, hlongest⟩ := hn
  -- A block is passed with this cell if it was passed before or ends here.
  have hnew : ∀ other, Passed p a b i (j + 1) other → Passed p a b i j other ∨
      other.first + other.size = i + 1 ∧ other.second + other.size = j + 1 ∧ other.size ≤ n := by
    rintro other ⟨hother, hbefore | ⟨hfirst, hsecond⟩⟩
    · exact Or.inl ⟨hother, Or.inl hbefore⟩
    · rcases Nat.lt_succ_iff_lt_or_eq.mp (Nat.lt_succ_of_le hsecond) with hlt | heq
      · exact Or.inl ⟨hother, Or.inr ⟨hfirst, Nat.le_of_lt_succ hlt⟩⟩
      · exact Or.inr ⟨hfirst, heq, hlongest other hother hfirst heq⟩
  split
  · next hlonger =>
    refine ⟨⟨hrun, Or.inr ⟨by dsimp only; omega, by dsimp only; omega⟩⟩, fun other hother => ?_⟩
    rcases hnew other hother with hold | ⟨hfirst, hsecond, hsize⟩
    · have hle := hleads other hold
      unfold Block.Precedes at hle ⊢
      dsimp only
      omega
    · unfold Block.Precedes
      dsimp only
      omega
  · next hlonger =>
    refine ⟨⟨hcommon, by omega⟩, fun other hother => ?_⟩
    rcases hnew other hother with hold | ⟨hfirst, hsecond, hsize⟩
    · exact hleads other hold
    · unfold Block.Precedes
      omega

/-- The leader so far is compared with one row, and leads that as well. -/
theorem Leads.longestInRow {row : List Nat} (h : Leads (Passed p a b i j) best)
    (hrow : ∀ k n, row[k]? = some n → IsRun p a b (i + 1) (j + k + 1) n) :
    Leads (Passed p a b i (j + row.length)) (longestInRow i best j row) := by
  -- The blocks passed so far carry the induction: the row is taken cell by cell.
  induction row generalizing best j with
  | nil => exact h
  | cons n row ih =>
    rw [List.length_cons, ← Nat.add_assoc, Nat.add_right_comm]
    refine ih (h.cell (hrow 0 n rfl)) fun k m hm => ?_
    have hplace : j + 1 + k + 1 = j + (k + 1) + 1 := by omega
    rw [hplace]
    exact hrow (k + 1) m hm

/-- At the end of a row the search has come past every block that ends there. -/
theorem Leads.nextRow (h : Leads (Passed p a b i b.length) best) :
    Leads (Passed p a b (i + 1) 0) best := by
  refine h.of_positive (passed_empty p a b i b.length) ⟨h.1.1, ?_⟩ ?_
  · have hplace := h.1.2
    omega
  · rintro block hpos ⟨hcommon, hplace⟩
    have hbounds := (hcommon.bounds hpos).2
    exact ⟨hcommon, by omega⟩

/-- The induction is on what is left of the first text, and the leader of what was passed goes
along. -/
theorem leads_longestSeedBlock {before : List Nat} {rest : List Char}
    (h : Leads (Passed p a b i 0) best) (hbefore : IsRow p a b i before) (hrest : a.drop i = rest) :
    Leads (IsCommon p a b) (longestSeedBlock (marked p b) best before i rest) := by
  induction rest generalizing best before i with
  | nil =>
    have hlength : a.length ≤ i := List.drop_eq_nil_iff.mp hrest
    refine h.of_positive (passed_empty p a b i 0) h.1.1 fun block hpos hcommon => ?_
    have hbounds := (hcommon.bounds hpos).1
    exact ⟨hcommon, by omega⟩
  | cons c rest ih =>
    have hc : a[i]? = some c := by
      rw [← List.head?_drop, hrest, List.head?_cons]
    have hrow := hbefore.runLengths hc
    refine ih ?_ hrow (by rw [← List.tail_drop, hrest, List.tail_cons])
    have hruns : ∀ k n, (runLengths c before (marked p b))[k]? = some n →
        IsRun p a b (i + 1) (0 + k + 1) n := by
      intro k n hn
      rw [Nat.zero_add]
      exact hrow.run k n hn
    have hleads := h.longestInRow hruns
    rw [Nat.zero_add, hrow.length_eq] at hleads
    exact hleads.nextRow

/-- What the search finds in two texts. -/
def firstLongest (p : Char → Bool) (a b : List Char) : Block :=
  longestSeedBlock (marked p b) ⟨0, 0, 0⟩ ((marked p b).map fun _ => 0) 0 a

/-- The scan finds the block that leads all common ones. -/
theorem leads_firstLongest (p : Char → Bool) (a b : List Char) :
    Leads (IsCommon p a b) (firstLongest p a b) :=
  leads_longestSeedBlock (leads_passed_zero p a b) (isRow_zero p a b) rfl

/-- The longest block is the leader, extended on both sides. -/
theorem longestBlock_eq (h : Leads (IsCommon p a b) best) :
    longestBlock a (marked p b) = extendBlock a (marked p b) best := by
  rw [h.unique (leads_firstLongest p a b)]
  rfl

/-! ## The other order -/

/-- The same block with the texts in the other order. -/
def Block.swap (block : Block) : Block := ⟨block.second, block.first, block.size⟩

/-- Two ways to mark characters are the same for the characters that both texts have. -/
def SameMarks (p q : Char → Bool) (a b : List Char) : Prop := ∀ c ∈ a, c ∈ b → p c = q c

/-- A block is one of the longest common blocks, and no other of them starts earlier in either
text. So it is the first of them in both orders. -/
def Settled (p : Char → Bool) (a b : List Char) (block : Block) : Prop :=
  IsCommon p a b block ∧ ∀ other, IsCommon p a b other → other.size < block.size ∨
    other.size = block.size ∧ block.first ≤ other.first ∧ block.second ≤ other.second

variable {q : Char → Bool}

theorem SameMarks.symm (h : SameMarks p q a b) : SameMarks q p b a :=
  fun c hb ha => (h c ha hb).symm

theorem SameMarks.mono {a' b' : List Char} (h : SameMarks p q a b) (ha : a' ⊆ a) (hb : b' ⊆ b) :
    SameMarks p q a' b' :=
  fun c hca hcb => h c (ha hca) (hb hcb)

theorem IsCommon.swap (hmarks : SameMarks p q a b) (h : IsCommon p a b block) :
    IsCommon q b a block.swap := by
  intro t ht
  obtain ⟨c, ha, hb, hp⟩ := h t ht
  exact ⟨c, hb, ha, hmarks c (List.mem_of_getElem? ha) (List.mem_of_getElem? hb) ▸ hp⟩

/-- What is settled leads the common blocks. -/
theorem Settled.leads (h : Settled p a b block) : Leads (IsCommon p a b) block := by
  refine ⟨h.1, fun other hother => ?_⟩
  have hfirst := h.2 other hother
  unfold Block.Precedes
  omega

/-- What is settled for two texts is settled for them in the other order. -/
theorem Settled.swap (hmarks : SameMarks p q a b) (h : Settled p a b block) :
    Settled q b a block.swap := by
  refine ⟨h.1.swap hmarks, fun other hother => ?_⟩
  rcases h.2 other.swap (hother.swap hmarks.symm) with hshorter | ⟨hsize, hfirst, hsecond⟩
  · exact Or.inl hshorter
  · exact Or.inr ⟨hsize, hsecond, hfirst⟩

/-- The search decides whether a block is settled. -/
theorem settled_iff : Settled p a b block ↔
    firstLongest p a b = block ∧ firstLongest p b a = block.swap := by
  constructor
  · intro h
    exact ⟨(leads_firstLongest p a b).unique h.leads,
      (leads_firstLongest p b a).unique (h.swap fun _ _ _ => rfl).leads⟩
  · rintro ⟨rfl, hswap⟩
    have hleads := leads_firstLongest p a b
    have hleads' := leads_firstLongest p b a
    rw [hswap] at hleads'
    refine ⟨hleads.1, fun other hother => ?_⟩
    have hthere := hleads.2 other hother
    have hback := hleads'.2 other.swap (hother.swap fun _ _ _ => rfl)
    rcases Nat.lt_or_eq_of_le hthere.size_le with hshorter | hsize
    · exact Or.inl hshorter
    · exact Or.inr ⟨hsize, hthere.first_le hsize, hback.first_le hsize⟩

instance (p : Char → Bool) (a b : List Char) (block : Block) : Decidable (Settled p a b block) :=
  decidable_of_iff _ settled_iff.symm

theorem commonStart_swap (p q : Char → Bool) (a b : List Char) :
    commonStart b (marked q a) = commonStart a (marked p b) := by
  induction a generalizing b with
  | nil => cases b <;> rfl
  | cons c a ih =>
    cases b with
    | nil => rfl
    | cons d b =>
      rw [marked_cons, marked_cons, commonStart, commonStart]
      by_cases hsame : c = d
      · rw [if_pos (beq_iff_eq.mpr hsame), if_pos (beq_iff_eq.mpr hsame.symm), ih b]
      · rw [if_neg (mt beq_iff_eq.mp hsame), if_neg (mt beq_iff_eq.mp (Ne.symm hsame))]

theorem commonStart_le (a : List Char) (b : List Seed) : commonStart a b ≤ a.length := by
  induction a generalizing b with
  | nil => exact Nat.le_refl 0
  | cons c a ih =>
    cases b with
    | nil => exact Nat.zero_le _
    | cons d b =>
      rw [commonStart]
      split
      · exact Nat.succ_le_succ (ih b)
      · exact Nat.zero_le _

/-- The texts agree before and after a block whichever of them comes first. -/
theorem extendBlock_swap (p q : Char → Bool) (a b : List Char) (block : Block) :
    extendBlock b (marked q a) block.swap = (extendBlock a (marked p b) block).swap := by
  simp only [extendBlock, Block.swap, take_marked, drop_marked, reverse_marked,
    commonStart_swap p q]

theorem extendBlock_bounds {b : List Seed} (h : block.first + block.size ≤ a.length) :
    (extendBlock a b block).first + (extendBlock a b block).size ≤ a.length := by
  have hback := commonStart_le (a.take block.first).reverse (b.take block.second).reverse
  have hahead := commonStart_le (a.drop (block.first + block.size))
    (b.drop (block.second + block.size))
  rw [List.length_reverse, List.length_take] at hback
  rw [List.length_drop] at hahead
  simp only [extendBlock]
  omega

end SlashLine.Output
