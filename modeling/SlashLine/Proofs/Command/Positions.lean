import Mathlib.Logic.ExistsUnique
import SlashLine.Command.Flag

/-!
# Flags and arguments by position

Tokens are split in one pass that may take two of them at a time, and a flag that is given again is
written over. What comes out can be said of every position by itself: the token there and the one
before it decide whether it is a flag, the value of a flag or an argument, and the token after it
decides what a flag is set to. The pass keeps to this rule because what it skips is never a flag.

* `Position`, `Role`: a token with its neighbours, and what it is for.
* `Position.existsUnique_role`: every token is for one thing.
* `Position.writes`: what the flags at a position are set to.
* `splitTokens_eq`: the pass agrees with the positions.
* `parseFlags_by_position`: flags and arguments are those of the positions.
-/

namespace SlashLine.Command

/-! ## Positions -/

/-- A token that starts with a dash and is longer than that. -/
def GivesFlags (token : String) : Prop := startsDash token = true ∧ 1 < token.length

instance (token : String) : Decidable (GivesFlags token) := inferInstanceAs (Decidable (_ ∧ _))

/-- The names that a flag token gives: all that follows two dashes, or the characters after one. -/
def namesGiven (token : String) : List String :=
  if ['-', '-'] <+: token.toList then [String.ofList (token.toList.drop 2)]
  else (token.toList.drop 1).map String.singleton

/-- What a token is for. -/
inductive Role where
  | flag
  | value
  | argument

/-- A token with the tokens before and after it. -/
structure Position where
  before : Option String
  token : String
  after : Option String

namespace Position

/-- The token before the position is a flag. -/
def FollowsFlag (position : Position) : Prop := ∃ flag ∈ position.before, GivesFlags flag

instance (position : Position) : Decidable position.FollowsFlag :=
  inferInstanceAs (Decidable (∃ flag ∈ position.before, _))

/-- What a token is for is settled by the token and the one before it. -/
def Plays (position : Position) : Role → Prop
  | .flag => GivesFlags position.token
  | .value => position.FollowsFlag ∧ startsDash position.token = false
  | .argument => ¬ GivesFlags position.token ∧ (position.token = "-" ∨ ¬ position.FollowsFlag)

instance (position : Position) : DecidablePred position.Plays
  | .flag => inferInstanceAs (Decidable (GivesFlags _))
  | .value => inferInstanceAs (Decidable (_ ∧ _))
  | .argument => inferInstanceAs (Decidable (_ ∧ _))

/-- The value that a flag at a position takes: the token after it, unless that starts with a
dash. -/
def taken? (position : Position) : Option String :=
  position.after.filter fun next => !startsDash next

/-- What the flags at a position are set to. The last of its names gets the value that is taken, if
there is one, and the others are merely present. -/
def writes (position : Position) : List (String × FlagValue) :=
  if GivesFlags position.token then
    (namesGiven position.token).dropLast.map (·, .present true) ++
      ((namesGiven position.token).getLast?.map
        (·, (position.taken?.map .text).getD (.present true))).toList
  else []

end Position

/-- The positions of tokens, in order. -/
def positions (tokens : List String) : List Position :=
  tokens.mapIdx fun i token =>
    { before := if i = 0 then none else tokens[i - 1]?, token, after := tokens[i + 1]? }

/-- The positions of tokens that stand after another one. -/
def positionsAfter (before : Option String) : List String → List Position
  | [] => []
  | token :: rest => ⟨before, token, rest.head?⟩ :: positionsAfter (some token) rest

/-- A position is a token with its neighbours in the list. -/
theorem positionsAfter_eq (before : Option String) (tokens : List String) :
    positionsAfter before tokens = tokens.mapIdx fun i token =>
      { before := if i = 0 then before else tokens[i - 1]?, token, after := tokens[i + 1]? } := by
  induction tokens generalizing before with
  | nil => rfl
  | cons token rest ih =>
    rw [positionsAfter, ih, List.mapIdx_cons]
    congr 1
    · simp [List.head?_eq_getElem?]
    · congr 1
      funext i next
      cases i with
      | zero => simp
      | succ i => simp

theorem positions_eq (tokens : List String) : positions tokens = positionsAfter none tokens :=
  (positionsAfter_eq none tokens).symm

theorem mem_of_mem_positions {tokens : List String} {position : Position}
    (h : position ∈ positions tokens) :
    position.token ∈ tokens ∧ ∀ next ∈ position.after, next ∈ tokens := by
  obtain ⟨i, hi, rfl⟩ := List.mem_mapIdx.mp h
  exact ⟨List.getElem_mem hi, fun next hnext => List.mem_of_getElem? hnext⟩

/-! ## Roles -/

variable {before : Option String} {token next : String} {tokens : List String}
  {position : Position}

theorem givesFlags_iff : GivesFlags token ↔ ∃ c cs, token.toList = '-' :: c :: cs := by
  unfold GivesFlags startsDash
  rw [← String.length_toList]
  cases token.toList with
  | nil => simp
  | cons d ds =>
    cases ds with
    | nil => simp
    | cons c cs => simp

theorem isFlagToken_iff : isFlagToken token = true ↔ GivesFlags token := by
  rw [givesFlags_iff, isFlagToken]
  split
  · next c cs hchars => exact iff_of_true rfl ⟨c, cs, hchars⟩
  · next hother =>
    refine iff_of_false Bool.false_ne_true ?_
    rintro ⟨c, cs, hchars⟩
    exact hother c cs hchars

theorem isFlagToken_eq_false_iff : isFlagToken token = false ↔ ¬ GivesFlags token := by
  rw [← isFlagToken_iff, Bool.not_eq_true]

/-- A dash that is no flag is alone. -/
theorem eq_dash_of_not_givesFlags (h : ¬ GivesFlags token) (hdash : startsDash token = true) :
    token = "-" := by
  obtain ⟨cs, hchars⟩ := List.head?_eq_some_iff.mp (beq_iff_eq.mp hdash)
  cases cs with
  | nil => exact String.toList_inj.mp hchars
  | cons c cs => exact absurd (givesFlags_iff.mpr ⟨c, cs, hchars⟩) h

theorem ne_dash_of_startsDash_eq_false (h : startsDash token = false) : token ≠ "-" := by
  rintro rfl
  exact absurd h (by decide)

namespace Position

/-- Every position plays one of the roles and no other. -/
theorem existsUnique_role (position : Position) : ∃! role, position.Plays role := by
  by_cases hflag : GivesFlags position.token
  · refine ⟨.flag, hflag, ?_⟩
    rintro (_ | _ | _) hrole
    · rfl
    · exact absurd (hrole.2.symm.trans hflag.1) Bool.false_ne_true
    · exact absurd hflag hrole.1
  · by_cases hvalue : position.FollowsFlag ∧ startsDash position.token = false
    · refine ⟨.value, hvalue, ?_⟩
      rintro (_ | _ | _) hrole
      · exact absurd hrole hflag
      · rfl
      · rcases hrole.2 with heq | hfree
        · exact absurd heq (ne_dash_of_startsDash_eq_false hvalue.2)
        · exact absurd hvalue.1 hfree
    · refine ⟨.argument, ⟨hflag, ?_⟩, ?_⟩
      · cases hdash : startsDash position.token with
        | true => exact Or.inl (eq_dash_of_not_givesFlags hflag hdash)
        | false => exact Or.inr fun hafter => hvalue ⟨hafter, hdash⟩
      · rintro (_ | _ | _) hrole
        · exact absurd hrole hflag
        · exact absurd hrole hvalue
        · rfl

end Position

/-- A token is the value of a flag exactly if the token before it is a flag and takes it. -/
theorem plays_value_iff {i : Nat} {position next : Position}
    (hposition : (positions tokens)[i]? = some position)
    (hnext : (positions tokens)[i + 1]? = some next) :
    next.Plays .value ↔ position.Plays .flag ∧ position.taken? = some next.token := by
  rw [positions, List.getElem?_mapIdx] at hposition hnext
  obtain ⟨token, htoken, rfl⟩ := Option.map_eq_some_iff.mp hposition
  obtain ⟨token', htoken', rfl⟩ := Option.map_eq_some_iff.mp hnext
  simp [Position.Plays, Position.FollowsFlag, Position.taken?, htoken, htoken']

/-! ## What is written -/

/-- A token that gives flags writes the value under its last name, and that they are present under
the others. -/
theorem flagWrites_eq (h : GivesFlags token) (value : FlagValue) :
    flagWrites token value =
      (namesGiven token).dropLast.map (·, .present true) ++
        ((namesGiven token).getLast?.map (·, value)).toList := by
  obtain ⟨c, cs, hchars⟩ := givesFlags_iff.mp h
  unfold flagWrites namesGiven
  rw [hchars]
  split
  · next name hname =>
    cases hname
    simp
  · next group hlong hgroup =>
    cases hgroup
    have hshort : ¬ ['-', '-'] <+: '-' :: c :: cs := by
      rintro ⟨name, hname⟩
      exact hlong name (List.cons.inj hname).2.symm
    rw [if_neg hshort, List.drop_one, List.tail_cons, ← List.map_dropLast, List.getLast?_map,
      List.map_map, Option.map_map]
    rfl
  · next hother => exact absurd rfl (hother (c :: cs))

namespace Position

theorem writes_of_flag (h : GivesFlags token) (before after : Option String) :
    writes ⟨before, token, after⟩ =
      flagWrites token (((taken? ⟨before, token, after⟩).map .text).getD (.present true)) := by
  rw [writes, if_pos h, flagWrites_eq h]

theorem writes_of_not_flag (h : ¬ GivesFlags position.token) : position.writes = [] :=
  if_neg h

/-- What is written is the token that a flag takes as its value, or that the flag is present. -/
theorem value_of_mem_writes {p : String × FlagValue} (h : p ∈ position.writes) :
    p.2 = .present true ∨ ∃ text ∈ position.taken?, p.2 = .text text := by
  rw [writes] at h
  split at h
  · rcases List.mem_append.mp h with hbefore | hlast
    · obtain ⟨name, -, rfl⟩ := List.mem_map.mp hbefore
      exact Or.inl rfl
    · obtain ⟨name, -, rfl⟩ := Option.map_eq_some_iff.mp (Option.mem_toList.mp hlast)
      cases position.taken? with
      | none => exact Or.inl rfl
      | some text => exact Or.inr ⟨text, rfl, rfl⟩
  · cases h

end Position

/-! ## The pass over the tokens -/

/-- What the flags at some positions are set to, and the arguments among them. -/
def gathered (positions : List Position) : List (String × FlagValue) × List String :=
  (positions.flatMap Position.writes,
    (positions.filter (Position.Plays · .argument)).map Position.token)

variable {later : List Position}

/-- What a flag gathers depends on the token after it alone. -/
theorem gathered_flag (h : GivesFlags token) (before after : Option String) :
    gathered (⟨before, token, after⟩ :: later) =
      (flagWrites token (((Position.taken? ⟨before, token, after⟩).map .text).getD
        (.present true)) ++ (gathered later).1, (gathered later).2) := by
  have hargument : ¬ (Position.mk before token after).Plays .argument := fun hrole => hrole.1 h
  rw [gathered, List.flatMap_cons, Position.writes_of_flag h,
    List.filter_cons_of_neg (by simpa using hargument)]
  rfl

theorem gathered_value (h : position.Plays .value) :
    gathered (position :: later) = gathered later := by
  have hflag : ¬ GivesFlags position.token := fun hflag =>
    Bool.false_ne_true (h.2.symm.trans hflag.1)
  have hargument : ¬ position.Plays .argument := fun hrole =>
    hrole.2.elim (ne_dash_of_startsDash_eq_false h.2) fun hfree => hfree h.1
  rw [gathered, List.flatMap_cons, Position.writes_of_not_flag hflag, List.nil_append,
    List.filter_cons_of_neg (by simpa using hargument)]
  rfl

theorem gathered_argument (h : position.Plays .argument) :
    gathered (position :: later) =
      ((gathered later).1, position.token :: (gathered later).2) := by
  rw [gathered, List.flatMap_cons, Position.writes_of_not_flag h.1, List.nil_append,
    List.filter_cons_of_pos (by simpa using h), List.map_cons]
  rfl

/-- No flag before the tokens takes the first of them. -/
def Free (before : Option String) (tokens : List String) : Prop :=
  (∃ flag ∈ before, GivesFlags flag) → ∀ next ∈ tokens.head?, startsDash next = true

theorem free_of_not_givesFlags (h : ¬ GivesFlags token) (tokens : List String) :
    Free (some token) tokens := by
  rintro ⟨flag, hflag, hgives⟩
  cases hflag
  exact absurd hgives h

/-- A token that gives no flags is an argument unless a flag before it can take it. -/
theorem Free.plays_argument (hfree : Free before (token :: tokens)) (h : ¬ GivesFlags token)
    (after : Option String) : (Position.mk before token after).Plays .argument := by
  refine ⟨h, ?_⟩
  by_cases hafter : ∃ flag ∈ before, GivesFlags flag
  · exact Or.inl (eq_dash_of_not_givesFlags h (hfree hafter token rfl))
  · exact Or.inr hafter

/-- The token before those that the pass has still to read is no flag that takes the first of them:
where a flag takes a value, the pass goes on after the value, which is no flag. -/
theorem Free.splitTokens_eq (hfree : Free before tokens) :
    splitTokens tokens = gathered (positionsAfter before tokens) := by
  fun_induction splitTokens tokens generalizing before with
  | case1 => rfl
  | case2 token hflag =>
    rw [positionsAfter, gathered_flag (isFlagToken_iff.mp hflag)]
    exact congrArg (·, []) (List.append_nil _).symm
  | case3 token hflag =>
    have hplain := isFlagToken_eq_false_iff.mp (eq_false_of_ne_true hflag)
    rw [positionsAfter, gathered_argument (hfree.plays_argument hplain _)]
    rfl
  | case4 token next rest hflag hdash writes arguments hsplit ih =>
    have hnext : Free (some token) (next :: rest) := by
      rintro - following hfollowing
      cases hfollowing
      exact hdash
    have htaken : Position.taken? ⟨before, token, some next⟩ = none := by
      simp [Position.taken?, Option.filter_some, hdash]
    rw [positionsAfter, gathered_flag (isFlagToken_iff.mp hflag), ← ih hnext, hsplit,
      List.head?_cons, htaken]
    rfl
  | case5 token next rest hflag hdash writes arguments hsplit ih =>
    have hgives := isFlagToken_iff.mp hflag
    have hplain : startsDash next = false := eq_false_of_ne_true hdash
    have hvalue : (Position.mk (some token) next rest.head?).Plays .value :=
      ⟨⟨token, rfl, hgives⟩, hplain⟩
    have hskipped : ¬ GivesFlags next := fun h => hdash h.1
    have htaken : Position.taken? ⟨before, token, some next⟩ = some next := by
      simp [Position.taken?, Option.filter_some, hplain]
    rw [positionsAfter, gathered_flag hgives, positionsAfter, gathered_value hvalue,
      ← ih (free_of_not_givesFlags hskipped rest), hsplit, List.head?_cons, htaken]
    rfl
  | case6 token next rest hflag writes arguments hsplit ih =>
    have hplain := isFlagToken_eq_false_iff.mp (eq_false_of_ne_true hflag)
    rw [positionsAfter, gathered_argument (hfree.plays_argument hplain _),
      ← ih (free_of_not_givesFlags hplain _), hsplit]

/-- The parser makes one pass over the tokens, and what it gathers is what each position calls
for. -/
theorem splitTokens_eq (tokens : List String) :
    splitTokens tokens = gathered (positions tokens) := by
  have hfree : Free none tokens := by
    rintro ⟨flag, hflag, -⟩
    cases hflag
  rw [hfree.splitTokens_eq, positions_eq]

/-- Flags and arguments are those of the positions. The arguments are the tokens at the positions
that play this role, in order. Every token has one role, and is the value of a flag exactly if the
flag before it takes it. The flags are in the order in which they were first set, and each holds
what it was set to last. -/
theorem parseFlags_by_position (tokens : List String) :
    (parseFlags tokens).2 =
        ((positions tokens).filter (Position.Plays · .argument)).map Position.token ∧
      (∀ position ∈ positions tokens, ∃! role, position.Plays role) ∧
      (∀ i position next, (positions tokens)[i]? = some position →
        (positions tokens)[i + 1]? = some next →
        (next.Plays .value ↔ position.Plays .flag ∧ position.taken? = some next.token)) ∧
      (parseFlags tokens).1.keys =
        (((positions tokens).flatMap Position.writes).map Prod.fst).eraseDups ∧
      ∀ key, (parseFlags tokens).1.get? key =
        ((positions tokens).flatMap Position.writes).reverse.lookup key := by
  have hsplit := splitTokens_eq tokens
  refine ⟨congrArg Prod.snd hsplit, fun position _ => position.existsUnique_role,
    fun i position next => plays_value_iff, ?_, fun key => ?_⟩
  · rw [parseFlags, Slots.keys_ofList, hsplit, gathered]
  · rw [parseFlags, Slots.get?_ofList_eq_lookup, hsplit, gathered]

/-- A group that names a flag twice, a lone dash, a flag without a name, and a flag that is given
again. -/
example :
    parseFlags ["-aba", "x", "-", "--", "y", "y", "-a"] =
      (⟨[("a", .present true), ("b", .present true), ("", .text "y")], by decide⟩, ["-", "y"]) := by
  decide +kernel

end SlashLine.Command
