import Mathlib.Data.Nat.Find
import SlashLine.Proofs.Recovery.Tracking

/-!
# One recovery, attempt by attempt

An attempt waits and then calls the action, where there is one. What a recovery does is settled by
the first attempt that succeeds, or fails so that nobody can tell why: the recovery goes on to that
one, else until none is left, unless it comes to an attempt whose wait is beyond every number. The
course is an induction over the attempts that are left, along which the action moves on by one call
and the count by one attempt.

* `Settles`, `ComesTo`: what settles a recovery, and the attempt that it comes to.
* `Attempted`: the deeds of attempts that come one after the other.
* `runAttempts_makes`: the course of a recovery, from where it comes to.
* `Engine.recover_follows_actions`: what comes of a recovery, what it did, and what it leaves.
* `Works`, `GoesTo`, `Engine.recover_follows_script`: the same where every failure can be told.
-/

namespace SlashLine.Recovery

/-! ## What settles a recovery -/

/-- How an attempt settles a recovery, the attempts being counted from one: without an action each
of them is a recovery, with an action one whose call succeeds; a call that fails with a fault that
has no text breaks the recovery off. -/
inductive Settles : Option Action → Nat → Ending → Prop
  | waited {i : Nat} : Settles none (i + 1) .recovered
  | called {perform : Action} {i : Nat} (hcall : perform i = .ok ()) :
      Settles (some perform) (i + 1) .recovered
  | broken {perform : Action} {i : Nat} {fault trouble : Fault} (hcall : perform i = .error fault)
      (hmessage : fault.message = .error trouble) :
      Settles (some perform) (i + 1) (.broken trouble)

theorem Settles.unique {action : Option Action} {i : Nat} {ending ending' : Ending}
    (h : Settles action i ending) (h' : Settles action i ending') : ending = ending' := by
  cases h with
  | waited =>
    cases h'
    rfl
  | called hcall =>
    cases h' with
    | called => rfl
    | broken hcall' =>
      rw [hcall] at hcall'
      cases hcall'
  | broken hcall hmessage =>
    cases h' with
    | called hcall' =>
      rw [hcall] at hcall'
      cases hcall'
    | broken hcall' hmessage' =>
      rw [hcall] at hcall'
      cases hcall'
      rw [hmessage] at hmessage'
      cases hmessage'
      rfl

/-- The attempt that a recovery comes to, and how it ends there: the first one that settles it
among those that are left, else the last of them. -/
inductive ComesTo (settles : Nat → Ending → Prop) (left : Nat) : Nat → Ending → Prop
  | settled {k : Nat} {ending : Ending} (hfirst : 0 < k) (hleft : k ≤ left)
      (hsettles : settles k ending) (hbefore : ∀ i e, 0 < i → i < k → ¬ settles i e) :
      ComesTo settles left k ending
  | exhausts (hnone : ∀ i e, 0 < i → i ≤ left → ¬ settles i e) :
      ComesTo settles left left .exhausted

/-- The attempts end with the first one that settles the matter, or when none is left. -/
theorem exists_comesTo (settles : Nat → Ending → Prop) (left : Nat) :
    ∃ k ending, ComesTo settles left k ending := by
  classical
  by_cases h : ∃ i, 0 < i ∧ i ≤ left ∧ ∃ e, settles i e
  · obtain ⟨hfirst, hleft, ending, hsettles⟩ := Nat.find_spec h
    exact ⟨Nat.find h, ending, .settled hfirst hleft hsettles fun i e hi hlt hearlier =>
      Nat.find_min h hlt ⟨hi, by omega, e, hearlier⟩⟩
  · exact ⟨left, .exhausted, .exhausts fun i e hi hle hsettles => h ⟨i, hi, hle, e, hsettles⟩⟩

namespace ComesTo

variable {settles : Nat → Ending → Prop} {left k : Nat} {ending : Ending}

theorem of_none_left (h : ComesTo settles 0 k ending) : k = 0 ∧ ending = .exhausted := by
  cases h with
  | settled hfirst hleft => omega
  | exhausts => exact ⟨rfl, rfl⟩

theorem pos (h : ComesTo settles (left + 1) k ending) : 0 < k := by
  cases h with
  | settled hfirst => exact hfirst
  | exhausts => exact Nat.succ_pos left

/-- If the first attempt settles the matter, it is the last one. -/
theorem of_settles {first : Ending} (h : ComesTo settles (left + 1) k ending)
    (hone : settles 1 first) (hunique : ∀ e, settles 1 e → e = first) :
    k = 1 ∧ ending = first := by
  cases h with
  | settled hfirst hleft hsettles hbefore =>
    obtain rfl : k = 1 := by
      by_contra hne
      exact hbefore 1 first Nat.one_pos (by omega) hone
    exact ⟨rfl, hunique ending hsettles⟩
  | exhausts hnone => exact absurd hone (hnone 1 first Nat.one_pos (Nat.succ_pos left))

/-- After an attempt that does not settle it the recovery goes on with the later ones. -/
theorem of_not_settles (h : ComesTo settles (left + 1) k ending) (hone : ∀ e, ¬ settles 1 e) :
    ∃ later, k = later + 1 ∧ ComesTo (fun i => settles (i + 1)) left later ending := by
  cases h with
  | settled hfirst hleft hsettles hbefore =>
    obtain ⟨later, rfl⟩ : ∃ later, k = later + 1 := ⟨k - 1, by omega⟩
    have hpos : 0 < later := by
      by_contra hzero
      obtain rfl : later = 0 := by omega
      exact hone ending hsettles
    exact ⟨later, rfl, .settled hpos (by omega) hsettles fun i e _ hlt =>
      hbefore (i + 1) e (Nat.succ_pos i) (by omega)⟩
  | exhausts hnone =>
    exact ⟨left, rfl, .exhausts fun i e _ hle => hnone (i + 1) e (Nat.succ_pos i) (by omega)⟩

end ComesTo

/-! ## The deeds of a course -/

/-- What attempts do that come one after the other, so many of them after those made before: each
waits for as long as its number says, and then calls the action once, if there is one. -/
def Attempted (wait? : Nat → Option Binary64) (call? : Option String) (made waited : Nat)
    (deeds : List Deed) : Prop :=
  ∃ delays : List Binary64, delays.map some = (List.range' (made + 1) waited).map wait? ∧
    deeds = delays.flatMap fun delay => .wait delay :: (call?.map Deed.call).toList

/-- A course of so many attempts after those made before, so many of which have a wait. -/
structure Course.Makes (c : Course) (wait? : Nat → Option Binary64) (call? : Option String)
    (made waited tried : Nat) (ending : Ending) : Prop where
  deeds : Attempted wait? call? made waited c.deeds
  attempts : c.attempts = tried
  ending : c.ending = ending

section

variable {wait? : Nat → Option Binary64} {call? : Option String} {label : String}
  {made waited tried : Nat} {delay : Binary64} {deeds : List Deed} {ending : Ending}

theorem attempted_none : Attempted wait? call? made 0 [] := ⟨[], rfl, rfl⟩

/-- One more attempt before others is one more wait and one more call. -/
theorem Attempted.cons (h : Attempted wait? call? (made + 1) waited deeds)
    (hwait : wait? (made + 1) = some delay) :
    Attempted wait? call? made (waited + 1)
      (.wait delay :: (call?.map Deed.call).toList ++ deeds) := by
  obtain ⟨delays, hdelays, rfl⟩ := h
  refine ⟨delay :: delays, ?_, rfl⟩
  rw [List.map_cons, hdelays, List.range'_succ, List.map_cons, hwait]

theorem Course.Makes.after {c : Course}
    (h : c.Makes wait? (some label) (made + 1) waited tried ending)
    (hwait : wait? (made + 1) = some delay) :
    (c.after delay label).Makes wait? (some label) made (waited + 1) (tried + 1) ending where
  deeds := h.deeds.cons hwait
  attempts := congrArg (· + 1) h.attempts
  ending := h.ending

end

/-- The course of a recovery that comes to an attempt: it makes the attempts up to that one, or
those up to the first one without a wait. The numbers with a wait are those below the limit. -/
theorem runAttempts_makes {wait? : Nat → Option Binary64} {limit : Nat}
    (hlimit : ∀ n, wait? n = none ↔ limit ≤ n) (label : String) (action : Option Action)
    {left k : Nat} {ending : Ending} (made call : Nat)
    (h : ComesTo (fun i => Settles action (call + i)) left k ending) :
    (k = 0 ∨ made + k < limit →
      (runAttempts wait? label action left made call).Makes wait? (action.map fun _ => label)
        made k k ending) ∧
    (k ≠ 0 → limit ≤ made + k →
      (runAttempts wait? label action left made call).Makes wait? (action.map fun _ => label)
        made (limit - 1 - made) (limit - 1 - made + 1) .overflowed) := by
  induction left generalizing made call k with
  | zero =>
    obtain ⟨rfl, rfl⟩ := h.of_none_left
    exact ⟨fun _ => ⟨attempted_none, rfl, rfl⟩, fun hk => absurd rfl hk⟩
  | succ left ih =>
    rw [runAttempts]
    cases hwait : wait? (made + 1) with
    | none =>
      have hover : limit ≤ made + 1 := (hlimit _).mp hwait
      have hpos : 0 < k := h.pos
      refine ⟨fun hk => by omega, fun _ _ => ?_⟩
      have hnone : limit - 1 - made = 0 := by omega
      rw [hnone]
      exact ⟨attempted_none, rfl, rfl⟩
    | some delay =>
      have hbelow : made + 1 < limit := by
        by_contra hover
        rw [(hlimit _).mpr (by omega)] at hwait
        cases hwait
      -- An attempt that settles the recovery is its only one.
      have honly : ∀ first, Settles action (call + 1) first → k = 1 ∧ ending = first :=
        fun first hone => h.of_settles hone fun e he => he.unique hone
      cases action with
      | none =>
        obtain ⟨rfl, rfl⟩ := honly _ .waited
        exact ⟨fun _ => ⟨attempted_none.cons hwait, rfl, rfl⟩, fun _ hover => by omega⟩
      | some perform =>
        dsimp only
        cases hcall : perform call with
        | ok done =>
          obtain ⟨rfl, rfl⟩ := honly _ (.called hcall)
          exact ⟨fun _ => ⟨attempted_none.cons hwait, rfl, rfl⟩, fun _ hover => by omega⟩
        | error fault =>
          dsimp only
          cases hmessage : fault.message with
          | error trouble =>
            obtain ⟨rfl, rfl⟩ := honly _ (.broken hcall hmessage)
            exact ⟨fun _ => ⟨attempted_none.cons hwait, rfl, rfl⟩, fun _ hover => by omega⟩
          | ok text =>
            obtain ⟨later, rfl, hlater⟩ := h.of_not_settles fun e hsettles => by
              cases hsettles with
              | called hcalled =>
                rw [hcall] at hcalled
                cases hcalled
              | broken hcalled hbroken =>
                rw [hcall] at hcalled
                cases hcalled
                rw [hmessage] at hbroken
                cases hbroken
            -- The attempts that are left go by the action from its next call on.
            have hshift : (fun i => Settles (some perform) (call + (i + 1))) =
                fun i => Settles (some perform) (call + 1 + i) := by
              funext i
              rw [Nat.add_assoc, Nat.add_comm 1 i]
            rw [hshift] at hlater
            obtain ⟨hmakes, hovers⟩ := ih (made + 1) (call + 1) hlater
            refine ⟨fun hk => (hmakes (by omega)).after hwait, fun _ hover => ?_⟩
            have hone : limit - 1 - made = limit - 1 - (made + 1) + 1 := by omega
            rw [hone]
            exact (hovers (by omega) (by omega)).after hwait

/-- The second call succeeds, so there is no third attempt. -/
example :
    (runAttempts (fun n => Backoff.second.delay? n) "retry"
      (some (Script.ofList [false, true, true]).action) 3 0 0).deeds.filterMap Deed.label? =
        ["retry", "retry"] := by
  decide +kernel

/-! ## A recovery on behalf of a session -/

/-- There is no delay from the attempt on whose power of two overflows. -/
theorem Backoff.delay?_eq_none_iff (b : Backoff) (n : Nat) : b.delay? n = none ↔ 1024 ≤ n := by
  constructor
  · intro hnone
    by_contra hbelow
    have hsome : (b.delay? n).isSome = true := b.delay?_isSome (by omega)
    rw [hnone] at hsome
    cases hsome
  · intro hover
    have hpower : (1024 : Int) ≤ n := by omega
    rw [delay?]
    split
    · rfl
    · unfold Binary64.scale?
      exact if_pos hpower

/-- The action that a recovery calls after each wait, under its label: the one bound to the first
label of the report, unless that is empty. -/
inductive Bound {α : Type} (report : Report) (actions : Slots String α) :
    Option (String × α) → Prop
  | first {label : String} {later : List String} {action : α}
      (hlabels : report.labels = label :: later) (hlabel : label ≠ "")
      (haction : actions.get? label = some action) : Bound report actions (some (label, action))
  | none (hnone : ∀ label later, report.labels = label :: later → label ≠ "" →
      label ∉ actions.keys) : Bound report actions none

section

variable {α : Type} {report : Report} {actions : Slots String α} {bound : Option (String × α)}

theorem actionLabel?_eq {label : String} {later : List String}
    (hlabels : report.labels = label :: later) (hlabel : label ≠ "") :
    actionLabel? report = some label := by
  rw [actionLabel?, hlabels, List.head?_cons]
  simp [hlabel]

theorem Bound.action (h : Bound report actions bound) :
    actionFor? report actions = bound.map Prod.snd := by
  cases h with
  | first hlabels hlabel haction =>
    rw [actionFor?, actionLabel?_eq hlabels hlabel, Option.bind_some, haction]
    rfl
  | none hnone =>
    apply Option.not_isSome_iff_eq_none.mp
    intro hsome
    obtain ⟨label, later, hlabels, hlabel, hkey⟩ := actionFor?_isSome_iff.mp hsome
    exact hnone label later hlabels hlabel hkey

theorem Bound.label (h : Bound report actions bound) :
    (actionFor? report actions).map (fun _ => (actionLabel? report).getD "") =
      bound.map Prod.fst := by
  rw [h.action]
  cases h with
  | first hlabels hlabel haction =>
    rw [actionLabel?_eq hlabels hlabel]
    rfl
  | none => rfl

theorem exists_bound (report : Report) (actions : Slots String α) :
    ∃ bound, Bound report actions bound := by
  cases haction : actionFor? report actions with
  | none =>
    refine ⟨none, .none fun label later hlabels hlabel hkey => ?_⟩
    have hsome := actionFor?_isSome_iff.mpr ⟨label, later, hlabels, hlabel, hkey⟩
    rw [haction] at hsome
    cases hsome
  | some action =>
    obtain ⟨label, later, hlabels, hlabel, -⟩ :=
      actionFor?_isSome_iff.mp (Option.isSome_iff_exists.mpr ⟨action, haction⟩)
    rw [actionFor?, actionLabel?_eq hlabels hlabel, Option.bind_some] at haction
    exact ⟨some (label, action), .first hlabels hlabel haction⟩

/-- The actions under the same labels, each replaced, are bound to the same label. -/
theorem Bound.map {β : Type} (h : Bound report actions bound) (f : α → β) :
    Bound report (actions.map f) (bound.map fun b => (b.1, f b.2)) := by
  cases h with
  | first hlabels hlabel haction =>
    refine .first hlabels hlabel ?_
    rw [Slots.get?_map, haction]
    rfl
  | none hnone =>
    refine .none fun label later hlabels hlabel => ?_
    rw [Slots.keys_map]
    exact hnone label later hlabels hlabel

/-- Whether a report is retried does not depend on what the actions do. -/
theorem retried_map_iff {β : Type} (f : α → β) :
    Retried report (actions.map f) ↔ Retried report actions := by
  simp only [Retried, Slots.keys_map]

end

namespace Engine

/-- What a recovery on behalf of a session does and leaves behind: so many attempts, so many of
which have a wait, and the attempts are charged to the session. -/
structure Makes (before : Engine) (session : Option String) (call? : Option String)
    (waited tried : Nat) (effects : Effects) (after : Engine) : Prop where
  deeds : Attempted (before.backoff.delay? ·) call?
    (before.sessions.count (Sessions.key session)) waited effects.deeds
  charged : before.sessions.Charged after.sessions (Sessions.key session) tried
  log : after.log = before.log
  backoff : after.backoff = before.backoff

section

variable {engine : Engine} {report : Report} {session : Option String} {maxRetries : Int}
  {actions : Slots String Action}

/-- What an engine does for a report is the course of its attempts, charged to the session. -/
theorem makes_of_courseFor {call? : Option String} {waited tried : Nat} {ending : Ending}
    (hretried : Retried report actions)
    (hcourse : (engine.courseFor report session maxRetries actions).Makes
      (engine.backoff.delay? ·) call? (engine.sessions.count (Sessions.key session)) waited tried
      ending) :
    (engine.recover report session maxRetries actions).1 = ending.result report tried ∧
    engine.Makes session call? waited tried
      (engine.recover report session maxRetries actions).2.1
      (engine.recover report session maxRetries actions).2.2 := by
  rw [engine.recover_eq_of_retried session maxRetries hretried, Course.result, hcourse.attempts,
    hcourse.ending]
  exact ⟨rfl, hcourse.deeds, engine.charged_charged _ _, rfl, rfl⟩

/-- The attempts come to their ending if the counter stays below the overflow. Otherwise they come
to the overflow, and one attempt more is charged than was waited for. -/
theorem recover_of_comesTo (hretried : Retried report actions) {bound : Option (String × Action)}
    {k : Nat} {ending : Ending} (hbound : Bound report actions bound)
    (hcomes : ComesTo (Settles (bound.map Prod.snd))
      (maxRetries - engine.sessions.count (Sessions.key session)).toNat k ending) :
    (k = 0 ∨ engine.sessions.count (Sessions.key session) + k < 1024 →
      (engine.recover report session maxRetries actions).1 = ending.result report k ∧
      engine.Makes session (bound.map Prod.fst) k k
        (engine.recover report session maxRetries actions).2.1
        (engine.recover report session maxRetries actions).2.2) ∧
    (k ≠ 0 → 1024 ≤ engine.sessions.count (Sessions.key session) + k →
      (engine.recover report session maxRetries actions).1 = .error Backoff.overflow ∧
      engine.Makes session (bound.map Prod.fst)
        (1023 - engine.sessions.count (Sessions.key session))
        (1023 - engine.sessions.count (Sessions.key session) + 1)
        (engine.recover report session maxRetries actions).2.1
        (engine.recover report session maxRetries actions).2.2) := by
  have hfrom : ComesTo (fun i => Settles (actionFor? report actions) (0 + i))
      (maxRetries - engine.sessions.count (Sessions.key session)).toNat k ending := by
    simp only [Nat.zero_add, hbound.action]
    exact hcomes
  obtain ⟨hmakes, hovers⟩ := runAttempts_makes engine.backoff.delay?_eq_none_iff
    ((actionLabel? report).getD "") (actionFor? report actions)
    (engine.sessions.count (Sessions.key session)) 0 hfrom
  rw [hbound.label] at hmakes hovers
  exact ⟨fun hk => makes_of_courseFor hretried (hmakes hk),
    fun hk hover => makes_of_courseFor hretried (hovers hk hover)⟩

/-- Without anything to try nothing is done. Otherwise a recovery comes to the first attempt that
settles it among those left for the session, else until none is left: it makes the attempts up to
there and ends as that attempt does. A call that fails with a fault that has no text is one that
settles it: the trouble with the text is all that comes of the recovery, and the attempts made up to
there are charged to the session. Only an attempt with a number beyond 1023 ends it earlier. -/
theorem recover_follows_actions (engine : Engine) (report : Report) (session : Option String)
    (maxRetries : Int) (actions : Slots String Action) :
    let made := engine.sessions.count (Sessions.key session)
    let done := engine.recover report session maxRetries actions
    (¬ Retried report actions → done = (.ok ⟨report, false, false, 0⟩, {}, engine)) ∧
    (Retried report actions → ∃ bound k ending, Bound report actions bound ∧
      ComesTo (Settles (bound.map Prod.snd)) (maxRetries - made).toNat k ending ∧
      (k = 0 ∨ made + k < 1024 →
        done.1 = ending.result report k ∧
        engine.Makes session (bound.map Prod.fst) k k done.2.1 done.2.2) ∧
      (k ≠ 0 → 1024 ≤ made + k →
        done.1 = .error Backoff.overflow ∧
        engine.Makes session (bound.map Prod.fst) (1023 - made) (1023 - made + 1) done.2.1
          done.2.2)) := by
  intro made done
  refine ⟨fun hnot => recover_of_not_retried hnot, fun hretried => ?_⟩
  obtain ⟨bound, hbound⟩ := exists_bound report actions
  obtain ⟨k, ending, hcomes⟩ := exists_comesTo (Settles (bound.map Prod.snd))
    (maxRetries - engine.sessions.count (Sessions.key session)).toNat
  exact ⟨bound, k, ending, hbound, hcomes, recover_of_comesTo hretried hbound hcomes⟩

end

end Engine

/-! ## Actions whose failures can be told -/

/-- The attempts that work, counted from one: without an action each of them does, with an action
those whose call succeeds. -/
inductive Works : Option Script → Nat → Prop
  | waited {i : Nat} : Works none (i + 1)
  | called {script : Script} {i : Nat} (hcall : script i = true) : Works (some script) (i + 1)

/-- The attempt that a recovery goes to, and whether it works: the first one that does among those
that are left, else the last of them. -/
inductive GoesTo (works : Nat → Prop) (left : Nat) : Nat → Bool → Prop
  | recovers {k : Nat} (hfirst : 0 < k) (hleft : k ≤ left) (hworks : works k)
      (hbefore : ∀ i, 0 < i → i < k → ¬ works i) : GoesTo works left k true
  | exhausts (hnone : ∀ i, 0 < i → i ≤ left → ¬ works i) : GoesTo works left left false

/-- How a recovery ends that only a working attempt settles. -/
def endingOf (recovered : Bool) : Ending := if recovered then .recovered else .exhausted

/-- An action that follows a script settles the matter only by working. -/
theorem settles_action_iff {script : Option Script} {i : Nat} {ending : Ending} :
    Settles (script.map Script.action) i ending ↔ Works script i ∧ ending = .recovered := by
  cases script with
  | none =>
    constructor
    · rintro ⟨⟩
      exact ⟨.waited, rfl⟩
    · rintro ⟨hworks, rfl⟩
      cases hworks with
      | waited => exact .waited
  | some script =>
    constructor
    · intro h
      rw [Option.map_some] at h
      cases h with
      | @called _ i hcall =>
        refine ⟨.called ?_, rfl⟩
        by_contra hfails
        rw [Script.action, if_neg hfails] at hcall
        cases hcall
      | @broken _ i fault trouble hcall hmessage =>
        rw [Script.action] at hcall
        split at hcall
        · cases hcall
        · cases hcall
          cases hmessage
    · rintro ⟨hworks, rfl⟩
      cases hworks with
      | called hcall => exact .called (if_pos hcall)

/-- So the attempts with a script go to a working one, or are exhausted. -/
theorem exists_goesTo (script : Option Script) (left : Nat) :
    ∃ k recovered, GoesTo (Works script) left k recovered ∧
      ComesTo (Settles (script.map Script.action)) left k (endingOf recovered) := by
  obtain ⟨k, ending, hcomes⟩ := exists_comesTo (Settles (script.map Script.action)) left
  cases hcomes with
  | settled hfirst hleft hsettles hbefore =>
    obtain ⟨hworks, rfl⟩ := settles_action_iff.mp hsettles
    refine ⟨k, true, .recovers hfirst hleft hworks fun i hi hlt hearlier => ?_,
      .settled hfirst hleft hsettles hbefore⟩
    exact hbefore i _ hi hlt (settles_action_iff.mpr ⟨hearlier, rfl⟩)
  | exhausts hnone =>
    refine ⟨left, false, .exhausts fun i hi hle hworks => ?_, .exhausts hnone⟩
    exact hnone i _ hi hle (settles_action_iff.mpr ⟨hworks, rfl⟩)

theorem endingOf_result (report : Report) (attempts : Nat) (recovered : Bool) :
    (endingOf recovered).result report attempts =
      .ok ⟨if recovered then downgraded report else report, recovered, !recovered, attempts⟩ := by
  cases recovered <;> rfl

namespace Engine

/-- With a script for each action a recovery ends recovered or exhausted, or comes to the
overflow. -/
theorem recover_of_script {engine : Engine} {report : Report} {session : Option String}
    {maxRetries : Int} {scripts : Slots String Script} {bound : Option (String × Script)} {k : Nat}
    {recovered : Bool} (hretried : Retried report scripts) (hbound : Bound report scripts bound)
    (hcomes : ComesTo (Settles ((bound.map Prod.snd).map Script.action))
      (maxRetries - engine.sessions.count (Sessions.key session)).toNat k (endingOf recovered)) :
    (k = 0 ∨ engine.sessions.count (Sessions.key session) + k < 1024 →
      (engine.recover report session maxRetries (scripts.map Script.action)).1 =
        .ok ⟨if recovered then downgraded report else report, recovered, !recovered, k⟩ ∧
      engine.Makes session (bound.map Prod.fst) k k
        (engine.recover report session maxRetries (scripts.map Script.action)).2.1
        (engine.recover report session maxRetries (scripts.map Script.action)).2.2) ∧
    (k ≠ 0 → 1024 ≤ engine.sessions.count (Sessions.key session) + k →
      (engine.recover report session maxRetries (scripts.map Script.action)).1 =
        .error Backoff.overflow ∧
      engine.Makes session (bound.map Prod.fst)
        (1023 - engine.sessions.count (Sessions.key session))
        (1023 - engine.sessions.count (Sessions.key session) + 1)
        (engine.recover report session maxRetries (scripts.map Script.action)).2.1
        (engine.recover report session maxRetries (scripts.map Script.action)).2.2) := by
  have hsnd : (bound.map fun b => (b.1, b.2.action)).map Prod.snd =
      (bound.map Prod.snd).map Script.action := by
    rw [Option.map_map, Option.map_map]
    rfl
  have hfst : (bound.map fun b => (b.1, b.2.action)).map Prod.fst = bound.map Prod.fst := by
    rw [Option.map_map]
    rfl
  rw [← hsnd] at hcomes
  have hdone := recover_of_comesTo ((retried_map_iff _).mpr hretried) (hbound.map Script.action)
    hcomes
  rw [hfst, endingOf_result] at hdone
  exact hdone

/-- Without anything to try nothing is done. Otherwise a recovery goes to the first attempt that
works among those left for the session, else until none is left: it makes the attempts up to there
and ends as that attempt does, a report that was recovered from being of low severity and saying so.
Only an attempt with a number beyond 1023 ends it earlier, with the one fault there can be. -/
theorem recover_follows_script (engine : Engine) (report : Report) (session : Option String)
    (maxRetries : Int) (scripts : Slots String Script) :
    let made := engine.sessions.count (Sessions.key session)
    let done := engine.recover report session maxRetries (scripts.map Script.action)
    let suffixed := { report with
      severity := .low, userMessage := report.userMessage ++ " (Automatically recovered)" }
    let overflow := Fault.other "OverflowError" "int too large to convert to float"
    (¬ Retried report scripts → done = (.ok ⟨report, false, false, 0⟩, {}, engine)) ∧
    (Retried report scripts → ∃ bound k recovered, Bound report scripts bound ∧
      GoesTo (Works (bound.map Prod.snd)) (maxRetries - made).toNat k recovered ∧
      (k = 0 ∨ made + k < 1024 →
        done.1 = .ok ⟨if recovered then suffixed else report, recovered, !recovered, k⟩ ∧
        engine.Makes session (bound.map Prod.fst) k k done.2.1 done.2.2) ∧
      (k ≠ 0 → 1024 ≤ made + k →
        done.1 = .error overflow ∧
        engine.Makes session (bound.map Prod.fst) (1023 - made) (1023 - made + 1) done.2.1
          done.2.2)) ∧
    ∀ e, done.1 = .error e → e = overflow := by
  intro made done suffixed overflow
  have hretry : Retried report (scripts.map Script.action) ↔ Retried report scripts :=
    retried_map_iff Script.action
  obtain ⟨bound, hbound⟩ := exists_bound report scripts
  obtain ⟨k, recovered, hgoes, hcomes⟩ := exists_goesTo (bound.map Prod.snd)
    (maxRetries - engine.sessions.count (Sessions.key session)).toNat
  refine ⟨fun hnot => recover_of_not_retried fun h => hnot (hretry.mp h),
    fun hretried => ⟨bound, k, recovered, hbound, hgoes,
      recover_of_script hretried hbound hcomes⟩, fun e herror => ?_⟩
  by_cases hretried : Retried report scripts
  · obtain ⟨hwithin, hbeyond⟩ := recover_of_script hretried hbound hcomes
    by_cases hk : k = 0 ∨ made + k < 1024
    · cases (hwithin hk).1.symm.trans herror
    · have hover := (hbeyond (by omega) (by omega)).1
      exact (Except.error.inj (hover.symm.trans herror)).symm
  · have hnot : done = _ := recover_of_not_retried fun h => hretried (hretry.mp h)
    rw [hnot] at herror
    cases herror

end Engine

end SlashLine.Recovery
