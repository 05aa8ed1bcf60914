import SlashLine.Proofs.Recovery.Tracking

/-!
# Budgets and waits over whole runs

The attempts of a session are numbered from the moment it is tracked on, whatever calls they belong
to. Each one waits for as long as its number says and is made only while the number is within the
budget of its call. Both are facts about the attempts in the ledger that every request keeps,
`InStep`; how long a session has waited and how often it was tried with one budget follow from it.

* `InStep`: attempts that go on where the ones before them have stopped.
* `Engine.LeadsTo.inStep`: the attempts of every session are in step, after any requests.
* `Engine.count_after_le`: no call charges a session beyond the budget of the call.
* `Engine.LeadsTo.waits_go_on`: the waits, the budgets, and what a fault is charged to.
-/

namespace SlashLine.Recovery

open Ledger

/-! ## Attempts in step -/

/-- Attempts, the newest first: each was made within its budget, counting those before it, and
waited for as long as its number says. -/
inductive InStep (wait? : Nat → Option Binary64) : List Attempt → Prop
  | nil : InStep wait? []
  | cons {a : Attempt} {made : List Attempt} (hmade : InStep wait? made)
      (hbudget : (made.length : Int) < a.budget) (hwait : a.wait = wait? (made.length + 1)) :
      InStep wait? (a :: made)

/-- The waits for a session, the first one first. -/
def Ledger.sleeps (limit : Nat) (k : String) (past : Ledger) : List Binary64 :=
  (attempts limit k past).reverse.filterMap Attempt.wait

theorem map_some_filterMap_wait {made : List Attempt} (h : ∀ a ∈ made, a.wait.isSome) :
    (made.filterMap Attempt.wait).map some = made.map Attempt.wait := by
  induction made with
  | nil => rfl
  | cons a made ih =>
    obtain ⟨wait, hwait⟩ := Option.isSome_iff_exists.mp (h a List.mem_cons_self)
    have hlater := ih fun a' ha' => h a' (List.mem_cons_of_mem a ha')
    rw [List.filterMap_cons_some hwait, List.map_cons, List.map_cons, hlater, hwait]

theorem getElem?_of_map_some {sleeps : List Binary64} {n : Nat} {wait? : Nat → Option Binary64}
    (h : sleeps.map some = (List.range' 1 n).map wait?) :
    sleeps.length = n ∧ ∀ i < n, sleeps[i]? = wait? (i + 1) := by
  refine ⟨?_, fun i hi => ?_⟩
  · have hlengths := congrArg List.length h
    rwa [List.length_map, List.length_map, List.length_range'] at hlengths
  · have hith := congrArg (·[i]?) h
    have hnumber : 1 + 1 * i = i + 1 := by omega
    rw [List.getElem?_map, List.getElem?_map, List.getElem?_range' hi, hnumber] at hith
    obtain ⟨wait, hwait, heq⟩ := Option.map_eq_some_iff.mp hith
    rw [hwait]
    exact heq

namespace InStep

variable {wait? : Nat → Option Binary64} {made : List Attempt}

/-- A call makes its attempts with the numbers that come next, as long as its budget lasts. -/
theorem more (h : InStep wait? made) {budget : Int} {n : Nat}
    (hn : n ≤ (budget - made.length).toNat) :
    InStep wait? (((List.range' (made.length + 1) n).map fun i =>
      (⟨budget, wait? i⟩ : Attempt)).reverse ++ made) := by
  induction n with
  | zero => exact h
  | succ n ih =>
    have hbefore := ih (by omega)
    have hlength : (((List.range' (made.length + 1) n).map fun i =>
        (⟨budget, wait? i⟩ : Attempt)).reverse ++ made).length = made.length + n := by
      rw [List.length_append, List.length_reverse, List.length_map, List.length_range',
        Nat.add_comm]
    rw [List.range'_1_concat, List.map_append, List.reverse_append, List.append_assoc]
    generalize ((List.range' (made.length + 1) n).map fun i =>
      (⟨budget, wait? i⟩ : Attempt)).reverse ++ made = sofar at hbefore hlength ⊢
    refine .cons hbefore ?_ ?_
    · show (sofar.length : Int) < budget
      omega
    · show wait? (made.length + 1 + n) = wait? (sofar.length + 1)
      rw [hlength, Nat.add_right_comm]

theorem waits (h : InStep wait? made) :
    made.reverse.map Attempt.wait = (List.range' 1 made.length).map wait? := by
  induction h with
  | nil => rfl
  | @cons a made hmade hbudget hwait ih =>
    rw [List.reverse_cons, List.map_append, ih, List.length_cons, List.range'_1_concat,
      List.map_append, List.map_singleton, List.map_singleton, hwait, Nat.add_comm 1]

/-- As long as there is a wait for every number, there was one for every attempt. -/
theorem sleeps (h : InStep wait? made) (hwaits : ∀ i ≤ made.length, (wait? i).isSome) :
    (made.reverse.filterMap Attempt.wait).map some = (List.range' 1 made.length).map wait? := by
  rw [← h.waits]
  refine map_some_filterMap_wait fun a ha => ?_
  have hmem : a.wait ∈ (List.range' 1 made.length).map wait? := by
    rw [← h.waits]
    exact List.mem_map_of_mem ha
  obtain ⟨i, hi, hwait⟩ := List.mem_map.mp hmem
  rw [← hwait]
  obtain ⟨j, hj, rfl⟩ := List.mem_range'.mp hi
  exact hwaits (1 + 1 * j) (by omega)

/-- With one budget there are no more attempts than it allows, whatever others were made. -/
theorem length_filter_le (h : InStep wait? made) (budget : Int) :
    ((made.filter (·.budget = budget)).length : Int) ≤ max budget 0 := by
  induction h with
  | nil => exact Int.le_max_right budget 0
  | @cons a made hmade hbudget hwait ih =>
    rw [List.filter_cons]
    split
    · next hsame =>
      have hle := List.length_filter_le (fun a : Attempt => decide (a.budget = budget)) made
      have heq : a.budget = budget := of_decide_eq_true hsame
      rw [List.length_cons]
      omega
    · exact ih

end InStep

/-! ## What requests keep -/

/-- How many attempts a request allows for the session it is made for. -/
def Request.budget? : Request → Option Int
  | .recover _ _ maxRetries _ => some maxRetries
  | .attempt _ _ _ maxRetries _ => some maxRetries
  | .state _ => none
  | .clear => none

/-- Charging a session raises its own count by the attempts made, and no other count. -/
theorem Sessions.Charged.count_le {before after : Sessions} {k : String} {made : Nat}
    (h : before.Charged after k made) (k' : String) :
    after.count k' ≤ before.count k' ∨ k' = k ∧ after.count k' = before.count k + made := by
  by_cases hk : k' = k
  · subst hk
    refine Or.inr ⟨rfl, ?_⟩
    rw [count, h.own]
    rfl
  · refine Or.inl ?_
    by_cases htracked : k' ∈ after.attempts.keys
    · rw [count, h.others k' htracked hk]
      exact Nat.le_refl _
    · rw [count, Slots.get?_of_not_mem htracked]
      exact Nat.zero_le _

namespace Engine

variable {start engine : Engine} {request : Request} {past later : Ledger} {report : Report}
  {session : Option String} {maxRetries : Int} {actions : Slots String Action}

/-- No course makes more attempts than are left of the budget. -/
theorem courseFor_attempts_le (engine : Engine) (report : Report) (session : Option String)
    (maxRetries : Int) (actions : Slots String Action) :
    (engine.courseFor report session maxRetries actions).attempts ≤
      (maxRetries - engine.sessions.count (Sessions.key session)).toNat :=
  attempts_runAttempts_le _ _ _ _ _ _

/-- The attempts of a request go on from where the counter of the session stands. -/
theorem attemptsOf_of_retried (h : Retried report actions) :
    engine.attemptsOf report session maxRetries actions =
      (List.range' (engine.sessions.count (Sessions.key session) + 1)
        (engine.courseFor report session maxRetries actions).attempts).map fun i =>
          ⟨maxRetries, engine.backoff.delay? i⟩ := by
  rw [attemptsOf, (engine.recover_of_retried session maxRetries h).1, courseFor,
    waits_runAttempts, List.map_map]
  rfl

theorem length_attemptsOf_le (h : Retried report actions) :
    (engine.attemptsOf report session maxRetries actions).length ≤
      (maxRetries - engine.sessions.count (Sessions.key session)).toNat := by
  rw [attemptsOf_of_retried h, List.length_map, List.length_range']
  exact engine.courseFor_attempts_le report session maxRetries actions

/-- If the waits so far were in step with the backoff, those after a request are. -/
theorem Writes.inStep (h : engine.Writes request past later)
    (hpast : past.Describes engine.sessions)
    (hbefore : ∀ k, InStep (engine.backoff.delay? ·) (past.attempts engine.sessions.limit k)) :
    ∀ k, InStep (engine.backoff.delay? ·) (later.attempts engine.sessions.limit k) := by
  have htouch : ∀ {engine : Engine} {past : Ledger} (k : String),
      (∀ k', InStep (engine.backoff.delay? ·) (past.attempts engine.sessions.limit k')) →
      ∀ k', InStep (engine.backoff.delay? ·)
        (attempts engine.sessions.limit k' (.touch k :: past)) := by
    intro engine past k hbefore k'
    rw [attempts]
    split
    · exact .nil
    · exact hbefore k'
  induction h with
  | state => exact htouch _ hbefore
  | @retried engine report session maxRetries actions past hretried =>
    intro k
    have htouched := htouch (Sessions.key session) hbefore
    by_cases hk : Sessions.key session = k
    · subst hk
      have hcount := (hpast.touch (Sessions.key session)).counts (Sessions.key session)
        (Sessions.mem_touch_self engine.sessions (Sessions.key session))
      have hlength : (attempts engine.sessions.limit (Sessions.key session)
          (.touch (Sessions.key session) :: past)).length =
          engine.sessions.count (Sessions.key session) := by
        rw [← Sessions.count_touch_self, Sessions.count, hcount]
        rfl
      rw [attempts_afterAttempts_self, attemptsOf_of_retried hretried, ← hlength]
      refine (htouched (Sessions.key session)).more ?_
      rw [hlength]
      exact engine.courseFor_attempts_le report session maxRetries actions
    · rw [attempts_afterAttempts_of_ne hk]
      exact htouched k
  | passedOver hretried => exact hbefore
  | classified hrecord hrecovery ih => exact ih hpast hbefore
  | unclassified hrecord => exact hbefore
  | clear => exact fun _ => .nil

/-- In every history of requests the waits of a session are in step with the backoff. -/
theorem LeadsTo.inStep (hnone : start.sessions.attempts = Slots.empty)
    (h : start.LeadsTo past engine) (k : String) :
    InStep (start.backoff.delay? ·) (past.attempts start.sessions.limit k) := by
  induction h generalizing k with
  | start => exact .nil
  | next hpast hwrites ih =>
    obtain ⟨hbackoff, hlimit⟩ := hpast.settings
    have hbefore := hwrites.inStep (hpast.describes hnone)
    rw [hbackoff, hlimit] at hbefore
    exact hbefore ih k

/-- The counter of a session is the number of its attempts in the history. -/
theorem LeadsTo.length_attempts (hnone : start.sessions.attempts = Slots.empty)
    (h : start.LeadsTo past engine) {k : String} {made : Nat}
    (hmade : engine.sessions.attempts.get? k = some made) :
    (past.attempts start.sessions.limit k).length = made := by
  have htracked : k ∈ engine.sessions.attempts.keys := by
    rw [← Slots.contains_iff, Slots.contains, hmade]
    rfl
  have hcount := (h.describes hnone).counts k htracked
  rw [hmade, h.settings.2] at hcount
  exact (Option.some.inj hcount).symm

/-- A call with a budget charges no session beyond the budget, unless it was beyond it before. -/
theorem count_after_le (engine : Engine) {request : Request} {budget : Int}
    (hbudget : request.budget? = some budget) (k : String) :
    ((engine.after request).sessions.count k : Int) ≤ max budget (engine.sessions.count k) := by
  have hrecover : ∀ (engine : Engine) report session maxRetries actions,
      ((engine.after (.recover report session maxRetries actions)).sessions.count k : Int) ≤
        max maxRetries (engine.sessions.count k) := by
    intro engine report session maxRetries actions
    by_cases hretried : Retried report actions
    · have hmade : (engine.attemptsOf report session maxRetries actions).length ≤
          (maxRetries - engine.sessions.count (Sessions.key session)).toNat :=
        length_attemptsOf_le hretried
      rw [after_of_retried hretried]
      generalize (engine.attemptsOf report session maxRetries actions).length = made at hmade ⊢
      rcases (engine.charged_charged (Sessions.key session) made).count_le k with hle | ⟨hk, heq⟩
      · omega
      · rw [heq, hk]
        omega
    · rw [after_of_not_retried hretried]
      exact Int.le_max_right _ _
  cases request with
  | state session => cases hbudget
  | recover report session maxRetries actions =>
    cases hbudget
    exact hrecover engine report session budget actions
  | attempt fault context session maxRetries actions =>
    cases hbudget
    cases hrecord : engine.log.record fault context with
    | mk outcome log =>
      cases outcome with
      | error e =>
        rw [after_of_unclassified hrecord]
        exact Int.le_max_right _ _
      | ok report =>
        rw [after_of_classified hrecord]
        exact hrecover { engine with log } report _ budget actions
  | clear => cases hbudget

/-! ## Charging a fault -/

/-- The session that a fault is charged to: the one that is given, else the one of the context,
else the unnamed one. An empty id is none. -/
inductive ChargedTo : Option String → Option String → String → Prop
  | given {id : String} {context : Option String} (hid : id ≠ "") : ChargedTo (some id) context id
  | ofContext {session : Option String} {id : String} (hsession : session.getD "" = "")
      (hid : id ≠ "") : ChargedTo session (some id) id
  | unnamed {session context : Option String} (hsession : session.getD "" = "")
      (hcontext : context.getD "" = "") : ChargedTo session context "default"

theorem chargedTo_key (session : Option String) (report : Report) :
    ChargedTo session report.context.sessionId (Sessions.key (chargedSession session report)) := by
  have hgiven : ∀ {id : String}, id ≠ "" → Sessions.key (some id) = id := by
    intro id hid
    exact names_iff.mp (.given hid)
  by_cases hsession : session.getD "" = ""
  · have hpassed : chargedSession session report = report.context.sessionId := by
      cases session with
      | none => rfl
      | some id =>
        have hempty : id = "" := hsession
        subst hempty
        rfl
    rw [hpassed]
    cases hcontext : report.context.sessionId with
    | none => exact .unnamed hsession rfl
    | some id =>
      by_cases hid : id = ""
      · subst hid
        exact .unnamed hsession rfl
      · rw [hgiven hid]
        exact .ofContext hsession hid
  · obtain ⟨id, rfl⟩ : ∃ id, session = some id := by
      cases session with
      | none => exact absurd rfl hsession
      | some id => exact ⟨id, rfl⟩
    have hid : id ≠ "" := hsession
    have hkept : chargedSession (some id) report = some id := by
      simp [chargedSession, Option.filter, hid]
    rw [hkept, hgiven hid]
    exact .given hid

/-- A fault is tried again on behalf of one session, which has its attempts charged. -/
def ChargesTo (engine : Engine) (request : Request) (past : Ledger) (k : String) : Prop :=
  ∃ made, engine.Writes request past (afterAttempts k (.touch k :: past) made) ∧
    engine.sessions.Charged (engine.after request).sessions k made.length

theorem after_attempt {fault : Fault} {context : FaultContext}
    (hreport : engine.log.classifier fault (engine.log.dated context) = .ok report)
    (session : Option String) (maxRetries : Int) (actions : Slots String Action) (past : Ledger) :
    (engine.after (.attempt fault context session maxRetries actions)).log.entries =
      report :: (if engine.log.size < engine.log.capacity
        then engine.log.entries else engine.log.entries.dropLast) ∧
    (Retried report actions → ∃ k, ChargedTo session report.context.sessionId k ∧
      engine.ChargesTo (.attempt fault context session maxRetries actions) past k) ∧
    (¬ Retried report actions →
      (engine.after (.attempt fault context session maxRetries actions)).sessions =
        engine.sessions) := by
  have hrecord := Log.record_of_ok hreport
  refine ⟨?_, fun hretried => ?_, fun hnot => ?_⟩
  · rw [after_of_classified hrecord, log_after_recover]
    exact Log.entries_push engine.log report
  · refine ⟨_, chargedTo_key session report, _, .classified hrecord (.retried hretried), ?_⟩
    rw [after_of_classified hrecord, after_of_retried hretried]
    exact charged_charged _ _ _
  · rw [after_of_classified hrecord, after_of_not_retried hnot]

/-! ## After any requests -/

/-- A tracked session has as many attempts as there were waits for it since it is tracked, and the
waits are those for the numbers one, two and so on, whatever calls they belong to. With one budget a
session is tried no more often than that allows, and no call charges it beyond the budget of the
call. A fault is charged to the session that is given, else to the one of the context, else to the
unnamed one, and its report is logged once, whether it is tried again or not. -/
theorem LeadsTo.waits_go_on (hnone : start.sessions.attempts = Slots.empty)
    (h : start.LeadsTo past engine) :
    (∀ k made, engine.sessions.attempts.get? k = some made → made ≤ 1023 →
      (past.sleeps start.sessions.limit k).length = made ∧
      ∀ i < made, (past.sleeps start.sessions.limit k)[i]? =
        start.backoff.delay? (i + 1 : Nat)) ∧
    (∀ (k : String) (budget : Int),
      (((past.attempts start.sessions.limit k).filter (·.budget = budget)).length : Int) ≤
        max budget 0) ∧
    (∀ (request : Request) (budget : Int) (k : String), request.budget? = some budget →
      ((engine.after request).sessions.count k : Int) ≤ max budget (engine.sessions.count k)) ∧
    ∀ (fault : Fault) (context : FaultContext) (session : Option String) (budget : Int)
      (actions : Slots String Action),
      let request := Request.attempt fault context session budget actions
      (∀ report, engine.log.classifier fault (engine.log.dated context) = .ok report →
        (engine.after request).log.entries = report ::
          (if engine.log.size < engine.log.capacity then engine.log.entries
            else engine.log.entries.dropLast) ∧
        (Retried report actions →
          ∃ k, ChargedTo session report.context.sessionId k ∧ engine.ChargesTo request past k) ∧
        (¬ Retried report actions → (engine.after request).sessions = engine.sessions)) ∧
      ∀ e, engine.log.classifier fault (engine.log.dated context) = .error e →
        engine.after request = engine := by
  refine ⟨fun k made hmade hlimit => ?_,
    fun k budget => (h.inStep hnone k).length_filter_le budget,
    fun request budget k hbudget => engine.count_after_le hbudget k,
    fun fault context session budget actions => ⟨fun report hreport =>
      after_attempt hreport session budget actions past, fun e herror => ?_⟩⟩
  · have hlength := h.length_attempts hnone hmade
    have hwaits := (h.inStep hnone k).sleeps fun i hi =>
      start.backoff.delay?_isSome (Nat.le_trans hi (hlength ▸ hlimit))
    rw [hlength] at hwaits
    exact getElem?_of_map_some hwaits
  · exact after_of_unclassified (Log.record_of_error herror)

/-- Two faults of different kinds on behalf of one session: the second attempt for the first one
succeeds, those for the second one fail. -/
def triedAgain : Engine :=
  (roomForTwo.after (.attempt (.other "TimeoutError" "timed out") { sessionId := some "s" } none 3
    (.ofList [("retry", (Script.ofList [false, true]).action)]))).after
  (.attempt (.other "FileExistsError" "already exists") {} (some "s") 4
    (.ofList [("overwrite", (Script.ofList [false]).action)]))

theorem LeadsTo.four_waits_go_on :
    roomForTwo.sessions.attempts = Slots.empty ∧
    ∃ past, roomForTwo.LeadsTo past triedAgain ∧
      triedAgain.sessions.attempts.get? "s" = some 4 ∧
      (past.sleeps 2 "s").length = 4 ∧
      (past.sleeps 2 "s")[2]? = Backoff.second.delay? (3 : Nat) ∧
      (((past.attempts 2 "s").filter (·.budget = 4)).length : Int) ≤ 4 := by
  have hrun : ∃ past, roomForTwo.LeadsTo past triedAgain :=
    ⟨_, .next (.next .start (.classified (Log.record_of_ok rfl)
        (.retried ⟨by decide +kernel, .inr (by decide +kernel)⟩)))
      (.classified (Log.record_of_ok rfl)
        (.retried ⟨by decide +kernel, .inl ⟨"overwrite", ["backup-then-create", "rename"],
          by decide +kernel, by decide, by decide +kernel⟩⟩))⟩
  obtain ⟨past, hleads⟩ := hrun
  have hmade : triedAgain.sessions.attempts.get? "s" = some 4 := by decide +kernel
  obtain ⟨hwaits, hbudgets, -⟩ := LeadsTo.waits_go_on rfl hleads
  obtain ⟨hlength, hdelays⟩ := hwaits "s" 4 hmade (by decide)
  exact ⟨rfl, past, hleads, hmade, hlength, hdelays 2 (by decide), hbudgets "s" 4⟩

end Engine

end SlashLine.Recovery
