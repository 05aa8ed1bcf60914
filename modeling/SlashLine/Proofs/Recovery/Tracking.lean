import SlashLine.Proofs.Recovery.Requests

/-!
# Which sessions are tracked

An engine tracks the sessions that were touched last since everything was forgotten, as many as
there is room for, in the order of their last touch; and the attempts of a tracked session are those
made for it since it was last touched without being tracked. Which requests touch a session is
stated apart from what they do: `Touches` names them, and every other request but the one to forget
everything leaves the sessions alone.

* `Touches`: the requests that touch a session.
* `Sessions.Charged`: what a touch and the attempts after it change.
* `Engine.LeadsTo.tracks_latest`: the sessions and their attempts after any requests.
-/

namespace SlashLine.Recovery

open Ledger

/-! ## Touches -/

/-- The session that an id stands for: where none is given, or an empty one, the unnamed session. -/
inductive Names : Option String → String → Prop
  | missing : Names none "default"
  | empty : Names (some "") "default"
  | given {id : String} (hid : id ≠ "") : Names (some id) id

theorem names_iff {session : Option String} {k : String} :
    Names session k ↔ Sessions.key session = k := by
  constructor
  · intro h
    cases h with
    | missing => rfl
    | empty => rfl
    | given hid => simp [Sessions.key, hid]
  · rintro rfl
    cases session with
    | none => exact .missing
    | some id =>
      by_cases hid : id = ""
      · subst hid
        exact .empty
      · have hkey : Sessions.key (some id) = id := by simp [Sessions.key, hid]
        rw [hkey]
        exact .given hid

/-- A request that touches a session: to ask for its attempts, or to recover on its behalf from a
report that is tried again, however many attempts are left. -/
inductive Touches (engine : Engine) : Request → String → Prop
  | state {session : Option String} {k : String} (hk : Names session k) :
      Touches engine (.state session) k
  | recover {report : Report} {session : Option String} {maxRetries : Int}
      {actions : Slots String Action} {k : String} (hretried : Retried report actions)
      (hk : Names session k) : Touches engine (.recover report session maxRetries actions) k
  | attempt {fault : Fault} {context : FaultContext} {session : Option String} {maxRetries : Int}
      {actions : Slots String Action} {report : Report} {log : Log} {k : String}
      (hrecord : engine.log.record fault context = (.ok report, log))
      (hretried : Retried report actions) (hk : Names (Engine.chargedSession session report) k) :
      Touches engine (.attempt fault context session maxRetries actions) k

/-- A session is touched, and so many attempts are made for it: they are added to those it has, or
to none if it is not tracked. The other sessions keep theirs, those that are still tracked. -/
structure Sessions.Charged (before after : Sessions) (k : String) (made : Nat) : Prop where
  own : after.attempts.get? k = some (before.count k + made)
  others : ∀ k' ∈ after.attempts.keys, k' ≠ k →
    after.attempts.get? k' = before.attempts.get? k'

theorem Sessions.charged_touch (s : Sessions) (k : String) : s.Charged (s.touch k) k 0 := by
  refine ⟨?_, ?_⟩
  · rw [get?_touch (mem_touch_self s k), if_pos rfl, Nat.add_zero]
  · intro k' hk' hne
    rw [get?_touch hk', if_neg fun e => hne e.symm]

theorem Engine.charged_charged (engine : Engine) (k : String) (made : Nat) :
    engine.sessions.Charged (engine.charged k made).sessions k made := by
  have hk := Sessions.mem_touch_self engine.sessions k
  refine ⟨?_, ?_⟩
  · rw [charged, Sessions.get?_setCount hk, if_pos rfl]
  · intro k' hk' hne
    have hk'' : k' ∈ (engine.sessions.touch k).attempts.keys := by
      rwa [charged, Sessions.keys_setCount] at hk'
    rw [charged, Sessions.get?_setCount hk, if_neg fun e => hne e.symm]
    exact (engine.sessions.charged_touch k).others k' hk'' hne

namespace Engine

variable {start engine : Engine} {request : Request} {past later : Ledger} {k : String}

/-- A request that touches a session brings it to the front, and charges it and no other. -/
theorem Writes.of_touches (h : engine.Writes request past later)
    (htouch : Touches engine request k) :
    ∃ made, later = afterAttempts k (.touch k :: past) made ∧
      engine.sessions.Charged (engine.after request).sessions k made.length := by
  induction h with
  | @state engine session past =>
    cases htouch with
    | state hk =>
      rw [names_iff] at hk
      subst hk
      exact ⟨[], rfl, engine.sessions.charged_touch _⟩
  | @retried engine report session maxRetries actions past hretried =>
    cases htouch with
    | recover _ hk =>
      rw [names_iff] at hk
      subst hk
      rw [after_of_retried hretried]
      exact ⟨_, rfl, engine.charged_charged _ _⟩
  | passedOver hnot =>
    cases htouch with
    | recover hretried _ => exact absurd hretried hnot
  | @classified engine fault context session maxRetries actions past later report log hrecord
      hrecovery ih =>
    cases htouch with
    | attempt hrecord' hretried hk =>
      rw [hrecord] at hrecord'
      cases hrecord'
      rw [after_of_classified hrecord]
      exact ih (.recover hretried hk)
  | unclassified hrecord =>
    cases htouch with
    | attempt hrecord' _ _ =>
      rw [hrecord] at hrecord'
      cases hrecord'
  | clear => cases htouch

/-- A request that touches none leaves the sessions as they were. -/
theorem Writes.of_not_touches (h : engine.Writes request past later) (hclear : request ≠ .clear)
    (hnone : ∀ k, ¬ Touches engine request k) :
    later = past ∧ (engine.after request).sessions = engine.sessions := by
  induction h with
  | state => exact absurd (.state (names_iff.mpr rfl)) (hnone _)
  | retried hretried => exact absurd (.recover hretried (names_iff.mpr rfl)) (hnone _)
  | passedOver hnot =>
    rw [after_of_not_retried hnot]
    exact ⟨rfl, rfl⟩
  | classified hrecord hrecovery ih =>
    rw [after_of_classified hrecord]
    refine ih (fun e => by cases e) fun k htouch => ?_
    cases htouch with
    | recover hretried hk => exact hnone k (.attempt hrecord hretried hk)
  | unclassified hrecord =>
    rw [after_of_unclassified hrecord]
    exact ⟨rfl, rfl⟩
  | clear => exact absurd rfl hclear

/-! ## After any requests -/

/-- The tracked sessions are the last ones that were touched since everything was forgotten, each
once, in the order of their last touch. A tracked session has as many attempts as were made for it
since it was last touched untracked, and an untracked one has none when it is touched. A request
either touches a session, and charges its attempts to that one alone, or changes no session, unless
it is the one to forget everything. -/
theorem LeadsTo.tracks_latest (hnone : start.sessions.attempts = Slots.empty)
    (h : start.LeadsTo past engine) :
    engine.sessions.attempts.keys.Nodup ∧
    engine.sessions.attempts.keys = (past.touched.take start.sessions.limit).reverse ∧
    (∀ k ∈ engine.sessions.attempts.keys, engine.sessions.attempts.get? k =
      some (past.attempts start.sessions.limit k).length) ∧
    (∀ session k, Names session k → k ∉ engine.sessions.attempts.keys →
      (engine.touch session).1 = 0) ∧
    ∀ request, ∃ later, engine.Writes request past later ∧
      (∀ k, Touches engine request k →
        ∃ made, later = afterAttempts k (.touch k :: past) made ∧
          engine.sessions.Charged (engine.after request).sessions k made.length) ∧
      (request ≠ .clear → (∀ k, ¬ Touches engine request k) →
        later = past ∧ (engine.after request).sessions = engine.sessions) := by
  obtain ⟨hlatest, hcounts⟩ := h.describes hnone
  rw [h.settings.2] at hlatest hcounts
  refine ⟨engine.sessions.attempts.nodup, ?_, hcounts, ?_, fun request => ?_⟩
  · rw [← List.reverse_eq_iff]
    exact hlatest
  · intro session k hk huntracked
    rw [names_iff] at hk
    subst hk
    have hcount : (engine.touch session).1 = engine.sessions.count (Sessions.key session) :=
      Sessions.count_touch_self _ _
    rw [hcount, Sessions.count, Slots.get?_of_not_mem huntracked]
    rfl
  · obtain ⟨later, hwrites⟩ := engine.exists_writes request past
    exact ⟨later, hwrites, fun k => hwrites.of_touches, hwrites.of_not_touches⟩

/-- An engine with room for two sessions, whose attempts wait two seconds at first. -/
def roomForTwo : Engine where
  log :=
    { classifier := classify none
      capacity := 2
      capacity_pos := by decide
      clock := fun _ => { micros := 0 } }
  backoff := .second
  sessions := { limit := 2, limit_pos := by decide }

/-- A report about the network. -/
def timedOut : Report where
  category := .network
  severity := .medium
  recoverable := true
  userMessage := "Network error occurred."
  technicalMessage := "timed out"
  context := {}
  timestamp := none

/-- Three sessions are touched; one of the last two has an attempt. -/
def pushedOut : Engine :=
  ((roomForTwo.after (.state (some "a"))).after
    (.recover timedOut (some "b") 3 Slots.empty)).after (.state none)

theorem LeadsTo.tracks_last_two :
    roomForTwo.sessions.attempts = Slots.empty ∧
    ∃ past, roomForTwo.LeadsTo past pushedOut ∧ past.touched = ["default", "b", "a"] ∧
      pushedOut.sessions.attempts.keys = ["b", "default"] ∧
      pushedOut.sessions.attempts.get? "b" = some 1 ∧
      (pushedOut.touch (some "a")).1 = 0 := by
  have hnone : Retried timedOut (Slots.empty : Slots String Action) := ⟨rfl, .inr rfl⟩
  have hrun : ∃ past, roomForTwo.LeadsTo past pushedOut ∧ past.touched = ["default", "b", "a"] ∧
      (past.attempts 2 "b").length = 1 :=
    ⟨_, .next (.next (.next .start .state) (.retried hnone)) .state, by decide +kernel,
      by decide +kernel⟩
  obtain ⟨past, hleads, htouched, hmade⟩ := hrun
  obtain ⟨-, hkeys, hcounts, hnew, -⟩ := LeadsTo.tracks_latest rfl hleads
  have hlast : pushedOut.sessions.attempts.keys = ["b", "default"] := by
    rw [hkeys, htouched]
    rfl
  refine ⟨rfl, past, hleads, htouched, hlast, ?_, hnew (some "a") "a" (.given (by decide)) ?_⟩
  · rw [hcounts "b" (by rw [hlast]; decide)]
    exact congrArg some hmade
  · rw [hlast]
    decide

end Engine

end SlashLine.Recovery
