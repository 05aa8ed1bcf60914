import SlashLine.Dispatch.Router

/-!
# The history of a router

A router starts without commands and changes by one act after the other: commands are registered
and removed, a bridge is set, lines are routed, and between the calls its log, its engine and its
stage may be used by others. Histories are written with the newest act first.

* `Router.Reached`: the routers that a history leads to.
* `Router.Reached.get?_commands`: a name stands for what was registered last under it.
-/

namespace SlashLine.Dispatch

open Command Output Recovery

/-- Something that happens to a router. -/
inductive Act where
  | register (entry : CommandEntry)
  | unregister (name : String)
  /-- All commands are removed. -/
  | reset
  | connect (bridge : Option Bridge)
  /-- Others have used what the router shares with them, and leave it like this. -/
  | share (engine : Engine) (ownLog : Option Log) (stage : Stage)
  | route (input : String) (context : Context)

namespace Router

/-- The router after an act. -/
def act (router : Router) : Act → Router
  | .register entry => router.register entry
  | .unregister name => router.unregister name
  | .reset => { router with commands := Slots.empty }
  | .connect bridge => { router with bridge }
  | .share engine ownLog stage => { router with engine, ownLog, stage }
  | .route input context => (router.route input context).router

/-- The routers that a history leads to. -/
inductive Reached : List Act → Router → Prop
  | start {router : Router} (hcommands : router.commands = Slots.empty)
      (hphase : router.lastPhase = .idle) : Reached [] router
  | next {past : List Act} {router : Router} (hpast : Reached past router) (a : Act) :
      Reached (a :: past) (router.act a)

/-- A router that nothing has happened to, with room for as many reports and sessions as usual. -/
def fresh : Router where
  commands := Slots.empty
  home := none
  engine := {
    log := {
      classifier := classify none
      capacity := 100
      capacity_pos := by decide
      clock := fun _ => ⟨0, none⟩ }
    backoff := Backoff.second
    sessions := { limit := 100, limit_pos := by decide } }
  tips := TipCatalog.source {}

theorem reached_fresh : fresh.Reached [] := .start rfl rfl

end Router

/-- The command that was registered last under a name, unless it has been removed since. -/
def lastRegistered (name : String) : List Act → Option CommandEntry
  | [] => none
  | .register entry :: past =>
    if entry.schema.name = name then some entry else lastRegistered name past
  | .unregister removed :: past => if removed = name then none else lastRegistered name past
  | .reset :: _ => none
  | .connect _ :: past => lastRegistered name past
  | .share _ _ _ :: past => lastRegistered name past
  | .route _ _ :: past => lastRegistered name past

namespace Router

@[simp] theorem commands_close (router : Router) (outcome : Except Fault Result) (call : Call) :
    (router.close outcome call).router.commands = router.commands := rfl

@[simp] theorem commands_route (router : Router) (input : String) (context : Context) :
    (router.route input context).router.commands = router.commands := by
  unfold route
  dsimp only
  split <;> exact commands_close _ _ _

theorem Reached.get?_commands {past : List Act} {router : Router} (h : router.Reached past)
    (name : String) : router.commands.get? name = lastRegistered name past := by
  induction h with
  | start hcommands _ =>
    rw [hcommands]
    rfl
  | next _ a ih =>
    cases a with
    | register entry => simp only [act, register, lastRegistered, Slots.get?_set, ih]
    | unregister removed => simp only [act, unregister, lastRegistered, Slots.get?_erase, ih]
    | reset => rfl
    | connect bridge => exact ih
    | share engine ownLog stage => exact ih
    | route input context =>
      simp only [act, commands_route]
      exact ih

end Router

end SlashLine.Dispatch
