import HubRelay.Proofs.Web.Steps

/-!
Contract: whatever is done with the web interface is part of a journal.

Owns: that letting everything run, the passing of time, and requests whose answer is all that is
wanted are made of steps, as what is done at a stretch on the exchange is made of actions.

Does not own: what holds along journals.
-/

namespace HubRelay

namespace Gateway

/-- A gateway gets to another one by some steps. -/
def Runs (gateway later : Gateway) : Prop :=
  ∃ steps : List Step, steps.foldl perform gateway = later

namespace Runs

variable {first second third : Gateway}

theorem refl (gateway : Gateway) : gateway.Runs gateway :=
  ⟨[], rfl⟩

theorem trans (one : first.Runs second) (two : second.Runs third) : first.Runs third := by
  obtain ⟨steps, rfl⟩ := one
  obtain ⟨more, rfl⟩ := two
  exact ⟨steps ++ more, List.foldl_append⟩

theorem perform (gateway : Gateway) (step : Step) : gateway.Runs (gateway.perform step) :=
  ⟨[step], rfl⟩

theorem foldl {α : Type} {change : Gateway → α → Gateway}
    (each : ∀ (gateway : Gateway) (item : α), gateway.Runs (change gateway item)) (items : List α)
    (gateway : Gateway) : gateway.Runs (items.foldl change gateway) := by
  induction items generalizing gateway with
  | nil => exact refl gateway
  | cons item items inductionHypothesis =>
    exact (each gateway item).trans (inductionHypothesis (change gateway item))

end Runs

variable (gateway : Gateway) (requestId : String)

/-- What goes on by itself on the exchange goes on elsewhere. -/
theorem runs_of_reaches {later : Exchange} (reaches : gateway.exchange.Reaches later) :
    gateway.Runs { gateway with exchange := later } := by
  obtain ⟨actions, own, rfl⟩ := reaches
  induction actions generalizing gateway with
  | nil => exact .refl gateway
  | cons action actions inductionHypothesis =>
    have first : gateway.perform (.elsewhere action) =
        { gateway with exchange := gateway.exchange.perform action } :=
      if_pos (gateway.admits_own (own action List.mem_cons_self))
    have rest := inductionHypothesis { gateway with exchange := gateway.exchange.perform action }
      fun other among => own other (List.mem_cons_of_mem _ among)
    exact (first ▸ Runs.perform gateway (.elsewhere action)).trans rest

/-- Letting everything run is made of steps. -/
theorem runs_settle : gateway.Runs (gateway.settle requestId) := by
  have calling := Runs.foldl fun gateway key => Runs.perform gateway (.receive key)
  have going := Runs.foldl fun gateway key => Runs.perform gateway (.goOn requestId key)
  have handing := Runs.foldl fun gateway key => Runs.perform gateway (.hand key)
  have serving := Runs.foldl fun gateway key => Runs.perform gateway (.serve key)
  have exchanging (gateway : Gateway) :
      gateway.Runs { gateway with exchange := gateway.exchange.settle } :=
    gateway.runs_of_reaches gateway.exchange.reaches_settle
  let keys := List.range gateway.sockets.length
  exact (calling keys gateway).trans ((exchanging _).trans ((going keys _).trans
    ((exchanging _).trans ((handing keys _).trans (serving keys _)))))

/-- The passing of time is made of steps. -/
theorem runs_advance (milliseconds : Nat) :
    gateway.Runs (gateway.advance requestId milliseconds) :=
  (gateway.runs_of_reaches (gateway.exchange.reaches_advance milliseconds)).trans
    (runs_settle _ requestId)

/-- A request whose answer is all that is wanted is made of steps. -/
theorem runs_answer (uptime : Nat) (request : Http.Request) :
    gateway.Runs (gateway.answer requestId uptime request).2.2 := by
  have waiting (later : Gateway) (left : Nat) :
      later.Runs (if left = 0 then later else later.advance requestId left) := by
    split
    · exact .refl later
    · exact later.runs_advance requestId left
  let asked := gateway.perform (.connect requestId uptime none request)
  let key := (gateway.connect requestId uptime none request).2.1
  have asks : gateway.Runs asked := Runs.perform gateway (.connect requestId uptime none request)
  have waits := waiting (asked.settle requestId) ((asked.settle requestId).remaining key)
  exact asks.trans ((asked.runs_settle requestId).trans (waits.trans (Runs.perform _ (.cut key))))

end Gateway

/-- Where the web interface gets to from the end of a journal is the end of a longer one. -/
theorem Journal.of_runs {settings : Settings} {origins : List String} {steps : List Gateway.Step}
    {later : Gateway} (runs : (of settings origins steps).gateway.Runs later) :
    ∃ more, (of settings origins (steps ++ more)).gateway = later := by
  obtain ⟨more, rfl⟩ := runs
  refine ⟨more, ?_⟩
  rw [← gateway_run, of, of, run, run, List.foldl_append]
  rfl

end HubRelay
